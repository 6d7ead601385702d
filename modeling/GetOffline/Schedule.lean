import GetOffline.JobSystem
import Mathlib.Data.List.Sort

set_option autoImplicit true

namespace GetOffline
open Python

/-- A `scheduled_jobs` row under its primary key. -/
structure ScheduledJob where
  profileId : String
  jobType : String
  enabled : Bool
  intervalSeconds : Nat
  payload : Json
  idempotencyKeyTemplate : String
  nextRunAt : Instant
  lastRunAt : Option Instant
  updatedAt : Instant

abbrev ScheduleTable := Table Nat ScheduledJob

def renderIdempotencyKey (scheduleId : Nat) (schedule : ScheduledJob) (dueAt : Instant) : String :=
  if schedule.idempotencyKeyTemplate ≠ "" then
    safeSubstitute schedule.idempotencyKeyTemplate
      [("schedule_id", toString scheduleId), ("profile_id", schedule.profileId),
        ("job_type", schedule.jobType), ("due_at", isoformat dueAt),
        ("due_date", (Date.ofInstant dueAt).isoformat), ("due_hour", isoHour dueAt)]
  else
    "scheduled:" ++ toString scheduleId ++ ":" ++ schedule.jobType ++ ":" ++ isoformat dueAt

/-- The `while` loop of `_next_run_after`, in at most so many turns. -/
def skipPast (interval now : Int) : Nat → Instant → Instant
  | 0, nextRun => nextRun
  | turns + 1, nextRun =>
    if nextRun ≤ now then skipPast interval now turns (nextRun + interval) else nextRun

/-- The interval in microseconds. -/
def ScheduledJob.interval (schedule : ScheduledJob) : Int :=
  max 60 (if schedule.intervalSeconds = 0 then 60 else schedule.intervalSeconds) * 1000000

def nextRunAfter (schedule : ScheduledJob) (now dueAt : Instant) : Except Error Instant :=
  let interval := schedule.interval
  let nextRun := dueAt + interval
  let nextRun := skipPast interval now ((now - nextRun) / interval + 1).toNat nextRun
  if maxInstant < nextRun then .error .overflowError else .ok nextRun

/-- The ids that a pass finds due, in its order. -/
def dueIds (now : Instant) (limit : Int) (schedules : ScheduleTable) : List Nat :=
  let due := schedules.entries.filter fun e => e.2.enabled && e.2.nextRunAt ≤ now
  let ordered := due.insertionSort fun a b =>
    toLex (a.2.nextRunAt, a.1) ≤ toLex (b.2.nextRunAt, b.1)
  (ordered.map Sigma.fst).take (max 1 limit).toNat

/-- `dict(payload or {})`. `pairs` is what `dict` makes of a list that is not empty. -/
def payloadDict (pairs : Except Error (List (String × Json))) (payload : Json) :
    Except Error (List (String × Json)) :=
  if payload.truthy then
    match payload with
    | .object items => .ok items
    | .array _ => pairs
    | .string _ => .error .valueError
    | _ => .error .typeError
  else .ok []

/-- `items.setdefault(key, value)`. -/
def setDefault (key : String) (value : Json) (items : List (String × Json)) : List (String × Json) :=
  if (Json.get key items).isSome then items else Json.set key value items

/-- A run of a schedule that a pass has enqueued, with the job that `create_job` returned. -/
structure FiredRun where
  scheduleId : Nat
  dueAt : Instant
  jobId : Nat
deriving DecidableEq

/-- The transaction of one turn of `enqueue_due_scheduled_jobs`, if the database does not raise. `now`
is the time of the pass, `clock` that of `_next_run_after`. A turn that enqueues nothing `continue`s. -/
def enqueueSchedule (scheduleId : Nat) (now clock createdAt updatedAt : Instant)
    (pairs : Except Error (List (String × Json))) (schedules : ScheduleTable) (db : Database) :
    Except Error (ScheduleTable × Database × Option FiredRun) :=
  match schedules.lookup scheduleId with
  | none => .error (.other "ScheduledJob matching query does not exist.")
  | some schedule =>
    if !schedule.enabled || now < schedule.nextRunAt then .ok (schedules, db, none)
    else if parseStrEnum JobType schedule.jobType = none then
      let disable (schedule : ScheduledJob) := { schedule with enabled := false, updatedAt := now }
      .ok (schedules.update (fun k _ => k == scheduleId) disable, db, none)
    else do
      let dueAt := schedule.nextRunAt
      let payload ← payloadDict pairs schedule.payload
      let payload := setDefault "scheduled_job_id" (.int scheduleId) payload
      let payload := setDefault "scheduled_due_at" (.string (isoformat dueAt)) payload
      let args := {
        profileId := schedule.profileId
        jobType := schedule.jobType
        payload := some payload
        idempotencyKey := some (renderIdempotencyKey scheduleId schedule dueAt) }
      let (jobId, db) := createJob args createdAt updatedAt db
      let nextRunAt ← nextRunAfter schedule clock dueAt
      let advance (schedule : ScheduledJob) :=
        { schedule with lastRunAt := some now, nextRunAt, updatedAt := now }
      .ok (schedules.update (fun k _ => k == scheduleId) advance, db,
        some { scheduleId, dueAt, jobId })

/-- A pass: its time, the ids still to do, the job that it is about to publish, and those that it has
published, which it returns. -/
structure SchedulerPass where
  now : Instant
  dueIds : List Nat
  publishing : Option Nat
  enqueuedJobIds : List Nat

/-- The database, the scheduler passes on it, and the ids of the jobs that the broker was given a
message for. The last two fields are a record of the runs that became due and of those enqueued. -/
structure ScheduleWorld (P : Type) where
  schedules : ScheduleTable
  db : Database
  passes : Table P SchedulerPass
  messages : List Nat
  due : List (Nat × Instant)
  fired : List FiredRun

/-- The steps of passes, and what workers and other callers of `create_job` and `publish_job` do: a
worker only ever takes a job out of `QUEUED`. -/
inductive ScheduleEvent (P : Type)
  | begin (pass : P) (now : Instant) (limit : Int)
  | enqueue (pass : P) (clock createdAt updatedAt : Instant)
      (pairs : Except Error (List (String × Json))) (raised : Option String)
  | publish (pass : P) (outcome : Outcome)
  | work (jobId : Nat) (f : Job → Job)
  | create (job : Job)
  | send (jobId : Nat)

namespace ScheduleWorld

variable [DecidableEq P]

def initial (schedules : ScheduleTable) (db : Database) (messages : List Nat) : ScheduleWorld P :=
  { schedules, db, passes := ∅, messages, due := [], fired := [] }

def setPass (p : P) (pass : SchedulerPass) (w : ScheduleWorld P) : ScheduleWorld P :=
  { w with passes := AList.insert p pass w.passes }

/-- An exception leaves the pass. -/
def abort (p : P) (w : ScheduleWorld P) : ScheduleWorld P :=
  { w with passes := AList.erase p w.passes }

/-- The runs that are due at the time of a pass, whether or not its limit admits them. -/
def dueRuns (now : Instant) (schedules : ScheduleTable) : List (Nat × Instant) :=
  (schedules.entries.filter fun e => e.2.enabled && e.2.nextRunAt ≤ now).map fun e =>
    (e.1, e.2.nextRunAt)

/-- An exception inside the transaction rolls it back. -/
def enqueue (p : P) (pass : SchedulerPass) (scheduleId : Nat) (dueIds : List Nat)
    (clock createdAt updatedAt : Instant) (pairs : Except Error (List (String × Json)))
    (raised : Option String) (w : ScheduleWorld P) : ScheduleWorld P :=
  match raised, enqueueSchedule scheduleId pass.now clock createdAt updatedAt pairs w.schedules w.db with
  | some _, _ | none, .error _ => w.abort p
  | none, .ok (schedules, db, none) => { w with schedules, db }.setPass p { pass with dueIds }
  | none, .ok (schedules, db, some run) =>
    { w with
      schedules
      db
      due := (run.scheduleId, run.dueAt) :: w.due
      fired := run :: w.fired }.setPass p { pass with dueIds, publishing := some run.jobId }

/-- `publish_job` after the transaction. What is applied is the message that the broker gets. -/
def publish (p : P) (pass : SchedulerPass) (jobId : Nat) (outcome : Outcome) (w : ScheduleWorld P) :
    ScheduleWorld P :=
  let w := if outcome.applied then { w with messages := jobId :: w.messages } else w
  match outcome.error with
  | none => w.setPass p { pass with
      publishing := none, enqueuedJobIds := pass.enqueuedJobIds ++ [jobId] }
  | some _ => w.abort p

def step (w : ScheduleWorld P) : ScheduleEvent P → Option (ScheduleWorld P)
  | .begin p now limit =>
    if w.passes.lookup p = none then
      some ({ w with due := dueRuns now w.schedules ++ w.due }.setPass p
        { now, dueIds := dueIds now limit w.schedules, publishing := none, enqueuedJobIds := [] })
    else none
  | .enqueue p clock createdAt updatedAt pairs raised =>
    (w.passes.lookup p).bind fun pass =>
      match pass.publishing, pass.dueIds with
      | none, scheduleId :: dueIds =>
        some (w.enqueue p pass scheduleId dueIds clock createdAt updatedAt pairs raised)
      | _, _ => none
  | .publish p outcome =>
    (w.passes.lookup p).bind fun pass =>
      pass.publishing.map fun jobId => w.publish p pass jobId outcome
  | .work jobId f =>
    if (w.db.jobs.lookup jobId).all fun job => (f job).status ≠ .queued then
      some { w with db := w.db.save jobId f }
    else none
  | .create job => some { w with db := w.db.create job }
  | .send jobId => some { w with messages := jobId :: w.messages }

end ScheduleWorld

end GetOffline
