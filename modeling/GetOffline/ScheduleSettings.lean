import GetOffline.ScheduleRuns

set_option autoImplicit true

namespace GetOffline
open Python Execution

-- api/services/dashboard_actions.py

def updateDownloadsTemplate : String :=
  "scheduled:update_downloads:${profile_id}:${due_hour}"

/-- What a save writes into the row: the next run only when it is past or the interval is another. -/
def ScheduledJob.sync (intervalSeconds : Nat) (nextRunAt now : Instant) (schedule : ScheduledJob) :
    ScheduledJob :=
  { schedule with
    enabled := true
    intervalSeconds
    payload := .object [("source", .string "scheduler")]
    idempotencyKeyTemplate := updateDownloadsTemplate
    nextRunAt :=
      if schedule.nextRunAt ≤ now ∨ schedule.intervalSeconds ≠ intervalSeconds then nextRunAt
      else schedule.nextRunAt
    updatedAt := now }

def ScheduledJob.disable (now : Instant) (schedule : ScheduledJob) : ScheduledJob :=
  { schedule with enabled := false, updatedAt := now }

/-- `ScheduledJob.objects.filter(...).first()`. -/
def updateSchedule (profileId : String) (schedules : ScheduleTable) : Option (Nat × ScheduledJob) :=
  schedules.first (fun _ schedule => schedule.profileId = profileId &&
    schedule.jobType = "update_downloads") fun id _ => id

/-- `_sync_update_downloads_schedule`. `newId` is the key of a row that it inserts. -/
def syncUpdateDownloadsSchedule (profileId rawMinutes : String) (now : Instant) (newId : Nat)
    (schedules : ScheduleTable) : Except Error ScheduleTable :=
  match intOfText (strip rawMinutes) with
  | .error _ => .ok schedules
  | .ok minutes =>
    let found := updateSchedule profileId schedules
    if minutes ≤ 0 then
      match found with
      | some (id, schedule) =>
        if schedule.enabled then
          .ok (schedules.update (fun k _ => k == id) (ScheduledJob.disable now))
        else .ok schedules
      | none => .ok schedules
    else
      let intervalSeconds := max 60 (minutes.toNat * 60)
      let nextRunAt := now + intervalSeconds * 1000000
      if maxInstant < nextRunAt then .error .overflowError
      else
        match found with
        | none => .ok (AList.insert newId {
            profileId, jobType := "update_downloads", enabled := true, intervalSeconds,
            payload := .object [("source", .string "scheduler")],
            idempotencyKeyTemplate := updateDownloadsTemplate, nextRunAt, lastRunAt := none,
            updatedAt := now } schedules)
        | some (id, _) =>
          .ok (schedules.update (fun k _ => k == id) (ScheduledJob.sync intervalSeconds nextRunAt now))

/-- When a step of a pass asks for the time, the time that it gets. -/
def ScheduleEvent.time : ScheduleEvent P → Option Instant
  | .begin _ now _ => some now
  | .enqueue _ clock _ _ _ _ => some clock
  | _ => none

/-- The scheduler's world, and the latest time that anyone has been told. -/
structure TimedWorld (P : Type) where
  world : ScheduleWorld P
  clock : Instant

/-- The scheduler and the workers take their steps, and profiles save their settings, each save being
one transaction, which may fail. -/
inductive TimedEvent (P : Type)
  | scheduler (event : ScheduleEvent P)
  | save (profileId rawMinutes : String) (now : Instant) (newId : Nat) (outcome : Outcome)

namespace TimedWorld
variable [DecidableEq P]

def initial (schedules : ScheduleTable) (db : Database) (clock : Instant) : TimedWorld P where
  world := .initial schedules db []
  clock := clock

/-- The table after a save. -/
def saved (profileId rawMinutes : String) (now : Instant) (newId : Nat) (outcome : Outcome)
    (schedules : ScheduleTable) : ScheduleTable :=
  match outcome.applied, syncUpdateDownloadsSchedule profileId rawMinutes now newId schedules with
  | true, .ok schedules' => schedules'
  | _, _ => schedules

/-- The clock does not go back, and the key of a new row is a new one. -/
def step (w : TimedWorld P) : TimedEvent P → Option (TimedWorld P)
  | .scheduler event =>
    let clock := event.time.getD w.clock
    if w.clock ≤ clock then (w.world.step event).map fun world => { world, clock } else none
  | .save profileId rawMinutes now newId outcome =>
    if w.clock ≤ now ∧ w.world.schedules.lookup newId = none then
      some {
        world := { w.world with
          schedules := saved profileId rawMinutes now newId outcome w.world.schedules }
        clock := now }
    else none

end TimedWorld

end GetOffline
