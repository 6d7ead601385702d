import GetOffline.Domain
import GetOffline.Json
import GetOffline.PythonTime
import GetOffline.Table

set_option autoImplicit true

namespace GetOffline
open Python

/-- A `jobs` row, or a copy of one, under its primary key. -/
structure Job where
  profileId : String
  jobType : String
  status : JobStatus
  payload : Json
  idempotencyKey : Option String
  errorMessage : Option String
  createdAt : Instant
  updatedAt : Instant
  startedAt : Option Instant
  finishedAt : Option Instant

abbrev JobTable := Table Nat Job

/-- `QUEUED` or `RUNNING`. -/
def Job.active (job : Job) : Bool :=
  job.status = .queued || job.status = .running

/-- `SUCCEEDED` or `FAILED`. -/
def Job.terminal (job : Job) : Bool :=
  job.status = .succeeded || job.status = .failed

/-- `save(update_fields=...)`: the given change of the fields, made to the row. -/
def saveFields (id : Nat) (f : Job → Job) (jobs : JobTable) : JobTable :=
  jobs.update (fun k _ => k == id) f

theorem lookup_saveFields (id : Nat) (f : Job → Job) (jobs : JobTable) (j : Nat) :
    (saveFields id f jobs).lookup j =
      if j = id then (jobs.lookup id).map f else jobs.lookup j := by
  have h := congrFun (Table.lookup_update_at f jobs id) j
  simp only [Function.update_apply] at h
  exact h

/-- The `jobs` table and the id of its next row: ids are given out in order. -/
structure Database where
  jobs : JobTable
  nextId : Nat
  fresh : ∀ i, nextId ≤ i → jobs.lookup i = none

namespace Database

def empty : Database where
  jobs := ∅
  nextId := 1
  fresh := fun _ _ => rfl

def save (i : Nat) (f : Job → Job) (db : Database) : Database where
  jobs := saveFields i f db.jobs
  nextId := db.nextId
  fresh := by
    intro j hj
    rw [lookup_saveFields]
    split
    · next h => rw [← h, db.fresh j hj, Option.map_none]
    · exact db.fresh j hj

/-- A row under the next id. -/
def create (job : Job) (db : Database) : Database where
  jobs := AList.insert db.nextId job db.jobs
  nextId := db.nextId + 1
  fresh := by
    intro j hj
    rw [AList.lookup_insert_ne (Nat.ne_of_gt hj)]
    exact db.fresh j (Nat.le_of_succ_le hj)

theorem lookup_save (i : Nat) (f : Job → Job) (db : Database) :
    (db.save i f).jobs.lookup i = (db.jobs.lookup i).map f :=
  (lookup_saveFields i f db.jobs i).trans (if_pos rfl)

theorem lookup_create (job : Job) (db : Database) (i : Nat) :
    (db.create job).jobs.lookup i = if i = db.nextId then some job else db.jobs.lookup i := by
  have h := congrFun (Table.lookup_insert_eq db.nextId job db.jobs) i
  simp only [Function.update_apply] at h
  exact h

/-- The row under the id is `QUEUED`. -/
def isQueued (i : Nat) (db : Database) : Bool :=
  (db.jobs.lookup i).any fun job => job.status = .queued

theorem isQueued_create_of_lt (h : i < db.nextId) (job : Job) :
    (Database.create job db).isQueued i = db.isQueued i := by
  rw [isQueued, lookup_create, if_neg (Nat.ne_of_lt h)]
  rfl

/-- A save that leaves its row out of `QUEUED` puts no row there. -/
theorem isQueued_save_le (h : ∀ job, db.jobs.lookup j = some job → (f job).status ≠ .queued)
    (hq : (Database.save j f db).isQueued i = true) : db.isQueued i = true := by
  rw [isQueued, save, lookup_saveFields] at hq
  split at hq
  · cases hj : db.jobs.lookup j with
    | none =>
      rw [hj] at hq
      cases hq
    | some job =>
      rw [hj, Option.map_some, Option.any_some, decide_eq_true_eq] at hq
      exact (h job hj hq).elim
  · exact hq

end Database

-- models/jobs.py

/-- The arguments of `create_job`. -/
structure JobArgs where
  profileId : String
  jobType : String
  payload : Option (List (String × Json))
  idempotencyKey : Option String

/-- The key under which `create_job` looks for an active job. -/
def JobArgs.key (args : JobArgs) : Option String :=
  args.idempotencyKey.filter fun key => key ≠ ""

/-- The `SELECT` of `create_job`. -/
def existingJob (args : JobArgs) (jobs : JobTable) : Option (Nat × Job) :=
  args.key.bind fun key =>
    jobs.first (fun _ job => job.idempotencyKey = some key && job.active) fun id _ => id

/-- The row that `create_job` inserts. -/
def newJob (args : JobArgs) (createdAt updatedAt : Instant) : Job where
  profileId := args.profileId
  jobType := args.jobType
  status := .queued
  payload := .object (args.payload.getD [])
  idempotencyKey := args.idempotencyKey
  errorMessage := none
  createdAt := createdAt
  updatedAt := updatedAt
  startedAt := none
  finishedAt := none

/-- `create_job` in a transaction of its caller: the id of the job, and the database. -/
def createJob (args : JobArgs) (createdAt updatedAt : Instant) (db : Database) : Nat × Database :=
  match existingJob args db.jobs with
  | some (i, _) => (i, db)
  | none => (db.nextId, db.create (newJob args createdAt updatedAt))

def Job.claim (now : Instant) (job : Job) : Job :=
  { job with status := .running, startedAt := some now, updatedAt := now }

/-- One transaction: the row is locked and its status checked again before it is saved. -/
def claimJob (now : Instant) (jobId : Nat) (jobs : JobTable) : JobTable × Option Job :=
  match jobs.lookup jobId with
  | some job =>
    if job.status = .queued then (saveFields jobId (Job.claim now) jobs, some (job.claim now))
    else (jobs, none)
  | none => (jobs, none)

/-- The change that `finish_job` makes to the caller's copy and saves. -/
def Job.finish (now : Instant) (status : JobStatus) (errorMessage : Option String) (job : Job) : Job :=
  { job with status, errorMessage, finishedAt := some now, updatedAt := now }

-- workers/handlers.py

/-- The copy that `_touch_active_job` saves; there is none within ten seconds of the last change. -/
def touchActiveJob (now : Instant) (stage title : String) (job : Job) : Option Job :=
  if now - job.updatedAt < 10 * 1000000 then none
  else
    let payload := Json.set "active_stage" (.string stage) job.payload.dict
    let payload := if title = "" then payload else Json.set "active_title" (.string title) payload
    some { job with payload := .object payload, updatedAt := now }

/-- What of the touched copy is saved. -/
def Job.saveTouch (copy : Job) (job : Job) : Job :=
  { job with payload := copy.payload, updatedAt := copy.updatedAt }

/-- A touch notes two things in the payload and leaves the rest of it. -/
theorem get_touchActiveJob (h : touchActiveJob now stage title job = some copy)
    (hstage : key ≠ "active_stage") (htitle : key ≠ "active_title") :
    Json.get key copy.payload.dict = Json.get key job.payload.dict := by
  simp only [touchActiveJob] at h
  split at h
  · cases h
  · obtain rfl := Option.some.inj h
    simp only [Json.dict]
    split
    · exact Json.get_set_of_ne hstage _ _
    · rw [Json.get_set_of_ne htitle, Json.get_set_of_ne hstage]

def activeDownloadJob (idempotencyKey : String) (jobs : JobTable) : Option (Nat × Job) :=
  jobs.first (fun _ job => job.idempotencyKey = some idempotencyKey && job.active)
    fun id job => toLex (job.createdAt, id)

/-- `raw` is the value of GETOFFLINE_STALE_RUNNING_JOB_SECONDS. -/
def staleRunningJobCutoff (raw : String) (now : Instant) : Except Error (Option Instant) :=
  let rawTimeout := strip raw
  if isDigit rawTimeout then do
    let timeoutSeconds ← intOfText rawTimeout
    if timeoutSeconds ≤ 0 then return none
    if maxDeltaSeconds < timeoutSeconds then throw .overflowError
    let cutoff := now - timeoutSeconds * 1000000
    if cutoff < minInstant then throw .overflowError
    return some cutoff
  else return none

/-- The change that `_make_stale_job_queued` makes to its copy and saves. -/
def Job.requeue (now : Instant) (job : Job) : Job :=
  { job with
    status := .queued
    errorMessage := some "Reset stale running job so it can be published again."
    startedAt := none
    finishedAt := none
    updatedAt := now }

/-- Whether `_make_stale_job_queued` goes on to save, as its copy of the job tells it. -/
def makesStaleJobQueued (raw : String) (now : Instant) (job : Job) : Except Error Bool :=
  if job.status = .running then do
    match ← staleRunningJobCutoff raw now with
    | none => return false
    | some cutoff => return job.startedAt.getD job.updatedAt ≤ cutoff
  else return false

-- workers/runner.py

/-- `str` is Python's `str()` of a decoded JSON value. -/
def updateCompletionToken (str : Json → String) (job : Job) : String :=
  strip (str (Json.orEmpty (Json.get "completion_token" job.payload.dict)))

/-- The key of the completion message of a job. -/
def updateFinishedKey (jobId : Nat) (completionToken : String) : String :=
  "worker_message:update_downloads:" ++ toString jobId ++ ":" ++ completionToken

/-- The row that `create_update_finished_message_once` inserts. -/
def updateFinishedMessage (jobId : Nat) (job : Job) (completionToken : String) (status : JobStatus)
    (errorMessage : String) (createdAt updatedAt : Instant) : Job where
  profileId := job.profileId
  jobType := "worker_message"
  status := .succeeded
  payload := .object [("event_type", .string "update_downloads_finished"),
    ("completion_token", .string completionToken), ("source_job_id", .int jobId),
    ("source_status", .string (StrEnum.value status)), ("error_message", .string errorMessage)]
  idempotencyKey := some (updateFinishedKey jobId completionToken)
  errorMessage := none
  createdAt := createdAt
  updatedAt := updatedAt
  startedAt := none
  finishedAt := none

/-- The row that `emit_update_finished_message` inserts, if it inserts one. -/
def emitUpdateFinishedMessage (str : Json → String) (jobId : Nat) (job : Job) (status : JobStatus)
    (errorMessage : String) (createdAt updatedAt : Instant) (jobs : JobTable) : Option Job :=
  let completionToken := updateCompletionToken str job
  if parseStrEnum JobType job.jobType = some .updateDownloads ∧ completionToken ≠ "" ∧
      (jobs.any fun _ row => row.idempotencyKey = some (updateFinishedKey jobId completionToken)) =
        false then
    some (updateFinishedMessage jobId job completionToken status errorMessage createdAt updatedAt)
  else none

end GetOffline
