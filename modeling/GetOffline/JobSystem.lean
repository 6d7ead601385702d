import GetOffline.Execution
import GetOffline.Jobs

set_option autoImplicit true

namespace GetOffline
open Python

/-- How a statement ends for its caller. One that raises was either rolled back or took effect
before the connection broke. -/
inductive Outcome
  | returned
  | rolledBack (error : String)
  | lost (error : String)
deriving DecidableEq

def Outcome.applied : Outcome → Bool
  | .returned | .lost _ => true
  | .rolledBack _ => false

def Outcome.error : Outcome → Option String
  | .returned => none
  | .rolledBack error | .lost error => some error

/-- Where a worker stands in `process_queued_job_message` once it has claimed a job. -/
inductive WorkerPhase
  | claimed
  | handling
  | succeeding
  | announcing
  | failing
  | announcingFailure
deriving DecidableEq

/-- A worker that has claimed a job: the row's id, its own copy of the row, and the text of the
exception that it handles. -/
structure Worker where
  jobId : Nat
  job : Job
  phase : WorkerPhase
  error : String

/-- A call of `create_job` between its `SELECT`, which found nothing, and its `INSERT`. Ids below
`since` were given out before the `SELECT`. -/
structure PendingCall where
  args : JobArgs
  since : Nat

/-- The database and everything that writes to its `jobs` table: the workers, the discovery passes
with the copies they have read, and the calls of `create_job`. The last two fields are a record of
the handlers started and of the rows put back to `QUEUED`. -/
structure JobWorld (W P C : Type) where
  jobs : JobTable
  nextId : Nat
  workers : Table W Worker
  passes : Table P (Nat × Job)
  calls : Table C PendingCall
  starts : List Nat
  resets : List Nat

/-- The steps. A broker message for a job, however often it is delivered, is a `claim` of its id. -/
inductive JobEvent (W P C : Type)
  | claim (worker : W) (jobId : Nat) (now : Instant) (outcome : Outcome)
  | startHandler (worker : W) (raised : Option String)
  | touch (worker : W) (now : Instant) (stage title : String) (outcome : Outcome)
  | leaveHandler (worker : W) (raised : Option String)
  | finish (worker : W) (now : Instant) (outcome : Outcome)
  | announce (worker : W) (createdAt updatedAt : Instant) (outcome : Outcome)
  | crash (worker : W)
  | passRead (pass : P) (idempotencyKey : String)
  | passReset (pass : P) (raw : String) (now updatedAt : Instant) (outcome : Outcome)
  | select (call : C) (args : JobArgs)
  | insert (call : C) (createdAt updatedAt : Instant) (outcome : Outcome)

/-- The worker goes on in the `except` branch. -/
def Worker.fails (error : String) (worker : Worker) : Worker :=
  { worker with phase := .failing, error }

@[simp] theorem Worker.fails_phase (error : String) (worker : Worker) :
    (worker.fails error).phase = .failing := rfl

namespace JobWorld

variable [DecidableEq W] [DecidableEq P] [DecidableEq C]

def initial : JobWorld W P C :=
  { jobs := ∅, nextId := 1, workers := ∅, passes := ∅, calls := ∅, starts := [], resets := [] }

def workerIn (k : W) (phase : WorkerPhase) (w : JobWorld W P C) : Option Worker :=
  (w.workers.lookup k).filter fun worker => worker.phase = phase

def setWorker (k : W) (worker : Worker) (w : JobWorld W P C) : JobWorld W P C :=
  { w with workers := AList.insert k worker w.workers }

/-- The worker waits for its next delivery. -/
def idle (k : W) (w : JobWorld W P C) : JobWorld W P C :=
  { w with workers := AList.erase k w.workers }

def save (id : Nat) (f : Job → Job) (w : JobWorld W P C) : JobWorld W P C :=
  { w with jobs := saveFields id f w.jobs }

/-- A row under the next id. -/
def create (job : Job) (w : JobWorld W P C) : JobWorld W P C :=
  { w with jobs := AList.insert w.nextId job w.jobs, nextId := w.nextId + 1 }

/-- The change is there unless it was rolled back. -/
def commit (outcome : Outcome) (f : JobWorld W P C → JobWorld W P C) (w : JobWorld W P C) :
    JobWorld W P C :=
  if outcome.applied then f w else w

/-- What the row under the id says of being `QUEUED`. -/
def isQueued (id : Nat) (w : JobWorld W P C) : Bool :=
  (w.jobs.lookup id).any fun job => job.status = .queued

def claim (k : W) (jobId : Nat) (now : Instant) (outcome : Outcome) (w : JobWorld W P C) :
    JobWorld W P C :=
  match claimJob now jobId w.jobs with
  | (_, none) => w
  | (jobs, some job) =>
    let claimed := w.commit outcome fun w => { w with jobs }
    match outcome with
    | .returned => claimed.setWorker k { jobId, job, phase := .claimed, error := "" }
    | _ => claimed

def touch (k : W) (now : Instant) (stage title : String) (outcome : Outcome) (worker : Worker)
    (w : JobWorld W P C) : JobWorld W P C :=
  match touchActiveJob now stage title worker.job with
  | none => w
  | some job =>
    (w.commit outcome (save worker.jobId job.saveTouch)).setWorker k { worker with job }

/-- `mark_job_succeeded` up to its completion message. -/
def finishSucceeded (k : W) (now : Instant) (outcome : Outcome) (worker : Worker)
    (w : JobWorld W P C) : JobWorld W P C :=
  let f := Job.finish now .succeeded none
  let worker' := { worker with job := f worker.job }
  (w.commit outcome (save worker.jobId f)).setWorker k <|
    match outcome.error with
    | none => { worker' with phase := .announcing }
    | some error => worker'.fails error

/-- `mark_job_failed` up to its completion message. It runs in the `except` branch, so that
nothing catches what it raises. -/
def finishFailed (k : W) (now : Instant) (outcome : Outcome) (worker : Worker)
    (w : JobWorld W P C) : JobWorld W P C :=
  let f := Job.finish now .failed (some worker.error)
  let saved := w.commit outcome (save worker.jobId f)
  match outcome.error with
  | none => saved.setWorker k { worker with job := f worker.job, phase := .announcingFailure }
  | some _ => saved.idle k

/-- The completion message is a row of its own. -/
def emit (str : Json → String) (status : JobStatus) (errorMessage : String)
    (createdAt updatedAt : Instant) (outcome : Outcome) (worker : Worker) (w : JobWorld W P C) :
    JobWorld W P C :=
  match emitUpdateFinishedMessage str worker.jobId worker.job status errorMessage createdAt
      updatedAt w.jobs with
  | none => w
  | some message => w.commit outcome (create message)

/-- The completion message of the success path is still inside the `try`. -/
def announceSucceeded (str : Json → String) (k : W) (createdAt updatedAt : Instant)
    (outcome : Outcome) (worker : Worker) (w : JobWorld W P C) : JobWorld W P C :=
  let emitted := w.emit str .succeeded "" createdAt updatedAt outcome worker
  match outcome.error with
  | none => emitted.idle k
  | some error => emitted.setWorker k (worker.fails error)

def announceFailed (str : Json → String) (k : W) (createdAt updatedAt : Instant)
    (outcome : Outcome) (worker : Worker) (w : JobWorld W P C) : JobWorld W P C :=
  (w.emit str .failed worker.error createdAt updatedAt outcome worker).idle k

/-- The row put back to `QUEUED`; the record has it if it was not there already. -/
def requeue (id : Nat) (updatedAt : Instant) (w : JobWorld W P C) : JobWorld W P C :=
  { w.save id (Job.requeue updatedAt) with
    resets := if w.isQueued id then w.resets else id :: w.resets }

def passReset (p : P) (raw : String) (now updatedAt : Instant) (outcome : Outcome)
    (copy : Nat × Job) (w : JobWorld W P C) : JobWorld W P C :=
  let w := { w with passes := AList.erase p w.passes }
  match makesStaleJobQueued raw now copy.2 with
  | .ok true => w.commit outcome (requeue copy.1 updatedAt)
  | _ => w

def step (str : Json → String) (w : JobWorld W P C) : JobEvent W P C → Option (JobWorld W P C)
  | .claim k jobId now outcome =>
    if w.workers.lookup k = none then some (w.claim k jobId now outcome) else none
  | .startHandler k raised =>
    (w.workerIn k .claimed).map fun worker =>
      match raised with
      | none =>
        { w.setWorker k { worker with phase := .handling } with
          starts := worker.jobId :: w.starts }
      | some error => w.setWorker k (worker.fails error)
  | .touch k now stage title outcome =>
    (w.workerIn k .handling).map fun worker => w.touch k now stage title outcome worker
  | .leaveHandler k raised =>
    (w.workerIn k .handling).map fun worker =>
      match raised with
      | none => w.setWorker k { worker with phase := .succeeding }
      | some error => w.setWorker k (worker.fails error)
  | .finish k now outcome =>
    (w.workers.lookup k).bind fun worker =>
      match worker.phase with
      | .succeeding => some (w.finishSucceeded k now outcome worker)
      | .failing => some (w.finishFailed k now outcome worker)
      | _ => none
  | .announce k createdAt updatedAt outcome =>
    (w.workers.lookup k).bind fun worker =>
      match worker.phase with
      | .announcing => some (w.announceSucceeded str k createdAt updatedAt outcome worker)
      | .announcingFailure => some (w.announceFailed str k createdAt updatedAt outcome worker)
      | _ => none
  | .crash k => some (w.idle k)
  | .passRead p key =>
    if w.passes.lookup p = none then
      match activeDownloadJob key w.jobs with
      | none => some w
      | some copy => some { w with passes := AList.insert p copy w.passes }
    else none
  | .passReset p raw now updatedAt outcome =>
    (w.passes.lookup p).map fun copy => w.passReset p raw now updatedAt outcome copy
  | .select c args =>
    if w.calls.lookup c = none then
      match existingJob args w.jobs with
      | some _ => some w
      | none => some { w with calls := AList.insert c { args, since := w.nextId } w.calls }
    else none
  | .insert c createdAt updatedAt outcome =>
    (w.calls.lookup c).map fun call =>
      { w with calls := AList.erase c w.calls }.commit outcome
        (create (newJob call.args createdAt updatedAt))

end JobWorld

end GetOffline
