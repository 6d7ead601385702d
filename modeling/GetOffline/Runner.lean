import GetOffline.JobSystem
import GetOffline.JsonText

set_option autoImplicit true

namespace GetOffline
open Python

/-- What a worker can do with a delivery. -/
inductive Settlement
  | ack
  | nack (requeue : Bool)
deriving DecidableEq

/-- The broker does not deliver the message again. -/
def Settlement.final : Settlement → Bool
  | .ack => true
  | .nack requeue => !requeue

structure QueuedJobMessage where
  jobId : Int
  jobType : Option Json
  profileId : Option Json
  attempt : Option Json

namespace QueuedJobMessage

def fromPayload : Json → Except Error QueuedJobMessage
  | .object payload =>
    match Json.get "job_id" payload with
    | none => .error .keyError
    | some value => do
      let jobId ← value.toInt
      return {
        jobId
        jobType := Json.get "job_type" payload
        profileId := Json.get "profile_id" payload
        attempt := Json.get "attempt" payload }
  | _ => .error .typeError

/-- `limit` is how deep the interpreter lets `json.loads` recurse. -/
def fromBody (limit : Nat) (body : List UInt8) : Except Error QueuedJobMessage :=
  match decodeUtf8 body with
  | none => .error .unicodeDecodeError
  | some text => do fromPayload (← jsonLoads limit text)

end QueuedJobMessage

inductive WorkerType
  | updates
  | downloaderYoutube
  | downloaderPodcast
  | transcripts
  | ffmpeg
  | cleanup
deriving DecidableEq

/-- `DOWNLOADER_WORKERS`, each with the source whose jobs it takes. -/
def WorkerType.downloads : WorkerType → Option SourceType
  | .downloaderYoutube => some .youtube
  | .downloaderPodcast => some .podcast
  | _ => none

structure WorkerConfig where
  workerType : WorkerType
  maxMessages : Nat

/-- `parse_str_enum` of a decoded value. What `str()` makes of anything but a string, `1` or `true`
or `[]`, is not the text of a member. -/
def parseJsonEnum (α : Type) [StrEnum α] : Option Json → Option α
  | some (.string s) => parseStrEnum α s
  | _ => none

def sourceTypeForDownloaderJob (job : Job) : SourceType :=
  match parseJsonEnum SourceType (Json.get "source_type" job.payload.dict) with
  | some sourceType => sourceType
  | none =>
    if parseJsonEnum MediaType (Json.get "media_type" job.payload.dict) = some .audio then .podcast
    else .youtube

/-- The row that an id from a message selects. -/
def selectJob (jobId : Int) (jobs : JobTable) : Option Job :=
  jobId.toNat?.bind fun i => jobs.lookup i

/-- `raised` is what the query raises, if there is one. -/
def workerAcceptsJob (workerType : WorkerType) (jobId : Int) (raised : Option Error)
    (jobs : JobTable) : Except Error Bool :=
  match workerType.downloads, raised with
  | none, _ => .ok true
  | some _, some error => .error error
  | some allowed, none =>
    .ok ((selectJob jobId jobs).all fun job => sourceTypeForDownloaderJob job = allowed)

/-- How a write goes: the clock readings that it stores, the second one for `updated_at` of a new
row, and how it ends. -/
structure Write where
  now : Instant
  updatedAt : Instant
  outcome : Outcome

/-- A delivery and all that its handling does not decide itself: the answers of the database, what
others write between the routing query and the claim, and what the lookup of the handler, the
scheduler and the handler do: the copy of the job and the database that they leave, other writers'
changes included, and what they raise. -/
structure Delivery where
  tag : Nat
  body : List UInt8
  lookup : Option Error
  others : Database → Database
  closeBefore : Option String
  claim : Write
  handle : Job → Database → Job × Database
  raised : Option String
  succeed : Write
  announceSuccess : Write
  fail : Write
  announceFailure : Write
  closeAfter : Option String

/-- The change is there unless it was rolled back. -/
def Write.commit (write : Write) (f : Database → Database) (db : Database) : Database :=
  if write.outcome.applied then f db else db

/-- `claim_job`: what the transaction leaves, and the job it returns if it does not raise. -/
def claimQueuedJob (claim : Write) (jobId : Int) (db : Database) :
    Database × Except String (Option (Nat × Job)) :=
  match jobId.toNat? with
  | none => (db, claim.outcome.error.elim (.ok none) .error)
  | some i =>
    match claimJob claim.now i db.jobs with
    | (_, none) => (db, claim.outcome.error.elim (.ok none) .error)
    | (_, some job) =>
      (claim.commit (Database.save i (Job.claim claim.now)) db,
        claim.outcome.error.elim (.ok (some (i, job))) .error)

/-- `finish_job` changes the copy before it saves it. -/
def finishJob (write : Write) (status : JobStatus) (errorMessage : Option String) (i : Nat)
    (job : Job) (db : Database) : Job × Database :=
  let f := Job.finish write.now status errorMessage
  (f job, write.commit (Database.save i f) db)

def emitMessage (str : Json → String) (write : Write) (status : JobStatus) (errorMessage : String)
    (i : Nat) (job : Job) (db : Database) : Database :=
  match emitUpdateFinishedMessage str i job status errorMessage write.now write.updatedAt db.jobs with
  | none => db
  | some message => write.commit (Database.create message) db

/-- Whether `emit_update_finished_message` comes to its queries. -/
def announces (str : Json → String) (job : Job) : Bool :=
  parseStrEnum JobType job.jobType = some .updateDownloads && updateCompletionToken str job ≠ ""

/-- What `mark_job_succeeded` and `mark_job_failed` leave, and what they raise. -/
def markJob (status : JobStatus) (errorMessage : Option String) (str : Json → String)
    (finish announce : Write) (i : Nat) (job : Job) (db : Database) :
    Job × Database × Option String :=
  let (job, db) := finishJob finish status errorMessage i job db
  match finish.outcome.error with
  | some error => (job, db, some error)
  | none =>
    (job, emitMessage str announce status (errorMessage.getD "") i job db,
      if announces str job then announce.outcome.error else none)

def markJobSucceeded : (Json → String) → Write → Write → Nat → Job → Database →
    Job × Database × Option String :=
  markJob .succeeded none

def markJobFailed (error : String) : (Json → String) → Write → Write → Nat → Job → Database →
    Job × Database × Option String :=
  markJob .failed (some error)

/-- The `try` and its `except` branch, whose own exception takes the place of the first. -/
def runClaimedJob (str : Json → String) (d : Delivery) (i : Nat) (job : Job) (db : Database) :
    Database × Option String :=
  let (job, db) := d.handle job db
  let (job, db, raised) := match d.raised with
    | some error => (job, db, some error)
    | none => markJobSucceeded str d.succeed d.announceSuccess i job db
  match raised with
  | none => (db, none)
  | some error =>
    let (_, db, raised) := markJobFailed error str d.fail d.announceFailure i job db
    (db, some (raised.getD error))

/-- A job that is not claimed returns before the `finally`. -/
def processQueuedJobMessage (str : Json → String) (d : Delivery) (message : QueuedJobMessage)
    (db : Database) : Database × Option String :=
  match d.closeBefore with
  | some error => (db, some error)
  | none =>
    match claimQueuedJob d.claim message.jobId db with
    | (db, .error error) => (db, some error)
    | (db, .ok none) => (db, none)
    | (db, .ok (some (i, job))) =>
      let (db, raised) := runClaimedJob str d i job db
      (db, d.closeAfter.or raised)

/-- A record of a settlement: the status of the job's row at that moment is in it. -/
structure Settled where
  tag : Nat
  jobId : Int
  settlement : Settlement
  status : Option JobStatus
deriving DecidableEq

/-- The database, and the settlements that the worker has sent on its channel, the last one first. -/
structure Consumer where
  db : Database
  settled : List Settled

def Consumer.settle (tag : Nat) (message : QueuedJobMessage) (settlement : Settlement)
    (c : Consumer) : Consumer :=
  let status := (selectJob message.jobId c.db.jobs).map Job.status
  { c with settled := { tag, jobId := message.jobId, settlement, status } :: c.settled }

def processDelivery (str : Json → String) (d : Delivery) (message : QueuedJobMessage)
    (c : Consumer) : Consumer × Nat :=
  let (db, raised) := processQueuedJobMessage str d message (d.others c.db)
  let settlement := match raised with
    | some _ => .nack false
    | none => .ack
  ({ c with db }.settle d.tag message settlement, 1)

def handleDelivery (limit : Nat) (str : Json → String) (config : WorkerConfig) (d : Delivery)
    (c : Consumer) : Consumer × Except Error Nat :=
  match QueuedJobMessage.fromBody limit d.body with
  | .error error => (c, .error error)
  | .ok message =>
    match workerAcceptsJob config.workerType message.jobId d.lookup c.db.jobs with
    | .error error => (c, .error error)
    | .ok false => (c.settle d.tag message (.nack true), .ok 0)
    | .ok true =>
      let (c, processed) := processDelivery str d message c
      (c, .ok processed)

/-- Whether `consume_worker_messages` goes on, has broken off its loop, or was left by an
exception. -/
inductive LoopState
  | consuming
  | left
  | died (error : Error)
deriving DecidableEq

structure ConsumerLoop where
  consumer : Consumer
  processedMessages : Nat
  stop : Bool
  state : LoopState

/-- What the loop meets: a signal, a second without a delivery, in which others may write, or a
delivery. -/
inductive LoopEvent
  | signal
  | inactivity (others : Database → Database)
  | delivery (d : Delivery)

namespace ConsumerLoop

def initial (db : Database) : ConsumerLoop where
  consumer := { db, settled := [] }
  processedMessages := 0
  stop := false
  state := .consuming

def receive (limit : Nat) (str : Json → String) (config : WorkerConfig) (s : ConsumerLoop)
    (event : LoopEvent) : Option ConsumerLoop :=
  if s.state ≠ .consuming then none
  else
    match event with
    | .signal => some { s with stop := true }
    | .inactivity others =>
      let s := { s with consumer := { s.consumer with db := others s.consumer.db } }
      if s.stop then some { s with state := .left } else some s
    | .delivery d =>
      if s.stop then some { s with state := .left }
      else
        match handleDelivery limit str config d s.consumer with
        | (consumer, .error error) => some { s with consumer, state := .died error }
        | (consumer, .ok processed) =>
          let processedMessages := s.processedMessages + processed
          some { s with
            consumer
            processedMessages
            state := if config.maxMessages ≤ processedMessages then .left else .consuming }

end ConsumerLoop

end GetOffline
