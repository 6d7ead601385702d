import GetOffline.Execution
import GetOffline.Jobs
import GetOffline.TableOrder

set_option autoImplicit true

namespace GetOffline
open Python Execution Table

-- api/services/dashboard_actions.py

/-- `request.POST.get(key)`. -/
def posted (key : String) (post : List (String × String)) : Option String :=
  post.lookup key

def postedBool (key default : String) (post : List (String × String)) : Bool :=
  (posted key post).getD default ∈ ["1", "true", "yes", "on"]

/-- `request.POST.get(key) or ""`, trimmed. -/
def postedText (key : String) (post : List (String × String)) : String :=
  strip ((posted key post).getD "")

/-- What `enqueue_job` passes to `create_job`, unless it rejects the request. `token` is the
`uuid4().hex` of an update. -/
def enqueueJobArgs (profileId : String) (post : List (String × String)) (token : String) :
    Option JobArgs :=
  let jobType := postedText "job_type" post
  if jobType ∉ [StrEnum.value JobType.updateDownloads, StrEnum.value JobType.downloadSingle] then
    none
  else
    let payload := [("source", .string "django_app")]
    let payload :=
      if jobType = "update_downloads" then Json.set "completion_token" (.string token) payload
      else payload
    let payload :=
      if jobType = "download_single" then
        Json.set "delete_explicit_content" (.bool (postedBool "delete_explicit_content" "" post))
          (Json.set "manual_enqueue" (.bool true) payload)
      else payload
    let url := (posted "url" post).filter fun url => url ≠ ""
    let payload := url.elim payload fun url => Json.set "url" (.string (strip url)) payload
    let defaultIdempotency :=
      if jobType = "update_downloads" then jobType ++ ":" ++ profileId ++ ":" ++ token
      else jobType ++ ":" ++ profileId ++ ":" ++ (url.map strip).getD "manual"
    let idempotencyKey :=
      ((posted "idempotency_key" post).filter fun key => key ≠ "").getD defaultIdempotency
    some { profileId, jobType, payload := some payload, idempotencyKey := some idempotencyKey }

-- api/views.py

/-- What `download` passes to `create_job`; without a URL the request is rejected. -/
def downloadArgs (render : Json → String) (profileId : String) (data : List (String × Json)) :
    Option JobArgs :=
  let text := fun key default =>
    Json.str render (Json.orElse (Json.get key data) (.string default))
  let url := strip (text "url" "")
  if url = "" then none
  else
    some {
      profileId
      jobType := "download_single"
      payload := some [("source", .string "api"), ("url", .string url),
        ("source_type", .string (text "source_type" "youtube")),
        ("media_type", .string (text "media_type" "audio")),
        ("subtitles", .bool ((Json.get "subtitles" data).getD (.bool true)).truthy),
        ("manual_enqueue", .bool true)]
      idempotencyKey := some (text "idempotency_key" ("download_single:" ++ profileId ++ ":" ++ url)) }

/-- What makes a job for a profile: the form of `enqueue_job`, the body of `download`, or another
caller of `create_job`. -/
inductive EnqueueRequest
  | enqueueJob (post : List (String × String)) (token : String)
  | download (data : List (String × Json))
  | createJob (jobType : String) (payload : Option (List (String × Json)))
      (idempotencyKey : Option String)

def EnqueueRequest.args (render : Json → String) (profileId : String) :
    EnqueueRequest → Option JobArgs
  | .enqueueJob post token => enqueueJobArgs profileId post token
  | .download data => downloadArgs render profileId data
  | .createJob jobType payload idempotencyKey =>
    some { profileId, jobType, payload, idempotencyKey }

/-- The jobs of a profile, the first created first. -/
def ownJobs (profileId : String) (db : Database) : List (Nat × Job) :=
  db.jobs.orderBy (fun _ job => job.profileId = profileId) fun i _ => i

/-- What the workers do to a row. -/
inductive JobWork
  | claim (now : Instant)
  | touch (now : Instant) (stage title : String)
  | finish (now : Instant) (status : JobStatus) (errorMessage : Option String)
  | requeue (now : Instant)

def JobWork.apply (job : Job) : JobWork → Job
  | .claim now => job.claim now
  | .touch now stage title => (touchActiveJob now stage title job).elim job (Job.saveTouch · job)
  | .finish now status errorMessage => job.finish now status errorMessage
  | .requeue now => job.requeue now

/-- A job is asked for, or the workers get on with the one that is the `k`-th of the profile. -/
inductive ProfileEvent
  | request (request : EnqueueRequest) (createdAt updatedAt : Instant)
  | progress (k : Nat) (work : JobWork)

/-- What `create_job` was asked for and what it returned. -/
structure EnqueueReply where
  args : JobArgs
  created : Bool
  job : Option Job

def enqueue (args : JobArgs) (createdAt updatedAt : Instant) (db : Database) :
    Database × EnqueueReply :=
  let (jobId, db') := createJob args createdAt updatedAt db
  (db', { args, created := (db.jobs.lookup jobId).isNone, job := db'.jobs.lookup jobId })

/-- One step of a history: the profile that it is about, and the event. -/
def serve (render : Json → String) (event : String × ProfileEvent) (db : Database) :
    Database × (String × Option EnqueueReply) :=
  match event.2 with
  | .request request createdAt updatedAt =>
    match request.args render event.1 with
    | none => (db, event.1, none)
    | some args =>
      let (db', reply) := enqueue args createdAt updatedAt db
      (db', event.1, some reply)
  | .progress k work =>
    match (ownJobs event.1 db)[k]? with
    | none => (db, event.1, none)
    | some (i, _) => (db.save i (JobWork.apply · work), event.1, none)

/-- The replies to a profile in a history that starts from the empty database. -/
def repliesTo (render : Json → String) (profileId : String)
    (history : List (String × ProfileEvent)) : List (Option EnqueueReply) :=
  ((answers (serve render) Database.empty history).1.filter fun r => r.1 = profileId).map Prod.snd

/-- What a profile can tell of a reply, up to the number of its job: that the job is a new one, and
the row. -/
def EnqueueReply.observed (reply : EnqueueReply) : Bool × Option Job :=
  (reply.created, reply.job)

end GetOffline
