import GetOffline.Runner
import GetOffline.TableOrder

set_option autoImplicit true

namespace GetOffline
open Python

inductive QueueName
  | serialEpisodeCheck
  | youtubeDownload
  | podcastDownload
  | transcript
  | ffmpeg
  | cleanup
deriving DecidableEq

instance : StrEnum QueueName where
  members := [.serialEpisodeCheck, .youtubeDownload, .podcastDownload, .transcript, .ffmpeg,
    .cleanup]
  value
    | .serialEpisodeCheck => "getoffline.jobs.updates"
    | .youtubeDownload => "getoffline.jobs.downloads.youtube"
    | .podcastDownload => "getoffline.jobs.downloads.podcast"
    | .transcript => "getoffline.jobs.transcripts"
    | .ffmpeg => "getoffline.jobs.ffmpeg"
    | .cleanup => "getoffline.jobs.cleanup"

/-- `QUEUE_BY_WORKER`. -/
def WorkerType.queue : WorkerType → QueueName
  | .updates => .serialEpisodeCheck
  | .downloaderYoutube => .youtubeDownload
  | .downloaderPodcast => .podcastDownload
  | .transcripts => .transcript
  | .ffmpeg => .ffmpeg
  | .cleanup => .cleanup

/-- `JOB_TYPES_BY_WORKER`. -/
def WorkerType.jobTypes : WorkerType → List JobType
  | .updates => [.checkForEpisodes, .updateDownloads]
  | .downloaderYoutube | .downloaderPodcast => [.downloadEpisode, .downloadSingle]
  | .transcripts => [.generateTranscript, .generateOcr]
  | .ffmpeg => [.transcodeMedia]
  | .cleanup => [.retentionCleanup]

-- frontend/routing.py

def downloadQueueName (payload : List (String × Json)) : QueueName :=
  let sourceType := parseJsonEnum SourceType (Json.get "source_type" payload)
  let mediaType := parseJsonEnum MediaType (Json.get "media_type" payload)
  if sourceType = some .podcast then .podcastDownload
  else if sourceType = some .youtube then .youtubeDownload
  else if mediaType = some .audio then .podcastDownload
  else .youtubeDownload

def queueName (jobType : String) (payload : List (String × Json)) : String :=
  match parseStrEnum JobType jobType with
  | some .checkForEpisodes | some .updateDownloads => StrEnum.value QueueName.serialEpisodeCheck
  | some .downloadEpisode | some .downloadSingle => StrEnum.value (downloadQueueName payload)
  | some .transcodeMedia => StrEnum.value QueueName.ffmpeg
  | some .generateTranscript | some .generateOcr => StrEnum.value QueueName.transcript
  | some .retentionCleanup => StrEnum.value QueueName.cleanup
  | none => "getoffline.jobs." ++ jobType

-- frontend/queue.py

def asBool (render : Json → String) (value : Option Json) : Bool :=
  lower (strip ((value.getD .null).str render)) ∈ ["1", "true", "yes", "on"]

def jobPriority (render : Json → String) (message : List (String × Json)) : Int :=
  let payload := ((Json.get "payload" message).getD .null).dict
  match parseJsonEnum JobType (Json.get "job_type" message) with
  | some .downloadSingle =>
    if asBool render (Json.get "manual_enqueue" payload) ||
      asBool render (Json.get "redownload" payload) then 10 else 9
  | some .downloadEpisode => if asBool render (Json.get "redownload" payload) then 9 else 5
  | some .generateTranscript =>
    if asBool render (Json.get "startup_missing_subtitle" payload) then 2
    else
      let sourceType := Json.orElse (Json.get "source_type" payload)
        ((Json.get "media_source_type" payload).getD .null)
      if parseJsonEnum SourceType (some sourceType) = some .podcast ∨
          parseJsonEnum MediaType (Json.get "media_type" payload) = some .audio then 8
      else if ((Json.get "download_id" payload).getD .null).truthy then 7
      else 3
  | some .generateOcr => if ((Json.get "download_id" payload).getD .null).truthy then 7 else 3
  | _ => 0

/-- `raised` is what the query raises, if there is one. -/
def messageWithPayload (raised : Option Error) (jobs : JobTable) (message : List (String × Json)) :
    Except Error (List (String × Json)) :=
  match Json.get "payload" message with
  | some (.object _) => .ok message
  | _ =>
    let jobId := (Json.get "job_id" message).getD .null
    if !jobId.truthy then .ok message
    else
      let payload := do
        let i ← jobId.toInt
        match raised with
        | some error => throw error
        | none => return (selectJob i jobs).map Job.payload
      match payload with
      | .error .databaseError | .error .typeError | .error .valueError => .ok message
      | .error error => .error error
      | .ok (some (.object items)) => .ok (Json.set "payload" (.object items) message)
      | .ok _ => .ok message

/-- What is handed to the broker: the routing key, the members of the body and the priority. -/
structure Publication where
  queue : String
  body : List (String × Json)
  priority : Int

def withoutPayload (message : List (String × Json)) : List (String × Json) :=
  message.filter fun item => item.1 ≠ "payload"

def maxQueuePriority : Int := 10

def publishJob (render : Json → String) (raised : Option Error) (jobs : JobTable)
    (message : List (String × Json)) : Except Error Publication := do
  let message ← messageWithPayload raised jobs message
  match Json.get "job_type" message with
  | none => throw .keyError
  | some jobType =>
    let payload := ((Json.get "payload" message).getD .null).dict
    let priority ← ((Json.get "priority" message).getD (.int (jobPriority render message))).toInt
    return {
      queue := queueName (jobType.str render) payload
      body := withoutPayload message
      priority := max 0 (min maxQueuePriority priority) }

/-- The message that the producers publish for a job. -/
def jobMessage (i : Nat) (job : Job) : List (String × Json) :=
  [("job_id", .int i), ("job_type", .string job.jobType), ("profile_id", .string job.profileId),
    ("attempt", .int 1)]

-- workers/runner.py

def queueForJob (job : Job) : String :=
  queueName job.jobType job.payload.dict

def workerTypeIsWrongDownloader (workerType : WorkerType) (targetQueue : String) : Bool :=
  workerType.downloads.isSome && targetQueue ≠ StrEnum.value workerType.queue

def publishRequeuedJob (render : Json → String) (i : Nat) (job : Job) (targetQueue : String) :
    Publication :=
  let message := jobMessage i job ++ [("payload", job.payload)]
  { queue := targetQueue, body := withoutPayload message, priority := jobPriority render message }

/-- `order_by("created_at", "id")`. -/
def byCreation (i : Nat) (job : Job) : Instant ×ₗ Nat :=
  toLex (job.createdAt, i)

def WorkerType.handles (workerType : WorkerType) (job : Job) : Bool :=
  workerType.jobTypes.any fun jobType => StrEnum.value jobType == job.jobType

def queuedJobsForWorker (workerType : WorkerType) (jobs : JobTable) : List (Nat × Job) :=
  (jobs.orderBy (fun _ job => job.status = .queued && workerType.handles job) byCreation).take 500

def publishRequeuedJobs (render : Json → String) (workerType : WorkerType)
    (jobs : List (Nat × Job)) : List (Nat × Publication) :=
  jobs.filterMap fun job =>
    let targetQueue := queueForJob job.2
    if workerTypeIsWrongDownloader workerType targetQueue then none
    else some (job.1, publishRequeuedJob render job.1 job.2 targetQueue)

/-- What `requeue_existing_jobs` publishes, each message with the id of its job. -/
def requeueExistingJobs (render : Json → String) (workerType : WorkerType) (jobs : JobTable) :
    List (Nat × Publication) :=
  publishRequeuedJobs render workerType (queuedJobsForWorker workerType jobs)

end GetOffline
