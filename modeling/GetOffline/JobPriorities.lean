import GetOffline.PriorityLine
import GetOffline.RoutingAgreement

set_option autoImplicit true

namespace GetOffline
open Python Execution PriorityLine

-- frontend/routing.py

def priorityQueues : List QueueName :=
  [.youtubeDownload, .podcastDownload, .transcript, .ffmpeg]

/-- The `x-max-priority` that a queue is declared with. -/
def queueArguments (queue : String) : Option Int :=
  if queue ∈ priorityQueues.map StrEnum.value then some maxQueuePriority else none

/-- What a queue ranks a message by: its priority, up to the highest that the queue has been declared with. -/
def Publication.rank (published : Publication) : Int :=
  (queueArguments published.queue).elim 0 (min published.priority)

/-- The priority of a job's messages. -/
def Job.priority (render : Json → String) (job : Job) : Int :=
  jobPriority render (jobMessage 0 job ++ [("payload", job.payload)])

theorem jobPriority_congr {message other : List (String × Json)}
    (htype : Json.get "job_type" message = Json.get "job_type" other)
    (hpayload : ((Json.get "payload" message).getD .null).dict = ((Json.get "payload" other).getD .null).dict) :
    jobPriority render message = jobPriority render other := by
  unfold jobPriority
  rw [htype, hpayload]

/-- The range of the priorities. -/
theorem jobPriority_range (render : Json → String) (message : List (String × Json)) :
    0 ≤ jobPriority render message ∧ jobPriority render message ≤ maxQueuePriority := by
  unfold jobPriority maxQueuePriority
  dsimp only
  repeat' split
  all_goals omega

theorem Job.priority_le (render : Json → String) (job : Job) : job.priority render ≤ maxQueuePriority :=
  (jobPriority_range render _).2

theorem queueArguments_of_mem {queue : QueueName} (h : queue ∈ priorityQueues) :
    queueArguments (StrEnum.value queue) = some maxQueuePriority :=
  if_pos (List.mem_map_of_mem h)

theorem queueArguments_download (payload : List (String × Json)) :
    queueArguments (StrEnum.value (downloadQueueName payload)) = some maxQueuePriority := by
  have hqueue : downloadQueueName payload = .podcastDownload ∨ downloadQueueName payload = .youtubeDownload := by
    unfold downloadQueueName
    dsimp only
    repeat' split
    all_goals simp only [true_or, or_true]
  apply queueArguments_of_mem
  rcases hqueue with h | h
  · rw [h]
    decide
  · rw [h]
    decide

/-- Every job that has a priority goes to a queue that has priorities. -/
theorem queueArguments_of_ne (h : job.priority render ≠ 0) :
    queueArguments (queueForJob job) = some maxQueuePriority := by
  have htype : parseJsonEnum JobType (Json.get "job_type" (jobMessage 0 job ++ [("payload", job.payload)])) =
      parseStrEnum JobType job.jobType := rfl
  unfold Job.priority jobPriority at h
  rw [htype] at h
  unfold queueForJob queueName
  cases hparse : parseStrEnum JobType job.jobType with
  | none =>
    rw [hparse] at h
    exact absurd rfl h
  | some jobType =>
    rw [hparse] at h
    cases jobType with
    | downloadEpisode => exact queueArguments_download _
    | downloadSingle => exact queueArguments_download _
    | generateTranscript => exact queueArguments_of_mem (by decide)
    | generateOcr => exact queueArguments_of_mem (by decide)
    | transcodeMedia => exact absurd rfl h
    | checkForEpisodes => exact absurd rfl h
    | updateDownloads => exact absurd rfl h
    | retentionCleanup => exact absurd rfl h

theorem withoutPayload_set (value : Json) (message : List (String × Json)) :
    withoutPayload (Json.set "payload" value message) = withoutPayload message := by
  induction message with
  | nil => rfl
  | cons item message ih =>
    obtain ⟨key, old⟩ := item
    unfold withoutPayload at ih ⊢
    rw [Json.set]
    split
    · next hkey =>
      rw [List.filter_cons_of_neg (by simp [hkey]), List.filter_cons_of_neg (by simp [hkey])]
    · rw [List.filter_cons, List.filter_cons, ih]

/-- The lookup of the payload does not show in what is sent. -/
theorem withoutPayload_messageWithPayload (h : messageWithPayload raised jobs message = .ok enriched) :
    withoutPayload enriched = withoutPayload message := by
  unfold messageWithPayload at h
  split at h
  · cases h
    rfl
  · dsimp only at h
    split_ifs at h
    · cases h
      rfl
    · split at h
      · cases h
        rfl
      · cases h
        rfl
      · cases h
        rfl
      · cases h
      · cases h
        exact withoutPayload_set _ _
      · cases h
        rfl

/-- Whether a job is published or published again, the message is the same one. -/
theorem publishJob_eq (render : Json → String) (hi : i ≠ 0) {jobs : JobTable} (hrow : jobs.lookup i = some job) :
    publishJob render none jobs (jobMessage i job) = .ok (publishRequeuedJob render i job (queueForJob job)) := by
  obtain ⟨message, hmessage, htype, hpriority, hpayload⟩ := messageWithPayload_jobMessage hi hrow
  have hsame : jobPriority render message = jobPriority render (jobMessage i job ++ [("payload", job.payload)]) :=
    jobPriority_congr htype hpayload
  have hbody : withoutPayload message = withoutPayload (jobMessage i job ++ [("payload", job.payload)]) :=
    (withoutPayload_messageWithPayload hmessage).trans rfl
  have hrange := jobPriority_range render (jobMessage i job ++ [("payload", job.payload)])
  have hclamp : max 0 (min maxQueuePriority (jobPriority render message)) =
      jobPriority render (jobMessage i job ++ [("payload", job.payload)]) := by
    rw [hsame, min_eq_right hrange.2, max_eq_right hrange.1]
  unfold publishJob publishRequeuedJob
  rw [hmessage]
  simp only [bind, Except.bind, htype, hpriority, Option.getD_none, Json.toInt, hpayload,
    Json.str, pure, Except.pure, queueForJob, hclamp, hbody]

theorem jobType_requeued (i : Nat) (job : Job) :
    Json.get "job_type" (jobMessage i job ++ [("payload", job.payload)]) = some (.string job.jobType) := rfl

theorem payload_requeued (i : Nat) (job : Job) :
    Json.get "payload" (jobMessage i job ++ [("payload", job.payload)]) = some job.payload := rfl

theorem publishRequeuedJob_priority (render : Json → String) (i : Nat) (job : Job) (queue : String) :
    (publishRequeuedJob render i job queue).priority = job.priority render := by
  dsimp only [publishRequeuedJob, Job.priority]
  apply jobPriority_congr
  · rw [jobType_requeued, jobType_requeued]
  · rw [payload_requeued, payload_requeued]

/-- The queues rank the messages of jobs by the priorities of the jobs. -/
theorem rank_requeued (render : Json → String) (i : Nat) (job : Job) :
    (publishRequeuedJob render i job (queueForJob job)).rank = job.priority render := by
  rw [Publication.rank, publishRequeuedJob_priority, publishRequeuedJob_queue]
  by_cases hzero : job.priority render = 0
  · rw [hzero]
    unfold queueArguments
    split
    · decide
    · rfl
  · rw [queueArguments_of_ne hzero]
    exact min_eq_left (Job.priority_le render job)

/-- Both publishers send the same message, to a queue that knows its priority. -/
theorem publishers_agree (render : Json → String) (i : Nat) (job : Job) (jobs : JobTable) (hi : i ≠ 0)
    (hrow : jobs.lookup i = some job) :
    ∃ published, publishJob render none jobs (jobMessage i job) = .ok published ∧
      publishRequeuedJob render i job (queueForJob job) = published ∧ published.rank = published.priority ∧
      0 ≤ published.priority ∧ published.priority ≤ maxQueuePriority := by
  refine ⟨_, publishJob_eq render hi hrow, rfl, ?_, ?_⟩
  · rw [rank_requeued, publishRequeuedJob_priority]
  · rw [publishRequeuedJob_priority]
    exact jobPriority_range render _

theorem publishers_agree_download : ∃ published,
    publishJob (fun _ => "") none (AList.singleton 1 (apiDownload "youtube")) (jobMessage 1 (apiDownload "youtube")) =
      .ok published ∧
    publishRequeuedJob (fun _ => "") 1 (apiDownload "youtube") (queueForJob (apiDownload "youtube")) = published ∧
    published.rank = published.priority ∧ 0 ≤ published.priority ∧ published.priority ≤ maxQueuePriority :=
  publishers_agree _ 1 (apiDownload "youtube") _ (by decide) (AList.lookup_insert ∅)

/-- A message that has been sent for a job, by one of the two publishers. -/
structure Sent (render : Json → String) where
  id : Nat
  job : Job
  publication : Publication
  published : publication = publishRequeuedJob render id job (queueForJob job) ∨
    ∃ jobs : JobTable, id ≠ 0 ∧ jobs.lookup id = some job ∧
      publishJob render none jobs (jobMessage id job) = .ok publication

namespace Sent
variable {render : Json → String}

def queue (sent : Sent render) : String := sent.publication.queue

def priority (sent : Sent render) : Int := sent.job.priority render

end Sent

end GetOffline
