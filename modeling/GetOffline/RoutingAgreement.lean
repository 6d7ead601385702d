import GetOffline.DownloadRequest
import GetOffline.Routing

set_option autoImplicit true

namespace GetOffline
open Python

/-- The worker that downloads from a source. -/
def SourceType.downloader : SourceType → WorkerType
  | .youtube => .downloaderYoutube
  | .podcast => .downloaderPodcast

/-- The publishers and the worker read a payload alike. -/
theorem queue_downloader (job : Job) :
    (sourceTypeForDownloaderJob job).downloader.queue = downloadQueueName job.payload.dict := by
  unfold sourceTypeForDownloaderJob downloadQueueName
  cases parseJsonEnum SourceType (Json.get "source_type" job.payload.dict) with
  | some sourceType => cases sourceType <;> rfl
  | none =>
    dsimp only
    split <;> rfl

theorem queueForJob_download (htype : parseStrEnum JobType job.jobType = some .downloadEpisode ∨
      parseStrEnum JobType job.jobType = some .downloadSingle) :
    queueForJob job = StrEnum.value (sourceTypeForDownloaderJob job).downloader.queue := by
  rw [queueForJob, queueName, queue_downloader]
  rcases htype with h | h <;> rw [h]

/-- A successful lookup puts the row's dict into the message. -/
theorem messageWithPayload_jobMessage (hi : i ≠ 0) {jobs : JobTable}
    (hrow : jobs.lookup i = some job) :
    ∃ message, messageWithPayload none jobs (jobMessage i job) = .ok message ∧
      Json.get "job_type" message = some (.string job.jobType) ∧
      Json.get "priority" message = none ∧
      ((Json.get "payload" message).getD .null).dict = job.payload.dict := by
  have hid : (Json.int i).truthy = true := by
    rw [Json.truthy, bne_iff_ne, Ne, Int.natCast_eq_zero]
    exact hi
  have hselect : (selectJob i jobs).map Job.payload = some job.payload := by
    rw [show selectJob i jobs = jobs.lookup i from rfl, hrow, Option.map_some]
  unfold messageWithPayload
  rw [show Json.get "payload" (jobMessage i job) = none from rfl,
    show (Json.get "job_id" (jobMessage i job)).getD .null = .int i from rfl]
  dsimp only
  rw [hid]
  simp only [Json.toInt, hselect, Bool.not_true, Bool.false_eq_true, ↓reduceIte, bind,
    Except.bind, pure, Except.pure]
  cases job.payload with
  | object items => exact ⟨_, rfl, rfl, rfl, rfl⟩
  | null => exact ⟨_, rfl, rfl, rfl, rfl⟩
  | bool b => exact ⟨_, rfl, rfl, rfl, rfl⟩
  | int n => exact ⟨_, rfl, rfl, rfl, rfl⟩
  | float x => exact ⟨_, rfl, rfl, rfl, rfl⟩
  | string s => exact ⟨_, rfl, rfl, rfl, rfl⟩
  | array items => exact ⟨_, rfl, rfl, rfl, rfl⟩

/-- A published job goes to the queue that it is requeued to. -/
theorem publishJob_queue (render : Json → String) (hi : i ≠ 0) {jobs : JobTable}
    (hrow : jobs.lookup i = some job) :
    ∃ published, publishJob render none jobs (jobMessage i job) = .ok published ∧
      published.queue = queueForJob job := by
  obtain ⟨message, hmessage, htype, hpriority, hpayload⟩ := messageWithPayload_jobMessage hi hrow
  refine ⟨⟨queueForJob job, withoutPayload message,
    max 0 (min maxQueuePriority (jobPriority render message))⟩, ?_, ?_⟩
  · unfold publishJob
    rw [hmessage]
    simp only [bind, Except.bind, htype, hpriority, Option.getD_none, Json.toInt, hpayload,
      Json.str, pure, Except.pure, queueForJob]
  · dsimp only

theorem publishRequeuedJob_queue (render : Json → String) (i : Nat) (job : Job) (queue : String) :
    (publishRequeuedJob render i job queue).queue = queue := rfl

/-- Both publishers send the job to the worker's queue, and the worker takes the message. -/
def Routed (render : Json → String) (workerType : WorkerType) (i : Nat) (job : Job)
    (jobs : JobTable) : Prop :=
  (∃ published, publishJob render none jobs (jobMessage i job) = .ok published ∧
      published.queue = StrEnum.value workerType.queue) ∧
    (publishRequeuedJob render i job (queueForJob job)).queue = StrEnum.value workerType.queue ∧
    workerAcceptsJob workerType i none jobs = .ok true

theorem workerAcceptsJob_downloader {jobs : JobTable} (hrow : jobs.lookup i = some job)
    (sourceType : SourceType) :
    workerAcceptsJob sourceType.downloader i none jobs =
      .ok (decide (sourceTypeForDownloaderJob job = sourceType)) := by
  have hselect : selectJob i jobs = some job := hrow
  cases sourceType <;>
    simp only [workerAcceptsJob, SourceType.downloader, WorkerType.downloads, hselect,
      Option.all_some]

/-- A job is routed to one downloader, the one for the source that it is taken to name. -/
theorem routedTo_iff (render : Json → String) (hi : i ≠ 0) {jobs : JobTable}
    (hrow : jobs.lookup i = some job)
    (htype : parseStrEnum JobType job.jobType = some .downloadEpisode ∨
      parseStrEnum JobType job.jobType = some .downloadSingle) (sourceType : SourceType) :
    Routed render sourceType.downloader i job jobs ↔
      sourceTypeForDownloaderJob job = sourceType := by
  have haccepts := workerAcceptsJob_downloader hrow sourceType
  constructor
  · rintro ⟨-, -, h⟩
    rw [haccepts, Except.ok.injEq, decide_eq_true_eq] at h
    exact h
  · intro h
    have hqueue := queueForJob_download htype
    rw [h] at hqueue
    obtain ⟨published, hpublish, hq⟩ := publishJob_queue render hi hrow
    refine ⟨⟨published, hpublish, hq.trans hqueue⟩, ?_, ?_⟩
    · rw [publishRequeuedJob_queue, hqueue]
    · rw [haccepts, decide_eq_true h]

/-- A touch of the job does not change where it belongs. -/
theorem sourceType_touch (h : touchActiveJob now stage title job = some copy) :
    sourceTypeForDownloaderJob (copy.saveTouch job) = sourceTypeForDownloaderJob job := by
  have hsource : Json.get "source_type" copy.payload.dict = Json.get "source_type" job.payload.dict :=
    get_touchActiveJob h (by decide) (by decide)
  have hmedia : Json.get "media_type" copy.payload.dict = Json.get "media_type" job.payload.dict :=
    get_touchActiveJob h (by decide) (by decide)
  unfold sourceTypeForDownloaderJob
  rw [show (copy.saveTouch job).payload = copy.payload from rfl, hsource, hmedia]

/-- The payload has a URL, and one of a YouTube video or the id of one. -/
def Downloadable (render : Json → String) (payload : List (String × Json)) : Prop :=
  requestedUrl render payload ≠ "" ∧
    (isYoutubeVideoUrl (requestedUrl render payload) = true ∨
      (fallbackUid render payload).length = 11)

/-- A request has the source type that its payload names, or else YouTube. -/
theorem downloadRequest_sourceType
    (h : downloadRequestFromPayload render resolve payload = some request) :
    request.2.1 = (parseJsonEnum SourceType (Json.get "source_type" payload)).getD .youtube := by
  unfold downloadRequestFromPayload at h
  dsimp only at h
  split at h
  · cases h
  · split at h
    · split at h
      · cases h
      · obtain rfl := Option.some.inj h
        rfl
    · obtain rfl := Option.some.inj h
      rfl

/-- A job that names no source is downloaded exactly when its payload is downloadable. -/
theorem downloadRequest_isSome (render : Json → String) (resolve : String → Option String)
    (hsource : parseJsonEnum SourceType (Json.get "source_type" payload) = none) :
    (downloadRequestFromPayload render resolve payload).isSome = true ↔
      Downloadable render payload := by
  unfold downloadRequestFromPayload Downloadable
  rw [hsource]
  dsimp only [Option.getD_none]
  by_cases hurl : requestedUrl render payload = ""
  · rw [if_pos hurl]
    exact iff_of_false Bool.false_ne_true fun h => h.1 hurl
  · rw [if_neg hurl, and_iff_right hurl]
    cases isYoutubeVideoUrl (requestedUrl render payload) with
    | true =>
      rw [if_neg fun h => Bool.noConfusion h.2]
      exact iff_of_true rfl (.inl rfl)
    | false =>
      rw [if_pos ⟨rfl, rfl⟩]
      by_cases huid : (fallbackUid render payload).length = 11
      · rw [if_neg fun h => h huid]
        exact iff_of_true rfl (.inr huid)
      · rw [if_pos huid]
        exact iff_of_false Bool.false_ne_true fun h => h.elim Bool.noConfusion huid

/-- The job reaches a downloader that takes it, before and after a touch, and it is downloaded from
the source that this downloader is for. -/
def DownloadAgrees (render : Json → String) (resolve : String → Option String) (i : Nat) (job : Job)
    (jobs : JobTable) : Prop :=
  ∃ sourceType : SourceType,
    Routed render sourceType.downloader i job jobs ∧
      (∀ now stage title copy, touchActiveJob now stage title job = some copy →
        Routed render sourceType.downloader i (copy.saveTouch job)
          (saveFields i copy.saveTouch jobs)) ∧
      ∀ request ∈ downloadRequestFromPayload render resolve job.payload.dict,
        request.2.1 = sourceType

/-- Publishers and worker always agree, so that it comes to the handler. -/
theorem downloadAgrees_request (render : Json → String) (resolve : String → Option String)
    (hi : i ≠ 0) {jobs : JobTable} (hrow : jobs.lookup i = some job)
    (htype : parseStrEnum JobType job.jobType = some .downloadEpisode ∨
      parseStrEnum JobType job.jobType = some .downloadSingle) :
    DownloadAgrees render resolve i job jobs ↔
      ∀ request ∈ downloadRequestFromPayload render resolve job.payload.dict,
        request.2.1 = sourceTypeForDownloaderJob job := by
  constructor
  · rintro ⟨sourceType, hrouted, -, hrequest⟩
    rwa [(routedTo_iff render hi hrow htype sourceType).1 hrouted]
  · intro hrequest
    refine ⟨sourceTypeForDownloaderJob job, (routedTo_iff render hi hrow htype _).2 rfl, ?_,
      hrequest⟩
    intro now stage title copy hcopy
    have hrow' : (saveFields i copy.saveTouch jobs).lookup i = some (copy.saveTouch job) := by
      rw [lookup_saveFields, if_pos rfl, hrow, Option.map_some]
    exact (routedTo_iff render hi hrow' htype _).2 (sourceType_touch hcopy)

/-- Publishers, worker and handler agree on a job, except on one that is for the podcast downloader
by its media type alone. -/
theorem downloadAgrees_iff (render : Json → String) (resolve : String → Option String) (hi : i ≠ 0)
    {jobs : JobTable} (hrow : jobs.lookup i = some job)
    (htype : parseStrEnum JobType job.jobType = some .downloadEpisode ∨
      parseStrEnum JobType job.jobType = some .downloadSingle) :
    DownloadAgrees render resolve i job jobs ↔
      (parseJsonEnum SourceType (Json.get "source_type" job.payload.dict)).isSome = true ∨
        parseJsonEnum MediaType (Json.get "media_type" job.payload.dict) ≠ some .audio ∨
        ¬ Downloadable render job.payload.dict := by
  rw [downloadAgrees_request render resolve hi hrow htype]
  cases hsource : parseJsonEnum SourceType (Json.get "source_type" job.payload.dict) with
  | some sourceType =>
    refine iff_of_true ?_ (.inl rfl)
    intro request hrequest
    rw [downloadRequest_sourceType hrequest, sourceTypeForDownloaderJob, hsource]
    rfl
  | none =>
    rw [← downloadRequest_isSome render resolve hsource]
    have htaken : sourceTypeForDownloaderJob job =
        if parseJsonEnum MediaType (Json.get "media_type" job.payload.dict) = some .audio
        then .podcast else .youtube := by
      rw [sourceTypeForDownloaderJob, hsource]
    rw [htaken]
    cases hrequest : downloadRequestFromPayload render resolve job.payload.dict with
    | none =>
      refine iff_of_true ?_ (.inr (.inr Bool.false_ne_true))
      intro request h
      cases h
    | some request =>
      have hyoutube := downloadRequest_sourceType hrequest
      rw [hsource, Option.getD_none] at hyoutube
      constructor
      · intro h
        refine .inr (.inl fun haudio => ?_)
        have hpodcast := h request rfl
        rw [hyoutube, if_pos haudio] at hpodcast
        cases hpodcast
      · rintro (h | h | h)
        · cases h
        · intro request' hrequest'
          obtain rfl := Option.some.inj hrequest'
          rw [if_neg h, hyoutube]
        · exact (h rfl).elim

/-- The row of a request to download an audio file from YouTube. -/
def apiDownload (sourceType : String) : Job where
  profileId := "alice"
  jobType := "download_single"
  status := .queued
  payload := .object [("source", .string "api"),
    ("url", .string "https://www.youtube.com/watch?v=abcdefghijk"),
    ("source_type", .string sourceType), ("media_type", .string "audio"),
    ("subtitles", .bool true), ("manual_enqueue", .bool true)]
  idempotencyKey := none
  errorMessage := none
  createdAt := 0
  updatedAt := 0
  startedAt := none
  finishedAt := none

theorem downloadAgrees_youtube :
    DownloadAgrees (fun _ => "") (fun _ => some "channel") 1 (apiDownload "youtube")
      (AList.singleton 1 (apiDownload "youtube")) :=
  (downloadAgrees_iff _ _ (by decide) (AList.lookup_insert ∅) (by decide)).2 (.inl (by decide))

/-- With a source type that nobody knows, the podcast downloader gets the job and downloads it as one
from YouTube. -/
theorem unknown_source_disagrees : ¬ ∀ (render : Json → String) (resolve : String → Option String)
    (jobs : JobTable) (i : Nat) (job : Job), i ≠ 0 → jobs.lookup i = some job →
      (∃ items, job.payload = .object items) →
      parseStrEnum JobType job.jobType = some .downloadEpisode ∨
        parseStrEnum JobType job.jobType = some .downloadSingle →
      DownloadAgrees render resolve i job jobs := by
  intro h
  have hrow : AList.lookup 1 (AList.singleton 1 (apiDownload "vimeo") : JobTable) =
      some (apiDownload "vimeo") := AList.lookup_insert ∅
  have hagrees := (downloadAgrees_request _ _ (by decide) hrow (by decide)).1 <|
    h (fun _ => "") (fun _ => some "channel") _ 1 (apiDownload "vimeo") (by decide) hrow ⟨_, rfl⟩ (by decide)
  have hrequest : ∃ request, downloadRequestFromPayload (fun _ => "") (fun _ => some "channel")
      (apiDownload "vimeo").payload.dict = some request ∧ request.2.1 = .youtube :=
    ⟨("https://www.youtube.com/watch?v=abcdefghijk", .youtube,
      "channel"), by decide, rfl⟩
  obtain ⟨request, hsome, hyoutube⟩ := hrequest
  have hpodcast := hagrees request hsome
  rw [hyoutube] at hpodcast
  exact absurd hpodcast (by decide)

end GetOffline
