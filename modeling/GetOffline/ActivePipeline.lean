import GetOffline.DownloadRows
import GetOffline.Jobs
import GetOffline.LibraryRows

set_option autoImplicit true

namespace GetOffline
open Python

-- api/services/dashboard_actions.py

/-- `_optional_int`, of a value from a payload. -/
def optionalIntOf (render : Json → String) (value : Option Json) : Except Error (Option Int) :=
  let raw := strip (Json.str render (Json.orEmpty value))
  if isDigit raw then (intOfText raw).map some else .ok none

/-- What the status of the pipeline is read from. `staleSeconds` is the environment's
`GETOFFLINE_ACTIVE_PIPELINE_STALE_SECONDS`, and the clock tells when each job is looked at. -/
structure PipelineScene where
  render : Json → String
  staleSeconds : Option String
  clock : Nat → Instant
  jobs : JobTable
  downloads : Downloads
  segments : AutoTable TranscriptSegment

/-- `str(payload.get(key) or "")`. -/
def PipelineScene.text (scene : PipelineScene) (items : Columns) (key : String) : String :=
  Json.str scene.render (Json.orEmpty (Json.get key items))

def activePipelineCutoff (staleSeconds : Option String) (now : Instant) : Except Error (Option Instant) :=
  let rawTimeout := strip (staleSeconds.getD "3600")
  if !isDigit rawTimeout then .ok none
  else do
    let timeoutSeconds ← intOfText rawTimeout
    if timeoutSeconds ≤ 0 then return none
    let cutoff := now - timeoutSeconds * 1000000
    if maxDeltaSeconds < timeoutSeconds ∨ cutoff < minInstant then .error .overflowError
    else return some cutoff

/-- `_job_is_fresh`: `updated_at` is never null. -/
def PipelineScene.jobIsFresh (scene : PipelineScene) (id : Nat) (job : Job) : Except Error Bool := do
  let cutoff ← activePipelineCutoff scene.staleSeconds (scene.clock id)
  return cutoff.all fun cutoff => cutoff ≤ job.updatedAt

/-- `_job_download`. -/
def PipelineScene.jobDownload (scene : PipelineScene) (job : Job) : Except Error (Option Download) := do
  let downloadId ← optionalIntOf scene.render (Json.get "download_id" job.payload.dict)
  match downloadId with
  | none => return none
  | some downloadId =>
    if downloadId = 0 then return none else scene.downloads.byId (.int downloadId) job.profileId

def PipelineScene.jobStillNeedsWork (scene : PipelineScene) (job : Job) : Except Error Bool := do
  let downloadId ← optionalIntOf scene.render (Json.get "download_id" job.payload.dict)
  match downloadId with
  | none => return true
  | some downloadId =>
    if downloadId = 0 then return true
    else
      match ← scene.downloads.byId (.int downloadId) job.profileId with
      | none => return decide (job.jobType ∈ ["download_episode", "download_single"])
      | some download =>
        if job.jobType ∈ ["generate_transcript", "generate_ocr", "transcode_media"] then
          let hasTranscript := scene.segments.rows.any fun _ segment => (segment.downloadId : Int) = downloadId
          let hasSubtitleFile := (download.get "subtitle_path").truthy ||
            (download.get "subtitle_path_relative").truthy
          return !(hasTranscript || hasSubtitleFile)
        else if job.jobType ∈ ["download_episode", "download_single"] then
          return parseStrEnum DownloadStatus (Json.str scene.render (Json.orEmpty
            (some (download.get "download_status")))) ≠ some .downloaded
        else return true

/-- `_job_is_fresh(job) and _job_still_needs_work(job)`. -/
def PipelineScene.isCurrent (scene : PipelineScene) (e : Nat × Job) : Except Error Bool := do
  if ← scene.jobIsFresh e.1 e.2 then scene.jobStillNeedsWork e.2 else return false

/-- `text.replace("_", " ").title()` of an ASCII text. -/
def titleOfType (text : String) : String :=
  let step := fun (acc : List Char × Bool) (c : Char) =>
    let c := if c = '_' then ' ' else c
    (acc.1 ++ [if acc.2 then c.toLower else c.toUpper], c.isAlpha)
  String.ofList (text.toList.foldl step ([], false)).1

/-- The title that the payload itself gives, or else the job's type. -/
def PipelineScene.payloadTitle (scene : PipelineScene) (job : Job) : String :=
  let payload := job.payload.dict
  let own := ["active_title", "title", "episode_title", "item_title", "url"].map fun key =>
    strip (scene.text payload key)
  let defaults := ["download_defaults", "deferred_download_defaults"].filterMap fun key =>
    match Json.get key payload with
    | some (.object items) => some (strip (scene.text items "title"))
    | _ => none
  ((own ++ defaults).find? fun title => title ≠ "").getD (titleOfType job.jobType)

def PipelineScene.jobDisplayTitle (scene : PipelineScene) (job : Job) : Except Error String :=
  let downloadId := (Json.get "download_id" job.payload.dict).getD .null
  if downloadId.truthy then do
    let download ← scene.downloads.byId downloadId job.profileId
    let title := (download.map (Download.get "title")).getD .null
    return if title.truthy then Json.str scene.render title else scene.payloadTitle job
  else .ok (scene.payloadTitle job)

structure JobStage where
  name : String
  label : String

def PipelineScene.jobStage (scene : PipelineScene) (job : Job) : JobStage :=
  let activeStage := strip (scene.text job.payload.dict "active_stage")
  if job.status = .queued then ⟨"queued", "Queued"⟩
  else if activeStage = "downloading" then ⟨"downloading", "Downloading"⟩
  else if activeStage = "transcript_generation" then ⟨"transcript_generation", "Transcript generation"⟩
  else if activeStage = "pdf_ocr" then ⟨"pdf_ocr", "PDF OCR"⟩
  else if job.jobType ∈ ["download_episode", "download_single"] then ⟨"downloading", "Downloading"⟩
  else if job.jobType = "generate_ocr" then ⟨"pdf_ocr", "PDF OCR"⟩
  else if job.jobType = "transcode_media" then ⟨"transcoding", "Transcoding"⟩
  else if job.jobType = "generate_transcript" then ⟨"transcribing", "Transcribing"⟩
  else ⟨"queued", titleOfType job.jobType⟩

/-- `_job_source_details`: the name and the type of the source, and the media type. -/
def PipelineScene.jobSourceDetails (scene : PipelineScene) (job : Job) (download : Option Download) :
    String × String × String :=
  let payload := job.payload.dict
  match download with
  | some download =>
    let mediaType := lower (strip (scene.text payload "media_type"))
    let fileExt := lower (strip (scene.text download.columns "file_ext"))
    (scene.text download.columns "source_name", scene.text download.columns "source_type",
      if mediaType ∈ ["audio", "video"] then mediaType
      else if fileExt ∈ ["mp4", "mkv", "webm", "mov"] then "video" else "audio")
  | none =>
    let lookup := ["download_lookup", "deferred_download_lookup"].findSome? fun key =>
      match Json.get key payload with
      | some (.object items) => some items
      | _ => none
    let text := fun key => Json.str scene.render (Json.orEmpty (some
      (Json.orElse ((lookup.getD []).lookup key) ((Json.get key payload).getD .null))))
    (text "source_name", text "source_type", scene.text payload "media_type")

structure PipelineItem where
  id : Nat
  downloadId : Option Nat
  title : String
  sourceName : String
  sourceType : String
  mediaType : String
  status : String
  stage : String
  stageLabel : String
  updatedAt : String

def PipelineScene.pipelineItem (scene : PipelineScene) (e : Nat × Job) : Except Error PipelineItem := do
  let download ← scene.jobDownload e.2
  let (sourceName, sourceType, mediaType) := scene.jobSourceDetails e.2 download
  let stage := scene.jobStage e.2
  let title ← scene.jobDisplayTitle e.2
  return {
    id := e.1, downloadId := download.map Download.id, title, sourceName, sourceType, mediaType
    status := StrEnum.value e.2.status, stage := stage.name, stageLabel := stage.label
    updatedAt := isoformat e.2.updatedAt }

def pipelineJobTypes : List String :=
  ["download_episode", "download_single", "generate_transcript", "generate_ocr", "transcode_media"]

/-- `order_by("created_at", "id")`. -/
def creationOrder (id : Nat) (job : Job) : Instant ×ₗ Nat :=
  toLex (job.createdAt, id)

/-- The queued and the running pipeline jobs of a profile, in the order in which they were made. -/
def PipelineScene.activeJobs (scene : PipelineScene) (profileId : String) : List (Nat × Job) :=
  scene.jobs.orderBy (fun _ job => job.profileId = profileId && job.jobType ∈ pipelineJobTypes && job.active)
    creationOrder

/-- `[a for a in l if p(a)]`. -/
def comprehend (p : α → Except ε Bool) : List α → Except ε (List α)
  | [] => .ok []
  | a :: l => do
    let keep ← p a
    let rest ← comprehend p l
    return if keep then a :: rest else rest

/-- `_active_pipeline_items`. -/
def PipelineScene.activePipelineItems (scene : PipelineScene) (profileId : String) :
    Except Error (List PipelineItem) := do
  let jobs ← comprehend scene.isCurrent ((scene.activeJobs profileId).take 80)
  (jobs.take 20).mapM scene.pipelineItem

example : titleOfType "download_single" = "Download Single" := by decide +kernel

end GetOffline
