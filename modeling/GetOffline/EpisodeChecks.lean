import GetOffline.DownloadHandler

set_option autoImplicit true

namespace GetOffline
open Python Effects Program

/-- `_idempotency_key`; a part that is empty counts as no part. -/
def partsKey (host : Host) (parts : List String) : String :=
  let text := strip ("|".intercalate parts)
  let digest := host.sha1 (if text = "" then "unknown" else text)
  let keyStart := String.ofList ((":".intercalate (parts.take 3)).toList.take 160)
  cut255 (keyStart ++ ":" ++ digest)

/-- `_source_limit`. -/
def sourceLimit (source : SourceConfig) : Handler Nat := do
  match source.maxDownloads with
  | some (.ofNat (n + 1)) => return n + 1
  | some (.negSucc _) => return 1
  | _ =>
    let profileDefault := strip ((← perform (.profileSetting source.profileId "max_downloads")).getD "")
    if isDigit profileDefault then
      let limit ← ofExcept (intOfText profileDefault)
      return (max 1 limit).toNat
    else return 10

/-- The columns that say which source a row comes from. -/
def sourceColumns (profileId : String) (source : SourceConfig) : Columns :=
  [("profile_id", .string profileId), ("source_type", .string source.sourceType),
    ("source_name", .string source.name)]

def episodeWasDownloaded (profileId : String) (source : SourceConfig) (itemUid itemUrl title : String) :
    Handler Bool := do
  let rows := sourceColumns profileId source
  let known := fun (column text : String) =>
    if text = "" then (pure false : Handler Bool)
    else perform (.downloadExists (rows ++ [(column, .string text)]))
  if ← known "item_uid" itemUid then return true
  else if ← known "item_url" itemUrl then return true
  else known "title" title

def SourceConfig.mediaTypeOrDefault (source : SourceConfig) : String :=
  (source.mediaType.filter fun text => text ≠ "").getD
    (if parseStrEnum SourceType source.sourceType = some .podcast then "audio" else "video")

/-- The job for an episode of a source. -/
def episodeArgs (profileId : String) (id : Nat) (source : SourceConfig) (limit : Nat)
    (itemUid itemUrl title idempotencyKey : String) (candidate : Columns) : JobArgs where
  profileId := profileId
  jobType := "download_episode"
  payload := some [("source_id", .int id), ("source_type", .string source.sourceType),
    ("source_name", .string source.name), ("source_url", .string source.url),
    ("media_type", .string source.mediaTypeOrDefault), ("source_max_downloads", .int limit),
    ("item_uid", .string itemUid), ("item_url", .string itemUrl),
    ("media_url", Json.orElse (Json.get "media_url" candidate) (.string itemUrl)),
    ("title", .string title),
    ("published", Json.orElse (Json.get "published" candidate) (.string "")),
    ("subtitles", .bool source.subtitles),
    ("subtitle_offset_seconds", source.subtitleOffsetSeconds.elim .null Json.float),
    ("delete_explicit_content", .bool source.deleteExplicitContent),
    ("include_shorts", .bool source.includeShorts),
    ("include_livestreams", .bool source.includeLivestreams)]
  idempotencyKey := some idempotencyKey

/-- `_make_stale_job_queued`, and the job published once more when it waits. -/
def republishActive (host : Host) (jobId : Nat) (job : Job) : Handler Unit := do
  let now ← perform .now
  let wasStale ← ofExcept (makesStaleJobQueued host.staleRunningJobSeconds now job)
  when wasStale do
    let updatedAt ← perform .now
    perform (.saveRequeued jobId updatedAt)
  when (wasStale || job.status = .queued) (perform (.publishJob jobId))

/-- An episode that has no row yet is enqueued, unless it is already. -/
def enqueueEpisode (host : Host) (profileId : String) (id : Nat) (source : SourceConfig) (limit : Nat)
    (itemUid itemUrl title : String) (candidate : Columns) : Handler Unit := do
  let item := if itemUid ≠ "" then itemUid else if itemUrl ≠ "" then itemUrl else title
  let key := partsKey host ["download_episode", profileId, if id = 0 then "" else toString id, item]
  match ← perform (.activeDownloadJob key) with
  | some (jobId, job) => republishActive host jobId job
  | none =>
    createAndPublish (episodeArgs profileId id source limit itemUid itemUrl title key candidate)

/-- The candidates of a source in their turn, up to the limit of what is enqueued. -/
def checkCandidates (host : Host) (profileId : String) (id : Nat) (source : SourceConfig) (limit : Nat)
    (failure : Option String) : List Columns → Nat → Handler Unit
  | [], _ => failure.elim (pure ()) fun error => raise (.other error)
  | candidate :: candidates, enqueued =>
    if limit ≤ enqueued then pure ()
    else do
      let itemUid := cut255 (host.textOr (Json.get "item_uid" candidate) "")
      let itemUrl := host.textOr (Json.get "item_url" candidate) ""
      let title := host.textOr (Json.get "title" candidate) ""
      if ← episodeWasDownloaded profileId source itemUid itemUrl title then
        checkCandidates host profileId id source limit failure candidates enqueued
      else
        enqueueEpisode host profileId id source limit itemUid itemUrl title candidate
        checkCandidates host profileId id source limit failure candidates (enqueued + 1)

def checkSource (host : Host) (profileId : String) (source : Nat × SourceConfig) : Handler Unit := do
  let limit ← sourceLimit source.2
  let (candidates, failure) ← perform (.candidates source)
  checkCandidates host profileId source.1 source.2 limit failure candidates 0

def checkProfile (host : Host) (profileId : String) : Handler Unit := do
  let sources ← perform (.enabledSources profileId)
  sources.foldlM (fun _ source => checkSource host profileId source) ()

def checkForEpisodes (host : Host) : Handler Unit := do
  let profileIds ← perform .enabledProfiles
  profileIds.foldlM (fun _ profileId => checkProfile host profileId) ()

end GetOffline
