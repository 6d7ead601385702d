import GetOffline.Conversion

set_option autoImplicit true

namespace GetOffline
open Python Effects Program

/-- A value that is in `{None, ""}`; what cannot be hashed raises. -/
def isBlank : Json → Except Error Bool
  | .null => .ok true
  | .string text => .ok (text = "")
  | .array _ | .object _ => .error .typeError
  | _ => .ok false

def subtitleOffset (host : Host) (payload : Columns) (default : Option Json) : Handler (Option Json) := do
  let value := (Json.get "subtitle_offset_seconds" payload).getD .null
  if ← ofExcept (isBlank value) then return default
  else return some (← ofExcept (host.toFloat value))

/-- What a screening changes in the columns of a row that it filters. -/
def filteredColumns (completedAt lastSeenAt : Instant) : Columns :=
  [("file_path", .null), ("file_path_relative", .null), ("file_size_bytes", .null),
    ("subtitle_path", .null), ("subtitle_path_relative", .null),
    ("download_status", DownloadStatus.filtered.json), ("completed_at", timeJson completedAt),
    ("last_seen_at", timeJson lastSeenAt)]

def subtitleColumns (subtitlePath outputRoot : Path) : Columns :=
  [("subtitle_path", .string subtitlePath.str),
    ("subtitle_path_relative", relativeJson subtitlePath outputRoot)]

/-- The row of a video that screening has found nothing in. -/
def insertScreened (host : Host) (profileId : String) (lookup defaults : Columns)
    (subtitlePath : Path) : Handler Download := do
  let outputRoot ← downloadOutputRoot host profileId
  let download ← perform (.updateOrCreateDownload lookup
    (Json.update (subtitleColumns subtitlePath outputRoot) defaults))
  let segments ← perform (.subtitleSegments subtitlePath)
  perform (.createSegments download.id subtitlePath.str segments)
  return download

/-- The row of a video that screening has removed. -/
def insertFiltered (lookup defaults : Columns) : Handler Unit := do
  let completedAt ← perform .now
  let lastSeenAt ← perform .now
  let _ ← perform (.updateOrCreateDownload lookup
    (Json.update (filteredColumns completedAt lastSeenAt) defaults))

/-- What becomes of a video without a row once there is a transcript, or none. -/
def screenSubtitle (host : Host) (profileId : String) (mediaPath : Path) (lookup defaults : Columns) :
    Option Path → Handler (Option Download)
  | none => do
    perform (.deleteMediaArtifacts mediaPath (.lookup lookup))
    return none
  | some subtitlePath => do
    let screened ← Program.tryCatch
      (do
        let explicitMatch ← perform (.screenTranscript subtitlePath)
        return some explicitMatch)
      fun _ => return none
    match screened with
    | none =>
      perform (.deleteMediaArtifacts mediaPath (.lookup lookup))
      return none
    | some (some _) =>
      perform (.deleteMediaArtifacts mediaPath (.lookup lookup))
      insertFiltered lookup defaults
      return none
    | some none =>
      let download ← insertScreened host profileId lookup defaults subtitlePath
      return some download

def screenDeferredVideoBeforeInsert (host : Host) (profileId : String) (mediaPath : Path)
    (lookup defaults payload : Columns) : Handler (Option Download) := do
  let offset ← subtitleOffset host payload none
  let mode ← profileSetting profileId "subtitle_transcription_mode" "in_process"
  let subtitlePath ← perform (.createSubtitles mediaPath offset true
    (host.textOr (Json.get "title" defaults) mediaPath.name) mode)
  screenSubtitle host profileId mediaPath lookup defaults subtitlePath

/-- The paths in `ffmpeg_source_file_paths`, resolved. -/
def deferredSourcePaths (host : Host) (payload : Columns) : List Path :=
  ((payloadList "ffmpeg_source_file_paths" payload).getD []).map fun path =>
    host.resolve (host.str path)

def generateDeferredTranscriptScreening (host : Host) (jobId : Nat) (job : Job) (payload : Columns) :
    Handler Unit := do
  let mediaPathValue := (Json.get "deferred_media_path" payload).getD .null
  match payloadObject "deferred_download_lookup" payload,
    payloadObject "deferred_download_defaults" payload with
  | some lookup, some defaults =>
    if mediaPathValue.truthy then
      let mediaPath := host.resolve (host.str mediaPathValue)
      let sourcePaths := deferredSourcePaths host payload
      let screening : Handler Unit := do
        let _ ← touchActive jobId job "deferred_transcript_screening"
          (host.textOr (Json.get "title" defaults) mediaPath.name)
        let _ ← screenDeferredVideoBeforeInsert host job.profileId mediaPath lookup defaults payload
      let cleanup : Handler Unit :=
        when (!sourcePaths.isEmpty) do
          let _ ← deleteFfmpegSourceFiles host sourcePaths mediaPath
      screening.tryFinally cleanup
    else return ()
  | _, _ => return ()

def subtitlesEnabledForDownload (host : Host) (download : Download) (payload : Columns) :
    Handler Bool :=
  match Json.get "subtitles" payload with
  | some value => return lower (strip (host.str value)) ∉ ["0", "false", "no", "off"]
  | none => do
    let source ← perform (.sourceNamed (host.str (download.get "profile_id"))
      (host.str (download.get "source_type")) (host.str (download.get "source_name")))
    return source.all SourceConfig.subtitles

def subtitleOffsetForDownload (host : Host) (download : Download) (payload : Columns) :
    Handler (Option Json) := do
  let value := (Json.get "subtitle_offset_seconds" payload).getD .null
  if ← ofExcept (isBlank value) then
    let source ← perform (.sourceNamed (host.str (download.get "profile_id"))
      (host.str (download.get "source_type")) (host.str (download.get "source_name")))
    return (source.bind SourceConfig.subtitleOffsetSeconds).map Json.float
  else return some (← ofExcept (host.toFloat value))

/-- The row is left as one whose media screening has removed. -/
def markFiltered (id : Nat) : Handler Unit := do
  let lastSeenAt ← perform .now
  perform (.saveDownload id
    [("download_status", DownloadStatus.filtered.json), ("last_seen_at", timeJson lastSeenAt)])

/-- The transcript of a row is saved, and looked through when the job says so. -/
def saveTranscript (host : Host) (profileId : String) (payload : Columns) (download : Download)
    (mediaPath subtitlePath : Path) : Handler Unit := do
  let outputRoot ← downloadOutputRoot host profileId
  perform (.saveDownload download.id (subtitleColumns subtitlePath outputRoot))
  let segments ← perform (.subtitleSegments subtitlePath)
  perform (.deleteSegments download.id)
  perform (.createSegments download.id subtitlePath.str segments)
  when (isTrue "delete_explicit_content" payload) do
    let screened ← Program.tryCatch (perform (.screenTranscript subtitlePath)) fun _ => return none
    when screened.isSome do
      perform (.deleteMediaArtifacts mediaPath (.row download.id))
      perform (.deleteSegments download.id)
      markFiltered download.id

/-- Without a transcript, media that is to be looked through is deleted. -/
def dropUnscreened (payload : Columns) (download : Download) (mediaPath : Path) : Handler Unit :=
  when (isTrue "delete_explicit_content" payload) do
    perform (.deleteMediaArtifacts mediaPath (.row download.id))
    markFiltered download.id

/-- `generate_transcript` of a row. -/
def generateDownloadTranscript (host : Host) (jobId : Nat) (job : Job) (payload : Columns)
    (download : Download) : Handler Unit := do
  let _ ← touchActive jobId job "transcript_generation"
    (strip (host.textOr (some (download.get "title")) ""))
  let path := host.resolve (host.textOr (some (download.get "file_path")) "")
  let node ← perform (.node path)
  let mediaPath ←
    (if Node.isFile node then pure path else ensureLocalMedia host download path)
  let media ← perform (.node mediaPath)
  when media.isSome do
    let enabled ← subtitlesEnabledForDownload host download payload
    let offset ← subtitleOffsetForDownload host download payload
    let mode ← profileSetting job.profileId "subtitle_transcription_mode" "in_process"
    match ← perform (.createSubtitles mediaPath offset enabled
        (host.textOr (some (download.get "title")) mediaPath.name) mode) with
    | some subtitlePath => saveTranscript host job.profileId payload download mediaPath subtitlePath
    | none => dropUnscreened payload download mediaPath

def generateTranscript (host : Host) (jobId : Nat) (job : Job) : Handler Unit := do
  let payload := job.payload.dict
  let downloadId := (Json.get "download_id" payload).getD .null
  if downloadId.truthy then
    match ← perform (.downloadById downloadId job.profileId) with
    | some download => generateDownloadTranscript host jobId job payload download
    | none => return ()
  else if ((Json.get "deferred_download_lookup" payload).getD .null).truthy ∧
      ((Json.get "deferred_media_path" payload).getD .null).truthy then
    generateDeferredTranscriptScreening host jobId job payload
  else return ()

end GetOffline
