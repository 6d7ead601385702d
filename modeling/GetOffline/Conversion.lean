import GetOffline.MediaFiles
import GetOffline.PythonIsoformat

set_option autoImplicit true

namespace GetOffline
open Python Effects Program

/-- `payload.get(key) if isinstance(payload.get(key), dict) else None`, where an empty dict is as
good as none. -/
def payloadObject (key : String) (payload : Columns) : Option Columns :=
  match Json.get key payload with
  | some (.object (item :: items)) => some (item :: items)
  | _ => none

/-- `payload.get(key) if isinstance(payload.get(key), list) else None`, likewise. -/
def payloadList (key : String) (payload : Columns) : Option (List Json) :=
  match Json.get key payload with
  | some (.array (item :: items)) => some (item :: items)
  | _ => none

def isTrue (key : String) (payload : Columns) : Bool :=
  ((Json.get key payload).getD (.bool false)).truthy

/-- `str(path.relative_to(root))`, or a null outside the root. -/
def relativeJson (path root : Path) : Json :=
  (path.relativeTo root).elim .null Json.string

def timeJson (t : Instant) : Json :=
  .string (isoformat t)

/-- The columns that a conversion sets. -/
def convertedColumns (targetPath outputRoot : Path) (outputSize : Nat)
    (completedAt lastSeenAt : Instant) : Columns :=
  [("file_path", .string targetPath.str), ("file_path_relative", relativeJson targetPath outputRoot),
    ("file_ext", .string targetPath.extension), ("file_size_bytes", .int outputSize),
    ("download_status", DownloadStatus.downloaded.json), ("completed_at", timeJson completedAt),
    ("last_seen_at", timeJson lastSeenAt)]

/-- `payload.get("subtitles", True)` and `payload.get("subtitle_offset_seconds")`. -/
def subtitleItems (payload : Columns) : Columns :=
  [("subtitles", (Json.get "subtitles" payload).getD (.bool true)),
    ("subtitle_offset_seconds", (Json.get "subtitle_offset_seconds" payload).getD .null)]

/-- The transcript job for a converted video without a row. -/
def deferredTranscriptArgs (host : Host) (profileId : String) (payload lookup defaults : Columns)
    (sourcePaths : List Path) (targetPath : Path) (mediaKind : String) : JobArgs where
  profileId := profileId
  jobType := "generate_transcript"
  payload := some <|
    [("deferred_download_lookup", .object lookup), ("deferred_download_defaults", .object defaults),
      ("deferred_media_path", .string targetPath.str),
      ("ffmpeg_source_file_paths", .array (sourcePaths.map fun path => .string path.str))] ++
    subtitleItems payload ++
    [("source_type", (Json.get "source_type" lookup).getD .null), ("media_type", .string mediaKind),
      ("recent_download", .bool true), ("delete_explicit_content", .bool true)]
  idempotencyKey := some <| "generate_transcript:" ++ profileId ++ ":deferred:" ++
    host.str ((Json.get "source_type" lookup).getD .null) ++ ":" ++
    host.str ((Json.get "source_name" lookup).getD .null) ++ ":" ++
    host.str ((Json.get "item_uid" lookup).getD .null)

/-- The transcript job for a row. -/
def transcriptArgs (profileId : String) (payload : Columns) (downloadId : String) (id sourceType : Json)
    (mediaKind : String) : JobArgs where
  profileId := profileId
  jobType := "generate_transcript"
  payload := some <| ("download_id", id) :: subtitleItems payload ++
    [("source_type", sourceType), ("media_type", .string mediaKind), ("recent_download", .bool true),
      ("delete_explicit_content", .bool (isTrue "delete_explicit_content" payload))]
  idempotencyKey := some ("generate_transcript:" ++ profileId ++ ":" ++ downloadId)

/-- What a conversion is about: the row, or what a row is to be made of later. -/
inductive ConversionSubject
  | row (download : Download)
  | deferred (lookup defaults : Columns)

namespace ConversionSubject

def download : ConversionSubject → Option Download
  | .row download => some download
  | .deferred _ _ => none

/-- The source path that stands in the row or in the payload. -/
def filePath (payload : Columns) : ConversionSubject → Json
  | .row download => download.get "file_path"
  | .deferred _ _ => (Json.get "source_file_path" payload).getD .null

end ConversionSubject

/-- The input files, the first one apart. -/
structure ConversionSources where
  first : Path
  rest : List Path

def ConversionSources.all (sources : ConversionSources) : List Path :=
  sources.first :: sources.rest

def conversionSources (host : Host) (payload : Columns) (subject : ConversionSubject) :
    ConversionSources :=
  match payloadList "source_file_paths" payload with
  | some (path :: paths) =>
    ⟨host.absolute (host.str path), paths.map fun path => host.absolute (host.str path)⟩
  | _ => ⟨host.absolute (host.str (subject.filePath payload)), []⟩

/-- `_target_path`. -/
def targetPathOf (source : Path) (targetExt : String) : Handler Path :=
  perform (.targetPath source targetExt)

def hasTarget (payload : Columns) : Bool :=
  ((Json.get "target_file_path" payload).getD .null).truthy

def conversionTarget (host : Host) (payload : Columns) (subject : ConversionSubject) (source : Path)
    (targetExt : String) : Handler Path := do
  let target ←
    (if hasTarget payload then
      pure (host.absolute (host.str ((Json.get "target_file_path" payload).getD .null)))
    else targetPathOf source targetExt)
  return if subject.download.isSome then host.real target else target

/-- The paths under which there is nothing, or nothing of the kind that is asked for. -/
def missingPaths (present : Option Node → Bool) (paths : List Path) : Handler (List Path) :=
  paths.foldlM (fun missing path => do
    let node ← perform (.node path)
    return if present node then missing else missing ++ [path]) []

/-- `path.stat().st_size`. -/
def fileSize (path : Path) : Handler Nat := do
  match ← perform (.node path) with
  | some (.file size) => return size
  | some .directory => return 0
  | none => raise (.other "FileNotFoundError")

def totalSize (paths : List Path) : Handler Nat :=
  paths.foldlM (fun total path => do
    let size ← fileSize path
    return total + size) 0

/-- The `ffmpeg` run and what is checked after it: the size of the output. -/
def runConversion (profileId mediaKind targetExt : String) (sources : ConversionSources)
    (targetPath : Path) : Handler Nat := do
  let _ ← totalSize sources.all
  let ffmpegPath ← profileSetting profileId "ffmpeg_path" "ffmpeg"
  let codecArgs ←
    (if mediaKind = "audio" then ffmpegAudioArgs profileId targetExt
    else ffmpegVideoArgs profileId targetExt sources.all.length)
  let threads ← ffmpegThreadCount profileId
  let command := [ffmpegPath, "-y", "-filter_threads", threads, "-filter_complex_threads", threads] ++
    sources.all.flatMap (fun path => ["-threads", threads, "-i", path.str]) ++ codecArgs ++
    [targetPath.str]
  perform (.runFfmpeg command sources.all targetPath)
  let output ← perform (.node targetPath)
  if output.isNone then raise (.other ("FFmpeg output file was not created: " ++ targetPath.str))
  else fileSize targetPath

/-- The row of a conversion, new or changed. -/
def saveConversion (subject : ConversionSubject) (columns : Columns) : Handler Download :=
  match subject with
  | .deferred lookup defaults =>
    perform (.updateOrCreateDownload lookup (Json.update columns defaults))
  | .row download => do
    perform (.saveDownload download.id columns)
    return ⟨download.id, Json.update columns download.columns⟩

/-- The row is saved and the inputs are deleted. -/
def recordConversion (host : Host) (subject : ConversionSubject) (sources : ConversionSources)
    (targetPath outputRoot : Path) (outputSize : Nat) : Handler (Option Download) := do
  let completedAt ← perform .now
  let lastSeenAt ← perform .now
  let download ← saveConversion subject
    (convertedColumns targetPath outputRoot outputSize completedAt lastSeenAt)
  let _ ← deleteFfmpegSourceFiles host sources.all targetPath
  return some download

def conversionRoot (host : Host) (profileId : String) (payload : Columns) : Handler Path :=
  let outputRoot := (Json.get "output_root" payload).getD .null
  if outputRoot.truthy then pure (host.absolute (host.str outputRoot))
  else downloadOutputRoot host profileId

/-- From the conversion to the end: the row, or the job that screens the video before there is one. -/
def convert (host : Host) (profileId : String) (payload : Columns) (subject : ConversionSubject)
    (mediaKind targetExt : String) (sources : ConversionSources) (targetPath : Path) :
    Handler (Option Download) := do
  let outputSize ← runConversion profileId mediaKind targetExt sources targetPath
  let outputRoot ← conversionRoot host profileId payload
  match subject with
  | .deferred lookup defaults =>
    if mediaKind = "video" ∧ isTrue "delete_explicit_content" payload = true then
      let completedAt ← perform .now
      let lastSeenAt ← perform .now
      let columns := convertedColumns targetPath outputRoot outputSize completedAt lastSeenAt
      createAndPublish (deferredTranscriptArgs host profileId payload lookup
        (Json.update columns defaults) sources.all targetPath mediaKind)
      return none
    else recordConversion host subject sources targetPath outputRoot outputSize
  | .row _ => recordConversion host subject sources targetPath outputRoot outputSize

def fetchSource (host : Host) (download : Download) (path : Path) : Handler Path := do
  let node ← perform (.node path)
  if Node.isFile node then return path else ensureLocalMedia host download path

/-- The inputs of a row's conversion that are not there, fetched through the API. -/
def fetchSources (host : Host) (download : Download) (sources : ConversionSources) :
    Handler ConversionSources := do
  let first ← fetchSource host download sources.first
  let rest ← sources.rest.foldlM (fun rest path => do
    let path ← fetchSource host download path
    return rest ++ [path]) []
  return ⟨first, rest⟩

/-- The conversion, once the inputs that are missing have been looked for. -/
def convertPresent (host : Host) (profileId : String) (payload : Columns) (subject : ConversionSubject)
    (mediaKind targetExt : String) (sources : ConversionSources) (targetPath : Path)
    (missing : List Path) : Handler (Option Download) :=
  match missing with
  | path :: _ => raise (.other ("Downloaded file is missing: " ++ path.str))
  | [] => convert host profileId payload subject mediaKind targetExt sources targetPath

/-- What is done under the lock when the row does not have the target yet. -/
def convertSources (host : Host) (profileId : String) (payload : Columns) (subject : ConversionSubject)
    (mediaKind targetExt : String) (sources : ConversionSources) (targetPath : Path) :
    Handler (Option Download) := do
  let missing ← missingPaths Option.isSome sources.all
  match subject with
  | .deferred _ _ =>
    convertPresent host profileId payload subject mediaKind targetExt sources targetPath missing
  | .row download =>
    if missing = [] then
      convertPresent host profileId payload subject mediaKind targetExt sources targetPath missing
    else
      let target ← perform (.node targetPath)
      if target.isSome then return some download
      else
        let sources ← fetchSources host download sources
        let targetPath ←
          (if hasTarget payload then pure targetPath else targetPathOf sources.first targetExt)
        let missing ← missingPaths Node.isFile sources.all
        convertPresent host profileId payload subject mediaKind targetExt sources targetPath missing

/-- What is done under the lock: an earlier run may have made the target already. -/
def convertOnce (host : Host) (profileId : String) (payload : Columns) (subject : ConversionSubject)
    (mediaKind targetExt : String) (sources : ConversionSources) (targetPath : Path) :
    Handler (Option Download) := do
  let downloadId := (Json.get "download_id" payload).getD .null
  let refreshed ←
    (if downloadId.truthy then perform (.downloadById downloadId profileId) else pure none)
  match refreshed with
  | none => convertSources host profileId payload subject mediaKind targetExt sources targetPath
  | some refreshed =>
    if host.resolve (host.textOr (some (refreshed.get "file_path")) "") = targetPath then
      let target ← perform (.node targetPath)
      if target.isSome then return some refreshed
      else convertSources host profileId payload subject mediaKind targetExt sources targetPath
    else convertSources host profileId payload subject mediaKind targetExt sources targetPath

/-- The row that a payload names, or else what it says of a row to be. -/
def conversionSubject (profileId : String) (payload : Columns) : Handler (Option ConversionSubject) := do
  let downloadId := (Json.get "download_id" payload).getD .null
  let download ←
    (if downloadId.truthy then perform (.downloadById downloadId profileId) else pure none)
  match download with
  | some download => return some (.row download)
  | none =>
    match payloadObject "download_lookup" payload, payloadObject "download_defaults" payload with
    | some lookup, some defaults =>
      return if ((Json.get "source_file_path" payload).getD .null).truthy
        then some (.deferred lookup defaults) else none
    | _, _ => return none

def conversionKind (host : Host) (payload : Columns) : ConversionSubject → Handler String
  | .row download => preferredMediaKind host download payload
  | .deferred _ _ => return host.textOr (Json.get "media_type" payload) "video"

/-- `_postprocess_download_with_ffmpeg`. -/
def postprocessDownloadWithFfmpeg (host : Host) (profileId : String) (payload : Columns)
    (parentJobId : String) : Handler (Option Download) := do
  match ← conversionSubject profileId payload with
  | none => return none
  | some subject =>
    let sources := conversionSources host payload subject
    let mediaKind ← conversionKind host payload subject
    let targetExt ←
      (if mediaKind = "audio" then pure "mp3" else preferredTargetExt profileId mediaKind)
    let targetPath ← conversionTarget host payload subject sources.first targetExt
    withTranscodeLock host profileId payload parentJobId
      (convertOnce host profileId payload subject mediaKind targetExt sources targetPath)

def transcodeMedia (host : Host) (jobId : Nat) (job : Job) : Handler Unit := do
  let payload := job.payload.dict
  let _ ← touchActive jobId job "ffmpeg_conversion" ""
  match ← postprocessDownloadWithFfmpeg host job.profileId payload (toString jobId) with
  | none => return ()
  | some download =>
    let mediaType := (Json.get "media_type" payload).getD .null
    let mediaKind ←
      (if mediaType.truthy then pure (host.str mediaType)
      else preferredMediaKind host download payload)
    createAndPublish (transcriptArgs job.profileId payload (toString download.id) (.int download.id)
      (download.get "source_type") (lower (strip mediaKind)))

end GetOffline
