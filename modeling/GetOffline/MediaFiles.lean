import GetOffline.HandlerCalls

set_option autoImplicit true

namespace GetOffline
open Python Effects Program

def Node.isFile : Option Node → Bool
  | some (.file _) => true
  | _ => false

-- workers/handlers.py

def profileSetting (profileId key default : String) : Handler String := do
  let value ← perform (.profileSetting profileId key)
  return (value.filter fun text => text ≠ "").getD default

def downloadOutputRoot (host : Host) (profileId : String) : Handler Path := do
  let root ← profileSetting profileId "output_root" ("./downloads/" ++ profileId)
  return host.absolute root

/-- `_touch_active_job`: the worker's copy of its job afterwards. -/
def touchActive (jobId : Nat) (job : Job) (stage title : String) : Handler Job := do
  let now ← perform .now
  match touchActiveJob now stage title job with
  | none => return job
  | some copy =>
    perform (.saveTouch jobId copy)
    return copy

/-- `create_job` and `_publish_created_job`. -/
def createAndPublish (args : JobArgs) : Handler Unit := do
  let id ← perform (.createJob args)
  perform (.publishJob id)

def isMediaKind (text : String) : Bool :=
  text = "audio" || text = "video"

/-- `payload.get("media_type") or default`, trimmed and in lower case. -/
def mediaTypeOr (host : Host) (payload : Columns) (default : String) : String :=
  lower (strip (host.textOr (Json.get "media_type" payload) default))

def preferredMediaKind (host : Host) (download : Download) (payload : Columns) : Handler String := do
  let requested := mediaTypeOr host payload ""
  if isMediaKind requested then return requested
  else
    let sourceType := host.str (download.get "source_type")
    let source ← perform (.sourceNamed (host.str (download.get "profile_id")) sourceType
      (host.str (download.get "source_name")))
    let sourceMediaType := lower (strip ((source.bind SourceConfig.mediaType).getD ""))
    if isMediaKind sourceMediaType then return sourceMediaType
    else if parseStrEnum SourceType sourceType = some .podcast then return "audio"
    else if lower (host.textOr (some (download.get "file_ext")) "") ∈ ["mp4", "mkv", "webm", "mov"]
      then return "video"
    else return "audio"

def preferredTargetExt (profileId mediaKind : String) : Handler String := do
  let ext ← profileSetting profileId (if mediaKind = "audio" then "audio_format" else "video_format")
    (if mediaKind = "audio" then "mp3" else "mp4")
  return lower (strip ext)

def videoCodec (profileId : String) : Handler String := do
  let codec ← profileSetting profileId "video_codec" "h264"
  return lower (strip codec)

structure DownloadFfmpegRequirement where
  requiresFfmpeg : Bool
  mediaKind : String
  targetExt : String

def downloadRequiresFfmpeg (host : Host) (download : Download) (payload : Columns) :
    Handler DownloadFfmpegRequirement := do
  let mediaKind ← preferredMediaKind host download payload
  let targetExt ← preferredTargetExt (host.str (download.get "profile_id")) mediaKind
  let ext := host.textOr (some (download.get "file_ext")) ""
  let currentExt := lower <| strip <|
    if ext = "" then (Path.parse (host.textOr (some (download.get "file_path")) "")).extension else ext
  if mediaKind = "video" then
    let codec ← videoCodec (host.str (download.get "profile_id"))
    return ⟨currentExt ≠ targetExt || codec ∉ ["copy", ""], mediaKind, targetExt⟩
  else return ⟨currentExt ≠ targetExt, mediaKind, targetExt⟩

structure DownloadedMediaFfmpegRequirement where
  requiresFfmpeg : Bool
  targetExt : String

def downloadedMediaRequiresFfmpeg (profileId mediaKind currentExt : String) (inputCount : Nat) :
    Handler DownloadedMediaFfmpegRequirement := do
  let targetExt ←
    (if mediaKind = "audio" then pure "mp3" else preferredTargetExt profileId mediaKind)
  let normalizedExt := String.ofList ((lower (strip currentExt)).toList.dropWhile fun c => c = '.')
  if mediaKind = "video" then
    let codec ← videoCodec profileId
    return ⟨1 < inputCount || normalizedExt ≠ targetExt || codec ∉ ["copy", ""], targetExt⟩
  else return ⟨normalizedExt ≠ targetExt, targetExt⟩

def ffmpegThreadCount (profileId : String) : Handler String := do
  let value ← profileSetting profileId "ffmpeg_threads" "1"
  let rawValue := if strip value = "" then "1" else strip value
  match intOfText rawValue with
  | .ok count => return toString (max 1 count)
  | .error _ => return "1"

def ffmpegAudioArgs (profileId targetExt : String) : Handler (List String) := do
  let quality ← profileSetting profileId "audio_quality" "0"
  let quality := if strip quality = "" then "0" else strip quality
  let audioFilter ← profileSetting profileId "ffmpeg_audio_filter" ""
  let threads ← ffmpegThreadCount profileId
  let codec :=
    if targetExt = "mp3" then ["-codec:a", "libmp3lame", "-q:a", quality]
    else if targetExt = "opus" then ["-codec:a", "libopus", "-b:a", "96k"]
    else ["-codec:a", "aac", "-b:a", "192k"]
  return ["-vn", "-threads", threads] ++ codec ++
    if strip audioFilter = "" then [] else ["-af", strip audioFilter]

def ffmpegVideoArgs (profileId targetExt : String) (inputCount : Nat) : Handler (List String) := do
  let codec ← videoCodec profileId
  let subtitles := if targetExt = "mp4" then "mov_text" else "copy"
  let streams := ["-map", "0:v:0?", "-map", if 1 < inputCount then "1:a:0?" else "0:a:0?", "-map",
    "0:s?", "-c:s", subtitles]
  let video :=
    if codec = "copy" then ["-c:v", "copy"]
    else if codec = "h264" ∨ codec = "avc" then
      ["-c:v", "libx264", "-preset", "fast", "-crf", "25", "-pix_fmt", "yuv420p"]
    else ["-c:v", "libx265", "-tag:v", "hvc1", "-crf", "28", "-preset", "medium"]
  let threads ← ffmpegThreadCount profileId
  return streams ++ video ++
    ["-threads", threads, "-c:a", "aac", "-b:a", "128k", "-ac", "2", "-ar", "48000"] ++
    if targetExt = "mp4" then ["-movflags", "+faststart"] else []

/-- One round of `_delete_ffmpeg_source_files`; a failed `unlink` is only logged. -/
def deleteFfmpegSourceFile (host : Host) (resolvedTarget : Path) (deleted : List Path)
    (sourcePath : Path) : Handler (List Path) := do
  let candidate := host.real sourcePath
  let node ← perform (.node candidate)
  if candidate = resolvedTarget ∨ Node.isFile node = false then return deleted
  else
    let unlinked ← Program.tryCatch
      (do
        perform (.unlink candidate)
        return true)
      fun _ => return false
    if unlinked then
      let after ← perform (.node candidate)
      return if after.isSome then deleted else deleted ++ [candidate]
    else return deleted

def deleteFfmpegSourceFiles (host : Host) (sourcePaths : List Path) (targetPath : Path) :
    Handler (List Path) :=
  sourcePaths.foldlM (deleteFfmpegSourceFile host (host.real targetPath)) []

def transcodeIdempotencyKey (host : Host) (profileId : String) (payload : Columns) : String :=
  let downloadId := (Json.get "download_id" payload).getD .null
  if downloadId.truthy then "transcode_media:" ++ profileId ++ ":download:" ++ host.str downloadId
  else
    let sourcePaths := match Json.get "source_file_paths" payload with
      | some (.array (path :: paths)) => path :: paths
      | _ => [(Json.get "source_file_path" payload).getD .null]
    let keyParts := (sourcePaths.filter Json.truthy).map (fun path => (host.resolve (host.str path)).str)
      ++ [host.textOr (Json.get "target_file_path" payload) "",
        host.textOr (Json.get "item_uid" payload) ""]
    "transcode_media:" ++ profileId ++ ":file:" ++ host.sha1 ("|".intercalate keyParts)

def transcodeLockKey (host : Host) (profileId : String) (payload : Columns) : String :=
  "transcode_lock:" ++ host.sha1 (transcodeIdempotencyKey host profileId payload)

/-- `with _transcode_execution_lock(...)`. -/
def withTranscodeLock (host : Host) (profileId : String) (payload : Columns) (owner : String)
    (body : Handler α) : Handler α := do
  let key := transcodeLockKey host profileId payload
  perform (.acquireLock key owner)
  body.tryFinally (perform (.releaseLock key owner))

-- workers/media_fetch.py

def cachePath (host : Host) (download : Download) : Path :=
  let filename := (pathParts (host.textOr (some (download.get "file_path")) "media")).getLast?.getD ""
  ((host.cacheRoot.join (host.str (download.get "profile_id"))).join (toString download.id)).join
    (if filename = "" then "media" else filename)

/-- What `_download_from_api` does while the temporary file stands. -/
def receiveFromApi (download : Download) (destination temporary : Path) : Handler Unit := do
  let bytesWritten ← perform (.receiveMedia download temporary)
  let expectedSize ← ofExcept (Json.orElse (some (download.get "file_size_bytes")) (.int 0)).toInt
  if expectedSize ≠ 0 ∧ (bytesWritten : Int) ≠ expectedSize then
    raise (.other "Worker media size mismatch")
  else perform (.replace temporary destination)

def downloadFromApi (host : Host) (download : Download) (destination : Path) : Handler Path := do
  if strip host.apiToken = "" then
    raise (.other "Worker media is not mounted and GETOFFLINE_WORKER_API_TOKEN is unset")
  else
    perform (.mkdir destination.parent)
    let temporary ← perform (.makeTemporary destination)
    Program.tryCatch (receiveFromApi download destination temporary) fun error => do
      perform (.unlink temporary)
      raise error
    return destination

def ensureLocalMedia (host : Host) (download : Download) (path : Path) : Handler Path := do
  let node ← perform (.node path)
  if Node.isFile node then return host.real path
  else
    let cached := cachePath host download
    let node ← perform (.node cached)
    if Node.isFile node then return cached
    else downloadFromApi host download cached

end GetOffline
