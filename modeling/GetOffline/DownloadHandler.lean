import GetOffline.DownloadRequest
import GetOffline.Screening

set_option autoImplicit true

namespace GetOffline
open Python Effects Program

/-- `_is_expected_ytdlp_download_error`. -/
def isExpectedYtdlpDownloadError (exc : YtDlpException) : Bool :=
  (exc.typeName = "DownloadError" || exc.typeName = "ExtractorError") &&
    ["video unavailable", "has been removed", "removed by the uploader", "private video",
      "this video is unavailable", "this video is private", "this video has been deleted",
      "account associated with this video has been terminated"].any fun fragment =>
        textContains fragment (lower exc.message)

/-- `_download_request_from_payload`: the name of a YouTube channel is asked for when there is none. -/
def downloadRequest (host : Host) (payload : Columns) : Handler (Option (String × SourceType × String)) := do
  let url := requestedUrl host.render payload
  let sourceType := (parseJsonEnum SourceType (Json.get "source_type" payload)).getD .youtube
  let sourceName := strip (host.textOr (Json.get "source_name" payload) "")
  let resolved ←
    (if url ≠ "" ∧ sourceName = "" ∧ sourceType = .youtube then perform (.resolveSourceName url)
    else pure none)
  return downloadRequestFromPayload host.render (fun _ => resolved) payload

/-- A path that yt-dlp names counts when there is something under it, once. -/
def addDownloadedFile (host : Host) (files : List Path) (candidate : Json) : Handler (List Path) :=
  if candidate.truthy then
    match candidate with
    | .string text => do
      let node ← perform (.node (host.path text))
      return if node.isSome ∧ host.resolve text ∉ files then files ++ [host.resolve text] else files
    | _ => raise .typeError
  else return files

/-- The paths that the items of a list of streams name. -/
def requestedFiles (key : String) (info : Columns) : List Json :=
  match Json.get key info with
  | some (.array items) =>
    items.filterMap fun item =>
      match item with
      | .object stream =>
        some (Json.orElse (Json.get "filepath" stream) ((Json.get "filename" stream).getD .null))
      | _ => none
  | _ => []

/-- The paths that yt-dlp's answer names, in the order in which they are looked at. -/
def namedFiles (info : Columns) : List Json :=
  requestedFiles "requested_downloads" info ++ requestedFiles "requested_formats" info ++
    (match Json.get "__files_to_merge" info with
      | some (.array files) => files
      | _ => []) ++
    ["filepath", "_filename", "filename"].map fun key => (Json.get key info).getD .null

def findDownloadedFiles (host : Host) (info : Columns) : Handler (List Path) := do
  let files ← (namedFiles info).foldlM (addDownloadedFile host) []
  let prepared ← perform (.prepareFilename info)
  addDownloadedFile host files (.string prepared)

/-- `remember_finished_download`: the worker's copy of its job, and the files that are finished. -/
def rememberFinishedDownload (host : Host) (jobId : Nat) (payload : Columns) (url : String)
    (state : Job × List Path) (event : Columns) : Handler (Job × List Path) := do
  let infoDict := ((Json.get "info_dict" event).getD .null).dict
  match Json.get "status" event with
  | some (.string "downloading") =>
    let title := host.textOr (Json.get "title" infoDict) (host.textOr (Json.get "title" payload) url)
    let job ← touchActive jobId state.1 "downloading" (strip title)
    return (job, state.2)
  | some (.string "finished") =>
    let candidate := Json.orElse (Json.get "filename" event) ((Json.get "tmpfilename" event).getD .null)
    let files ← addDownloadedFile host state.2 candidate
    return (state.1, files)
  | _ => return state

/-- `items[:255]` of a text. -/
def cut255 (text : String) : String :=
  String.ofList (text.toList.take 255)

theorem cut255_cut255 (text : String) : cut255 (cut255 text) = cut255 text := by
  rw [cut255, cut255, String.toList_ofList, List.take_take, Nat.min_self]

theorem cut255_of_le {text : String} (h : text.length ≤ 255) : cut255 text = text := by
  rw [cut255, List.take_of_length_le (by rwa [String.length_toList]), String.ofList_toList]

/-- The columns by which a row is found. -/
def downloadLookup (profileId : String) (sourceType : SourceType) (sourceName itemUid : String) :
    Columns :=
  [("profile_id", .string profileId), ("source_type", .string (StrEnum.value sourceType)),
    ("source_name", .string sourceName), ("item_uid", .string itemUid)]

/-- `value or other` of dict values, null for none. -/
def firstOf (value other : Option Json) : Json :=
  Json.orElse value (other.getD .null)

/-- The columns of a downloaded file's row, save for the times. -/
def downloadDefaults (host : Host) (payload info : Columns) (url itemUid : String) (file : Path)
    (outputRoot : Path) (duration fileSize : Json) : Columns :=
  [("source_url", Json.orElse (Json.get "source_url" payload) (.string url)),
    ("item_id", .string (cut255 (host.textOr (Json.get "id" info) itemUid))),
    ("item_url", Json.orElse (Json.get "item_url" payload)
      (Json.orElse (Json.get "webpage_url" info) (.string url))),
    ("media_url", .string url),
    ("title", .string (host.textOr (some (firstOf (Json.get "title" payload) (Json.get "title" info)))
      file.stem)),
    ("description", (Json.get "description" info).getD .null),
    ("uploader", (Json.get "uploader" info).getD .null),
    ("channel", (Json.get "channel" info).getD .null),
    ("upload_date", .string (host.textOr (some (firstOf (Json.get "published" payload)
      (Json.get "upload_date" info))) "")),
    ("duration_seconds", duration), ("file_path", .string file.str),
    ("file_path_relative", relativeJson file outputRoot), ("file_ext", .string file.extension),
    ("file_size_bytes", fileSize), ("download_status", DownloadStatus.downloaded.json)]

def timeColumns (now : Instant) : Columns :=
  [("last_seen_at", timeJson now), ("completed_at", timeJson now)]

/-- `payload.get("media_type") or ...`, by the kind of source. -/
def downloadMediaKind (host : Host) (payload : Columns) (sourceType : SourceType) : String :=
  mediaTypeOr host payload (if sourceType = .podcast then "audio" else "video")

/-- The file name that a merged or converted video gets. -/
def videoTargetName (file : Path) (finalExt : String) : String :=
  String.ofList (file.stem.toList.splitOn '.' |> fun parts =>
    ['.'].intercalate (parts.take (1 + (parts.tail.takeWhile fun part => part.head? ≠ some 'f').length)))
    ++ "." ++ finalExt

def transcodePayload (payload : Columns) (sourceType : SourceType) (file : Path) (inputs : List Path)
    (targetFilePath outputRoot mediaKind itemUid : String) : Columns :=
  [("source_file_path", .string file.str),
    ("source_file_paths", .array (inputs.map fun path => .string path.str)),
    ("target_file_path", .string targetFilePath), ("output_root", .string outputRoot),
    ("media_type", .string mediaKind)] ++ subtitleItems payload ++
    [("source_type", .string (StrEnum.value sourceType)), ("recent_download", .bool true),
      ("delete_explicit_content", .bool (isTrue "delete_explicit_content" payload)),
      ("item_uid", .string itemUid)]

/-- What `_download_with_yt_dlp` returns: a row, the payload of a conversion, or neither. -/
inductive DownloadResult
  | skipped
  | row (download : Download)
  | conversion (payload : Columns)

/-- What is put down for the conversion of a file: a row at once for a video that is not to be looked
through, or what the row is to be made of. -/
def prepareConversion (payload lookup defaults times : Columns) (mediaKind : String) :
    Handler DownloadResult := do
  if mediaKind = "video" ∧ isTrue "delete_explicit_content" payload = false then
    let download ← perform (.updateOrCreateDownload lookup (defaults ++ times))
    return .conversion (Json.set "download_id" (.int download.id) payload)
  else
    return .conversion (Json.update [("download_lookup", .object lookup),
      ("download_defaults", .object defaults)] payload)

/-- What becomes of a file that need not be converted. -/
def keepDownloadedFile (host : Host) (profileId : String) (payload lookup defaults : Columns)
    (mediaKind : String) (file : Path) : Handler DownloadResult := do
  if mediaKind = "video" ∧ isTrue "delete_explicit_content" payload = true then
    match ← screenDeferredVideoBeforeInsert host profileId file lookup defaults payload with
    | some download => return .row download
    | none => return .skipped
  else
    let download ← perform (.updateOrCreateDownload lookup defaults)
    return .row download

/-- The file goes on to a conversion with the given payload, or is kept as it is. -/
def storeDownload (host : Host) (profileId : String) (payload lookup defaults times : Columns)
    (mediaKind : String) (file : Path) : Option Columns → Handler DownloadResult
  | some conversion => prepareConversion conversion lookup defaults times mediaKind
  | none => keepDownloadedFile host profileId payload lookup (defaults ++ times) mediaKind file

def downloadDuration (info : Columns) : Handler Json :=
  let duration := (Json.get "duration" info).getD .null
  if duration.truthy then do
    let seconds ← ofExcept duration.toInt
    return .int seconds
  else return .null

def downloadedSize (file : Path) : Handler Json := do
  let node ← perform (.node file)
  if node.isSome then
    let size ← fileSize file
    return .int size
  else return .null

/-- The files that `ffmpeg` is to read: several ones only for a video. -/
def ffmpegInputFiles (mediaKind : String) (file : Path) (files : List Path) : Handler (List Path) :=
  if mediaKind = "audio" then return [file]
  else do
    let missing ← missingPaths Option.isSome files
    let existing := files.filter fun path => path ∉ missing
    return if 1 < existing.length then existing else [file]

/-- What becomes of the files that yt-dlp has left, the first one apart. -/
def recordDownload (host : Host) (profileId : String) (payload info : Columns) (url : String)
    (sourceType : SourceType) (sourceName : String) (outputRoot outputDir file : Path)
    (files : List Path) : Handler DownloadResult := do
  let now ← perform .now
  let itemUid := cut255 (host.textOr (some (firstOf (Json.get "item_uid" payload) (Json.get "id" info)))
    url)
  let duration ← downloadDuration info
  let size ← downloadedSize file
  let lookup := downloadLookup profileId sourceType sourceName itemUid
  let defaults := downloadDefaults host payload info url itemUid file outputRoot duration size
  let mediaKind := downloadMediaKind host payload sourceType
  let inputs ← ffmpegInputFiles mediaKind file files
  let requirement ←
    downloadedMediaRequiresFfmpeg profileId mediaKind file.extension inputs.length
  let targetFilePath :=
    if mediaKind = "video" ∧ (1 < inputs.length ∨ lower file.extension ≠ requirement.targetExt) then
      (outputDir.join (videoTargetName file requirement.targetExt)).str
    else ""
  storeDownload host profileId payload lookup defaults (timeColumns now) mediaKind file <|
    if requirement.requiresFfmpeg then
      some (transcodePayload payload sourceType file inputs targetFilePath outputRoot.str mediaKind
        itemUid)
    else none

/-- What becomes of yt-dlp's answer. -/
def recordInfo (host : Host) (profileId : String) (payload : Columns) (url : String)
    (sourceType : SourceType) (sourceName : String) (outputRoot outputDir : Path)
    (finished : List Path) (info : Json) : Handler DownloadResult := do
  match Json.orElse (some info) (.object []) with
  | .object info =>
    let found ← findDownloadedFiles host info
    match found ++ finished.filter fun path => path ∉ found with
    | file :: files =>
      recordDownload host profileId payload info url sourceType sourceName outputRoot outputDir file
        (file :: files)
    | [] => return .skipped
  | _ => return .skipped

/-- `_download_with_yt_dlp`. -/
def downloadWithYtDlp (host : Host) (jobId : Nat) (job : Job) (payload : Columns) :
    Handler DownloadResult := do
  match ← downloadRequest host payload with
  | none => return .skipped
  | some (url, sourceType, sourceName) =>
    let outputRoot ← downloadOutputRoot host job.profileId
    let outputDir := outputRoot.join (host.sanitizeChannelName sourceName)
    perform (.mkdir outputDir)
    let events ← perform (.downloadEvents url)
    let (_, finished) ← events.foldlM (rememberFinishedDownload host jobId payload url) (job, [])
    match ← perform (.extractInfo url
      (outputDir.str ++ "/%(title).160B [%(id).48B].%(ext)s")) with
    | .error exc =>
      if isExpectedYtdlpDownloadError exc then return .skipped else raise (.other exc.message)
    | .ok info =>
      recordInfo host job.profileId payload url sourceType sourceName outputRoot outputDir finished info

def enqueueTranscodeJob (host : Host) (profileId : String) (payload : Columns) : Handler Unit :=
  createAndPublish {
    profileId
    jobType := "transcode_media"
    payload := some payload
    idempotencyKey := some (transcodeIdempotencyKey host profileId payload) }

/-- The job that comes after the download of a row. -/
def enqueueNextStage (host : Host) (job : Job) (payload : Columns) (downloadId : Json)
    (download : Download) : Handler Unit := do
  let requirement ← downloadRequiresFfmpeg host download payload
  if requirement.requiresFfmpeg then
    enqueueTranscodeJob host job.profileId <|
      [("download_id", downloadId), ("media_type", .string requirement.mediaKind)] ++
      subtitleItems payload ++
      [("source_type", download.get "source_type"), ("recent_download", .bool true),
        ("delete_explicit_content", .bool (isTrue "delete_explicit_content" payload))]
  else
    createAndPublish (transcriptArgs job.profileId payload (host.str downloadId) downloadId
      (download.get "source_type") requirement.mediaKind)

/-- `download_episode`, from the row on. -/
def continueDownload (host : Host) (job : Job) (payload : Columns) (downloadId : Json) :
    Handler Unit := do
  match ← perform (.downloadById downloadId job.profileId) with
  | some download => enqueueNextStage host job payload downloadId download
  | none => return ()

def downloadEpisode (host : Host) (jobId : Nat) (job : Job) : Handler Unit := do
  let payload := job.payload.dict
  let downloadId := (Json.get "download_id" payload).getD .null
  if downloadId.truthy then continueDownload host job payload downloadId
  else
    match ← downloadWithYtDlp host jobId job payload with
    | .skipped => return ()
    | .conversion conversion => enqueueTranscodeJob host job.profileId conversion
    | .row download => continueDownload host job payload (.int download.id)

end GetOffline
