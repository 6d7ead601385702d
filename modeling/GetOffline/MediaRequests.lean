import GetOffline.EpisodeChecks

set_option autoImplicit true

namespace GetOffline
open Python Effects Program

-- api/services/dashboard_actions.py

/-- `first or second or third` of three columns. -/
def firstColumn (download : Download) (first second third : String) : Json :=
  Json.orElse (some (download.get first)) (Json.orElse (some (download.get second)) (download.get third))

/-- The job that downloads the media of a row again. -/
def redownloadArgs (host : Host) (profileId : String) (download : Download) : JobArgs where
  profileId := profileId
  jobType := "download_single"
  payload := some [("source", .string "django_app"),
    ("url", firstColumn download "item_url" "media_url" "source_url"),
    ("source_type", download.get "source_type"), ("source_name", download.get "source_name"),
    ("item_uid", download.get "item_uid"), ("item_id", download.get "item_id"),
    ("title", download.get "title"),
    ("media_type", .string
      (if host.str (download.get "source_type") = "podcast" then "audio" else "video")),
    ("subtitles", .bool true), ("redownload", .bool true)]
  idempotencyKey := some ("download_single:" ++ profileId ++ ":" ++ toString download.id)

/-- `batch_update` with the action `download`. -/
def batchDownload (host : Host) (profileId : String) (ids : List Nat) : Handler Unit := do
  let rows ← perform (.selectDownloads ids profileId)
  rows.foldlM (fun _ row => createAndPublish (redownloadArgs host profileId row)) ()

def videoUploadExtensions : List String :=
  [".mp4", ".mkv", ".webm", ".mov"]

def documentUploadExtensions : List String :=
  [".pdf"]

def mediaUploadExtensions : List String :=
  [".mp3", ".m4a", ".wav", ".flac", ".aac", ".ogg"] ++ videoUploadExtensions ++
    documentUploadExtensions

/-- The columns of an uploaded file's row. -/
def uploadColumns (originalName itemUid : String) (path outputRoot : Path) (size : Nat)
    (now : Instant) : Columns :=
  [("source_type", .string "manual"), ("source_name", .string "Manual Uploads"), ("source_url", .null),
    ("item_id", .string itemUid), ("item_url", .null), ("media_url", .null),
    ("title", .string originalName), ("description", .string "Imported via browser drag-and-drop"),
    ("uploader", .string "local"), ("channel", .string "Manual Uploads"),
    ("upload_date", .string (Date.ofInstant now).isoformat), ("duration_seconds", .null),
    ("file_path", .string path.str), ("file_path_relative", relativeJson path outputRoot),
    ("file_ext", .string path.extension), ("file_size_bytes", .int size), ("subtitle_path", .null),
    ("subtitle_path_relative", .null), ("download_status", DownloadStatus.downloaded.json),
    ("profanity_status", .string "clean"), ("is_censored", .bool false), ("censored_segments", .array []),
    ("raw_metadata_json", .string "\x7b\"ingest_method\":\"drag-and-drop\"\x7d"),
    ("last_seen_at", timeJson now), ("completed_at", timeJson now)]

def profileOutputRoot (host : Host) (profileId : String) : Handler Path := do
  let own ← perform (.profileSetting profileId "output_root")
  let shared ← perform (.appSetting "output_root")
  let text := ((own.filter fun text => text ≠ "").or (shared.filter fun text => text ≠ "")).getD
    "./downloads/default"
  return host.absolute text

/-- `_write_manual_upload`: the row and the path of the file. -/
def writeManualUpload (host : Host) (profileId name : String) : Handler (Download × Path) := do
  let originalName := (pathParts name).getLast?.getD ""
  let suffix := lower (Path.parse originalName).suffix
  if originalName = "" ∨ suffix ∉ mediaUploadExtensions then raise .valueError
  else
    let outputRoot ← profileOutputRoot host profileId
    let destinationRoot := outputRoot.join "manual"
    perform (.mkdir destinationRoot)
    let (path, digest, size) ← perform (.storeUpload destinationRoot
      (host.normalizeUploadStem (Path.parse originalName).stem) suffix)
    if size = 0 then
      perform (.unlink path)
      raise .valueError
    else
      let now ← perform .now
      let itemUid := "manual-" ++ digest ++ "-" ++ toString size
      let download ← Program.tryCatch
        (perform (.updateOrCreateDownload
          [("profile_id", .string profileId), ("item_uid", .string itemUid)]
          (uploadColumns originalName itemUid path outputRoot size now)))
        fun error => do
          perform (.unlink path)
          raise error
      return (download, path)

/-- The job that reads an uploaded document. -/
def ocrArgs (profileId : String) (id : Nat) : JobArgs where
  profileId := profileId
  jobType := "generate_ocr"
  payload := some [("download_id", .int id), ("source_type", .string "manual"),
    ("media_type", .string "document"), ("manual_upload", .bool true)]
  idempotencyKey := some ("generate_ocr:" ++ profileId ++ ":" ++ toString id)

/-- The transcript job of an uploaded audio or video file. -/
def uploadTranscriptArgs (profileId : String) (id : Nat) (mediaType : String) : JobArgs where
  profileId := profileId
  jobType := "generate_transcript"
  payload := some [("download_id", .int id), ("subtitles", .bool true),
    ("source_type", .string "manual"), ("media_type", .string mediaType),
    ("recent_download", .bool true), ("manual_upload", .bool true)]
  idempotencyKey := some ("generate_transcript:" ++ profileId ++ ":" ++ toString id)

def uploadFile (host : Host) (profileId name : String) : Handler Unit := do
  let (download, path) ← writeManualUpload host profileId name
  if lower path.suffix ∈ documentUploadExtensions then
    createAndPublish (ocrArgs profileId download.id)
  else
    createAndPublish (uploadTranscriptArgs profileId download.id
      (if lower path.suffix ∈ videoUploadExtensions then "video" else "audio"))

/-- `manual_upload`: a file that is rejected does not stop the next one. -/
def manualUpload (host : Host) (profileId : String) (names : List String) : Handler Unit :=
  names.foldlM (fun _ name => (uploadFile host profileId name).tryCatch fun error =>
    if error = .valueError then return () else raise error) ()

/-- `manual_upload_delete_explicit_content` as the settings page shows it. -/
def Library.manualUploadFilter (profileId : String) (s : Library) : Bool :=
  let key := "manual_upload_delete_explicit_content"
  let value := ((s.settings.lookup (profileId, key)).or (s.appSettings.lookup key)).getD "0"
  lower (strip value) ∈ ["1", "true", "yes", "on"]

end GetOffline
