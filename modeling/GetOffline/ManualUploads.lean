import GetOffline.ChannelNames
import GetOffline.LibraryRows
import GetOffline.MediaRequests

set_option autoImplicit true

namespace GetOffline
open Python

-- api/services/dashboard_actions.py: manual uploads chunk by chunk, with all that may fail

/-- The class `[A-Za-z0-9._ -]`. -/
def isStemChar (c : Char) : Bool :=
  c.isAlphanum || c ∈ ['.', '_', ' ', '-']

/-- `re.sub(r"[^A-Za-z0-9._ -]+", "-", value)`; the flag tells that the run has been replaced. -/
def replaceRuns : Bool → List Char → List Char
  | _, [] => []
  | replaced, c :: cs =>
    if isStemChar c then c :: replaceRuns false cs
    else if replaced then replaceRuns true cs
    else '-' :: replaceRuns true cs

def normalizeUploadStem (value : String) : String :=
  let normalized := (collapseDots value.toList).rdropWhile fun c => c ∈ ['.', ' ']
  let stem := stripOf ['.', ' ', '-'] (replaceRuns false normalized)
  if stem = [] then "manual-upload" else String.ofList stem

/-- The columns of a `downloads` row that an upload writes. -/
structure UploadRow extends DownloadRow where
  sourceUrl : Option String := none
  itemUid : Option String
  itemId : Option String := none
  itemUrl : Option String := none
  mediaUrl : Option String := none
  uploader : Option String := none
  channel : Option String := none
  uploadDate : Option String := none
  fileSizeBytes : Option Int := none
  profanityStatus : String := "clean"
  isCensored : Bool := false
  censoredSegments : Json := .array []
  rawMetadataJson : Option String := none

/-- The errors of an upload: those that the view reports, and those that leave it. -/
inductive UploadError
  | valueError (text : String)
  | raised (error : Error)

/-- What a turn of the loop over `uploaded_file.chunks()` comes to. A failed write may have left some
bytes. -/
inductive ChunkEvent
  | chunk (bytes : List UInt8)
  | chunksRaise (error : UploadError)
  | writeRaises (written : List UInt8) (error : UploadError)

/-- How `update_or_create` ends: as it should, or with an exception, which may come after the commit. -/
inductive RowSaving
  | done
  | failed (error : UploadError) (committed : Bool)

/-- An uploaded file and what happens around it. -/
structure Upload where
  name : String
  /-- The query for the output root, `mkdir` and `open`. -/
  opened : Except UploadError Unit
  chunks : List ChunkEvent
  now : Instant
  saving : RowSaving
  /-- `create_job` and `publish_job`: the id of the job. -/
  enqueued : Except UploadError Nat

/-- What all the uploads of a profile share. -/
structure UploadPlace where
  profileId : String
  outputRoot : Path
  sha1 : List UInt8 → String

structure UploadStore where
  downloads : AutoTable UploadRow
  files : Table Path (List UInt8)

def UploadPlace.manualRoot (place : UploadPlace) : Path :=
  place.outputRoot.join "manual"

/-- The names that the file may get, in the order in which they are tried. -/
def UploadPlace.candidate (stem suffix : String) (counter : Nat) (place : UploadPlace) : Path :=
  place.manualRoot.join (stem ++ (if counter = 0 then "" else "-" ++ toString counter) ++ suffix)

/-- The first candidate that does not exist; one name more than there are files is enough. -/
def UploadPlace.destination (stem suffix : String) (files : Table Path (List UInt8))
    (place : UploadPlace) : Path :=
  (uploadPath (fun path => (files.lookup path).isSome) place.manualRoot stem suffix
    (files.keys.length + 1) 0).getD place.manualRoot

/-- What the loop over the chunks keeps. -/
structure Writing where
  file : List UInt8 := []
  hashed : List UInt8 := []
  bytesWritten : Nat := 0

def writeChunks : List ChunkEvent → Writing → Writing × Option UploadError
  | [], writing => (writing, none)
  | .chunk [] :: events, writing => writeChunks events writing
  | .chunk bytes :: events, writing =>
    writeChunks events {
      file := writing.file ++ bytes
      hashed := writing.hashed ++ bytes
      bytesWritten := writing.bytesWritten + bytes.length }
  | .chunksRaise error :: _, writing => (writing, some error)
  | .writeRaises written error :: _, writing =>
    ({ writing with file := writing.file ++ written }, some error)

def manualItemUid (place : UploadPlace) (hashed : List UInt8) (bytesWritten : Nat) : String :=
  "manual-" ++ place.sha1 hashed ++ "-" ++ toString bytesWritten

/-- The `defaults` of `update_or_create`. -/
def UploadRow.uploaded (place : UploadPlace) (now : Instant) (originalName suffix itemUid : String)
    (destination : Path) (bytesWritten : Nat) (row : UploadRow) : UploadRow :=
  { row with
    sourceType := "manual"
    sourceName := "Manual Uploads"
    sourceUrl := none
    itemId := some itemUid
    itemUrl := none
    mediaUrl := none
    title := some originalName
    description := some "Imported via browser drag-and-drop"
    uploader := some "local"
    channel := some "Manual Uploads"
    uploadDate := some (Date.ofInstant now).isoformat
    durationSeconds := none
    filePath := some destination.str
    filePathRelative := destination.relativeTo place.outputRoot
    fileExt := some (String.ofList (suffix.toList.dropWhile fun c => c = '.'))
    fileSizeBytes := some bytesWritten
    subtitlePath := none
    subtitlePathRelative := none
    downloadStatus := "downloaded"
    profanityStatus := "clean"
    isCensored := false
    censoredSegments := .array []
    rawMetadataJson := some "\x7b\"ingest_method\":\"drag-and-drop\"\x7d"
    lastSeenAt := now
    completedAt := some now }

/-- The `UPDATE` or `INSERT` of the row, which the outcome may come before or after. -/
def saveUpload (saving : RowSaving) (lookup : Nat → UploadRow → Bool) (new : UploadRow)
    (update : UploadRow → UploadRow) (downloads : AutoTable UploadRow) :
    AutoTable UploadRow × Except UploadError Nat :=
  match saving with
  | .failed error false => (downloads, .error error)
  | saving =>
    match updateOrCreateRow lookup new update downloads, saving with
    | .error error, _ => (downloads, .error (.raised error))
    | .ok (_, downloads), .failed error _ => (downloads, .error error)
    | .ok (id, downloads), .done => (downloads, .ok id)

def UploadRow.isUpload (profileId itemUid : String) (_ : Nat) (row : UploadRow) : Bool :=
  row.profileId = profileId && row.itemUid = some itemUid

/-- `_write_manual_upload`: the id of the row and the path of the file. -/
def UploadPlace.writeManualUpload (place : UploadPlace) (upload : Upload) (s : UploadStore) :
    UploadStore × Except UploadError (Nat × Path) :=
  let originalName := (Path.parse upload.name).name
  let suffix := lower (Path.parse originalName).suffix
  if originalName = "" then (s, .error (.valueError "Missing filename"))
  else if suffix ∉ mediaUploadExtensions then (s, .error (.valueError "Unsupported media type"))
  else
    match upload.opened with
    | .error error => (s, .error error)
    | .ok () =>
      let stem := normalizeUploadStem (Path.parse originalName).stem
      let destination := place.destination stem suffix s.files
      match writeChunks upload.chunks {} with
      | (writing, some error) =>
        ({ s with files := AList.insert destination writing.file s.files }, .error error)
      | (writing, none) =>
        let files := AList.insert destination writing.file s.files
        if writing.bytesWritten = 0 then
          ({ s with files := AList.erase destination files }, .error (.valueError "Empty file payload"))
        else
          let itemUid := manualItemUid place writing.hashed writing.bytesWritten
          let update := UploadRow.uploaded place upload.now originalName suffix itemUid destination
            writing.bytesWritten
          let new : UploadRow := {
            profileId := place.profileId, itemUid := some itemUid, sourceType := "manual"
            sourceName := "Manual Uploads", firstSeenAt := upload.now, lastSeenAt := upload.now }
          match saveUpload upload.saving (UploadRow.isUpload place.profileId itemUid) (update new) update
              s.downloads with
          | (downloads, .ok id) => ({ downloads, files }, .ok (id, destination))
          | (downloads, .error (.raised .databaseError)) =>
            ({ downloads, files := AList.erase destination files }, .error (.raised .databaseError))
          | (downloads, .error error) => ({ downloads, files }, .error error)

/-- The job that follows an upload. -/
def uploadJob (profileId : String) (downloadId : Nat) (path : Path) : JobArgs :=
  if lower path.suffix ∈ documentUploadExtensions then ocrArgs profileId downloadId
  else
    uploadTranscriptArgs profileId downloadId
      (if lower path.suffix ∈ videoUploadExtensions then "video" else "audio")

/-- An entry of `created`, with the job that was asked for. -/
structure CreatedUpload where
  id : Nat
  title : String
  jobId : Nat
  job : JobArgs

/-- A turn of the loop of `manual_upload`. -/
def UploadPlace.uploadFile (place : UploadPlace) (upload : Upload) (s : UploadStore) :
    UploadStore × Except UploadError CreatedUpload :=
  match place.writeManualUpload upload s with
  | (s, .error error) => (s, .error error)
  | (s, .ok (id, path)) =>
    match upload.enqueued with
    | .error error => (s, .error error)
    | .ok jobId =>
      (s, .ok {
        id, jobId
        title := (Path.parse upload.name).name
        job := uploadJob place.profileId id path })

/-- What `manual_upload` answers: the status, `uploads` and `errors`, or the exception that leaves it. -/
abbrev UploadAnswer := Except Error (Nat × List CreatedUpload × List (String × String))

def UploadPlace.uploadFiles (place : UploadPlace) : List Upload → List CreatedUpload → List (String × String) →
    UploadStore → UploadStore × UploadAnswer
  | [], created, errors, s => (s, .ok (if created = [] then 400 else 201, created, errors))
  | upload :: uploads, created, errors, s =>
    match place.uploadFile upload s with
    | (s, .ok entry) => place.uploadFiles uploads (created ++ [entry]) errors s
    | (s, .error (.valueError text)) =>
      place.uploadFiles uploads created (errors ++ [(upload.name, text)]) s
    | (s, .error (.raised error)) => (s, .error error)

/-- `manual_upload`. Without files the answer is an error too. -/
def UploadPlace.manualUpload (place : UploadPlace) (uploads : List Upload) (s : UploadStore) :
    UploadStore × UploadAnswer :=
  if uploads = [] then (s, .ok (400, [], [("", "No files uploaded.")]))
  else place.uploadFiles uploads [] [] s

example : normalizeUploadStem "..My  Song: (live)... " = "My  Song- -live" := by decide +kernel

end GetOffline
