import GetOffline.PythonGlob
import GetOffline.Transcripts

set_option autoImplicit true

namespace GetOffline
open Python

/-- The files, under their resolved paths, with the text that each is read as. -/
abbrev TextFiles := Table Path String

-- workers/subtitles.py

/-- `_SUBTITLE_SIDECAR_SUFFIXES`. -/
def subtitleSidecarSuffixes : List String :=
  [".srt", ".vtt", ".ass", ".ssa", ".lrc", ".ttml", ".srv1", ".srv2", ".srv3", ".json3"]

/-- The name is one beside the medium that begins with its stem and a dot. -/
def beside (media path : Path) : Bool :=
  path.parent = media.parent && (media.stem ++ ".").toList.isPrefixOf path.name.toList

/-- What `_cleanup_subtitle_sidecars` unlinks. -/
def isExtraSidecar (media keep path : Path) : Bool :=
  beside media path && fnmatch path.name (media.stem ++ "*.*") &&
    lower path.suffix ∈ subtitleSidecarSuffixes && path ≠ keep

/-- `create_subtitles`. Whisper writes a subtitle, unless it fails, if there is none yet. -/
def createSubtitles (media : Path) (enabled : Bool) (whisper : Option String) (files : TextFiles) :
    Option Path × TextFiles :=
  if enabled && (files.lookup media).isSome then
    match media.withSuffix ".srt" with
    | .error _ => (none, files)
    | .ok sidecar =>
      let cleaned (files : TextFiles) := files.delete fun path _ => isExtraSidecar media sidecar path
      match files.lookup sidecar, whisper with
      | some _, _ => (some sidecar, cleaned files)
      | none, some text => (some sidecar, cleaned (AList.insert sidecar text files))
      | none, none => (none, files)
  else (none, files)

-- workers/content_filter.py

/-- What `delete_media_artifacts` unlinks. -/
def isMediaArtifact (media path : Path) : Bool :=
  path = media || beside media path

def deleteMediaArtifacts (media : Path) (files : TextFiles) : TextFiles :=
  files.delete fun path _ => isMediaArtifact media path

-- workers/handlers.py

structure TranscriptStore where
  tables : LibraryTables
  files : TextFiles

/-- What the machine and the profile contribute to a job: `Path(text).expanduser().resolve()`,
`_cache_path`, and the profile's output root. -/
structure TranscriptPlace where
  resolve : String → Path
  cachePath : Nat → DownloadRow → Path
  outputRoot : Path

/-- What a job comes to hear: the subtitle that Whisper writes, unless it fails, what the screening finds,
and the time. -/
structure Heard where
  whisper : Option String
  screening : Except Error Bool
  completedAt : Instant
  lastSeenAt : Instant

/-- `ensure_local_media`. What it fetches has arrived before. -/
def ensureLocalMediaFile (candidate cached : Path) (files : TextFiles) : Except Error Path :=
  if (files.lookup candidate).isSome then .ok candidate
  else if (files.lookup cached).isSome then .ok cached
  else .error (.other "FileNotFoundError")

/-- A `generate_transcript` job of a row, with what its payload or the row's source says about subtitles
and about screening. -/
structure RowTranscript where
  profileId : String
  downloadId : Nat
  enabled : Bool
  deleteExplicitContent : Bool

/-- A job that screens a converted video: the rows that `deferred_download_lookup` meets, the row that it
makes with `deferred_download_defaults` and what these change in a row, and `ffmpeg_source_file_paths`. -/
structure DeferredVideo where
  media : Path
  lookup : Nat → DownloadRow → Bool
  newRow : DownloadRow
  defaults : DownloadRow → DownloadRow
  sources : List Path

def DownloadRow.markFiltered (now : Instant) (row : DownloadRow) : DownloadRow :=
  { row with downloadStatus := StrEnum.value DownloadStatus.filtered, lastSeenAt := now }

/-- What `filtered_defaults` adds to the defaults. -/
def DownloadRow.filteredVideo (heard : Heard) (row : DownloadRow) : DownloadRow :=
  { row with
    filePath := none, filePathRelative := none, subtitlePath := none, subtitlePathRelative := none
    downloadStatus := StrEnum.value DownloadStatus.filtered
    completedAt := some heard.completedAt, lastSeenAt := heard.lastSeenAt }

def DownloadRow.withSubtitle (path outputRoot : Path) (row : DownloadRow) : DownloadRow :=
  { row with subtitlePath := some path.str, subtitlePathRelative := path.relativeTo outputRoot }

namespace TranscriptStore

def updateRow (downloadId : Nat) (f : DownloadRow → DownloadRow) (tables : LibraryTables) :
    LibraryTables :=
  { tables with downloads := tables.downloads.update (fun id _ => id == downloadId) f }

/-- `generate_transcript` of a row. The database carries out what it is told. -/
def generateTranscript (place : TranscriptPlace) (job : RowTranscript) (heard : Heard)
    (s : TranscriptStore) : Except Error TranscriptStore :=
  match s.tables.ownDownload job.profileId job.downloadId with
  | none => .ok s
  | some row => do
    let media ← ensureLocalMediaFile (place.resolve (orEmptyText row.filePath))
      (place.cachePath job.downloadId row) s.files
    let filtered (tables : LibraryTables) :=
      updateRow job.downloadId (DownloadRow.markFiltered heard.lastSeenAt) tables
    match createSubtitles media job.enabled heard.whisper s.files with
    | (some subtitle, files) =>
      let tables := s.tables.storeTranscript job.downloadId subtitle place.outputRoot (files.lookup subtitle)
      -- A screening that raises is logged and finds nothing.
      if job.deleteExplicitContent && heard.screening.toOption.getD false then
        return {
          tables := filtered { tables with segments := deleteSegments job.downloadId tables.segments }
          files := deleteMediaArtifacts media files }
      else return { tables, files }
    | (none, files) =>
      if job.deleteExplicitContent then
        return { tables := filtered s.tables, files := deleteMediaArtifacts media files }
      else return { s with files }

/-- `_screen_deferred_video_before_insert`. -/
def screenDeferredVideoBeforeInsert (place : TranscriptPlace) (video : DeferredVideo) (heard : Heard)
    (s : TranscriptStore) : Except Error TranscriptStore :=
  match createSubtitles video.media true heard.whisper s.files with
  | (none, files) => .ok { s with files := deleteMediaArtifacts video.media files }
  | (some subtitle, files) =>
    match heard.screening with
    | .error _ => .ok { s with files := deleteMediaArtifacts video.media files }
    | .ok true => do
      let (_, downloads) ← updateOrCreateRow video.lookup (video.newRow.filteredVideo heard)
        (DownloadRow.filteredVideo heard ∘ video.defaults) s.tables.downloads
      return {
        tables := { s.tables with downloads }
        files := deleteMediaArtifacts video.media files }
    | .ok false => do
      let (id, downloads) ← updateOrCreateRow video.lookup (video.newRow.withSubtitle subtitle place.outputRoot)
        (DownloadRow.withSubtitle subtitle place.outputRoot ∘ video.defaults) s.tables.downloads
      return {
        tables := { s.tables with
          downloads
          segments := createSegments id subtitle.str
            (loadSegmentsFromSubtitle subtitle (files.lookup subtitle)) s.tables.segments }
        files }

/-- `_generate_deferred_transcript_screening`: in the end the sources of the conversion are unlinked. -/
def generateDeferredTranscriptScreening (place : TranscriptPlace) (video : DeferredVideo) (heard : Heard)
    (s : TranscriptStore) : Except Error TranscriptStore := do
  let s ← s.screenDeferredVideoBeforeInsert place video heard
  return { s with files := s.files.delete fun path _ => path ∈ video.sources && path ≠ video.media }

end TranscriptStore

end GetOffline
