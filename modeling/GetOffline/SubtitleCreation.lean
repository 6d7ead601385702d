import GetOffline.Interruptible
import GetOffline.Listings
import GetOffline.Sidecars
import GetOffline.WhisperSubtitles

set_option autoImplicit true

namespace GetOffline
open Python Interruptible Interruptible.Comp

/-- The machine: its links, what cannot be unlinked, and what is heard in a media file of the content. -/
structure SubtitleHost extends SidecarHost where
  hear : String → List WhisperSegment

/-- The files, the process's `_TRANSCRIPTION_CACHE`, and the media for which its log says that subtitles are
being generated. -/
structure SubtitleWorld where
  files : MediaFolder
  cache : Table (Path × Instant) (List WhisperSegment)
  generating : List Path

abbrev SubtitleCall := Comp SubtitleWorld Error

/-- How something that a call asks of the machine goes: it succeeds, raises, or the process ends. -/
inductive Fate
  | returns
  | raises (error : Error)
  | dies

def Fate.run : Fate → SubtitleCall Unit
  | .returns => pure ()
  | .raises error => halt (.raised error)
  | .dies => halt .died

/-- How the writing of a text goes. Unless it succeeds, only the first characters have reached the file, if it has
been opened. -/
structure WriteFate where
  fate : Fate
  written : Option Nat

/-- What the machine contributes to a call of `create_subtitles`: the time, how each of its parts goes, and which
files its cleanup does not reach or cannot unlink. -/
structure CallFates where
  now : Instant
  checks : Fate
  transcription : Fate
  marker : WriteFate
  subtitle : WriteFate
  unmark : Fate
  readBack : Fate
  shift : WriteFate
  cleanup : Fate
  spared : Path → Bool

namespace SubtitleWorld

def store (path : Path) (file : StoredFile) (w : SubtitleWorld) : SubtitleWorld :=
  { w with files := AList.insert path file w.files }

/-- What a writing that is cut off has done. -/
def writePart (path : Path) (text : String) (now : Instant) : Option Nat → SubtitleCall Unit
  | some count => change (store path ⟨String.ofList (text.toList.take count), now⟩)
  | none => pure ()

def writeText (path : Path) (text : String) (now : Instant) (write : WriteFate) : SubtitleCall Unit :=
  match write.fate with
  | .returns => change (store path ⟨text, now⟩)
  | fate => do
    writePart path text now write.written
    fate.run

/-- `path.stat().st_mtime`. -/
def mtime (path : Path) (w : SubtitleWorld) : Except Error Instant :=
  match w.files.lookup path with
  | some file => .ok file.mtime
  | none => .error (.other "FileNotFoundError")

/-- `path.exists() and path.stat().st_mtime >= input_file.stat().st_mtime`. -/
def upToDate (path inputFile : Path) (w : SubtitleWorld) : Except Error Bool :=
  if (w.files.lookup path).isSome then do
    let written ← w.mtime path
    let changed ← w.mtime inputFile
    return changed ≤ written
  else return false

/-- `_cleanup_subtitle_sidecars`, as far as it comes. -/
def cleanup (host : SubtitleHost) (mediaFile keepSubtitle : Path) (fates : CallFates) : SubtitleCall Unit := do
  let w ← look
  let files ← Comp.ofExcept (w.files.cleanupSubtitleSidecars
    { host.toSidecarHost with denied := fun path => host.denied path || fates.spared path } mediaFile keepSubtitle)
  change fun w => { w with files }
  fates.cleanup.run

-- workers/transcription.py

/-- `transcribe_with_whisper`. A media path is resolved, and the model and the language are always the same. -/
def transcribeWithWhisper (host : SubtitleHost) (inputFile : Path) (fates : CallFates) :
    SubtitleCall (List WhisperSegment) := do
  let w ← look
  match w.files.lookup inputFile with
  | none => halt (.raised (.other "FileNotFoundError"))
  | some media =>
    match w.cache.lookup (inputFile, media.mtime) with
    | some segments => return segments
    | none =>
      fates.transcription.run
      let segments := host.hear media.content
      change fun w => { w with cache := AList.insert (inputFile, media.mtime) segments w.cache }
      return segments

-- workers/subtitles.py

/-- `_KNOWN_EMPTY_AUDIO_FAILURE_PATTERNS`. -/
def knownEmptyAudioFailurePatterns : List String :=
  ["cannot reshape tensor of 0 elements", "Output file does not contain any stream",
    "Stream map 'a' matches no streams", "No decodable audio stream found in media file"]

/-- The text of the `TranscriptionError` for what has been raised. -/
def transcriptionErrorText (inputFile : Path) : Error → String
  | .other message => "Transcription failed for " ++ inputFile.name ++ " (base): " ++ message
  | _ => "Transcription failed for " ++ inputFile.name ++ " (base): "

def isKnownFailure (inputFile : Path) (error : Error) : Bool :=
  knownEmptyAudioFailurePatterns.any fun pattern => isIn pattern (transcriptionErrorText inputFile error)

/-- The segments, or nothing after a failure that is known and has been marked. -/
def hearOrMark (host : SubtitleHost) (inputFile failedMarkerPath : Path) (fates : CallFates) :
    SubtitleCall (Option (List WhisperSegment)) :=
  (do
    let segments ← transcribeWithWhisper host inputFile fates
    return some segments).tryCatch fun error =>
      if isKnownFailure inputFile error then do
        writeText failedMarkerPath ("Known Whisper empty-audio failure for " ++ inputFile.name ++ "\n" ++
          transcriptionErrorText inputFile error ++ "\n") fates.now fates.marker
        return none
      else halt (.raised error)

def shiftSubtitle (subtitlePath : Path) (offsetSeconds : ℚ) (fates : CallFates) : SubtitleCall Unit :=
  if |offsetSeconds| < 1 / 1000000 then pure ()
  else do
    fates.readBack.run
    let w ← look
    match w.files.lookup subtitlePath with
    | none => halt (.raised (.other "FileNotFoundError"))
    | some file =>
      let shifted ← Comp.ofExcept (shiftSrtTimestamps offsetSeconds file.content)
      writeText subtitlePath shifted fates.now fates.shift

/-- `if failed_marker_path.exists(): failed_marker_path.unlink()`. -/
def removeMarker (failedMarkerPath : Path) (fates : CallFates) : SubtitleCall Unit := do
  let w ← look
  if (w.files.lookup failedMarkerPath).isSome then do
    fates.unmark.run
    change fun w => { w with files := AList.erase failedMarkerPath w.files }
  else pure ()

/-- From the opening of the subtitle to the end of its shift. -/
def writeSubtitle (subtitlePath failedMarkerPath : Path) (segments : List WhisperSegment) (offsetSeconds : ℚ)
    (fates : CallFates) : SubtitleCall Unit := do
  writeText subtitlePath (writeSegments segments) fates.now fates.subtitle
  let w ← look
  if (w.files.lookup subtitlePath).isNone then halt (.raised (.other "RuntimeError"))
  else do
    removeMarker failedMarkerPath fates
    shiftSubtitle subtitlePath offsetSeconds fates

/-- `generate_whisper_subtitles` beside the media file. -/
def generate (host : SubtitleHost) (inputFile subtitlePath : Path) (offsetSeconds : ℚ) (fates : CallFates) :
    SubtitleCall (Option Path) := do
  let failedMarkerPath ← Comp.ofExcept (subtitlePath.withSuffix (subtitlePath.suffix ++ ".failed"))
  let w ← look
  if ← Comp.ofExcept (w.upToDate subtitlePath inputFile) then return some subtitlePath
  else if ← Comp.ofExcept (w.upToDate failedMarkerPath inputFile) then return none
  else do
    change fun w => { w with generating := w.generating ++ [inputFile] }
    match ← hearOrMark host inputFile failedMarkerPath fates with
    | none => return none
    | some segments => do
      writeSubtitle subtitlePath failedMarkerPath segments offsetSeconds fates
      cleanup host inputFile subtitlePath fates
      return some subtitlePath

/-- `_find_existing_whisper_subtitle`, of the path that it looks at. -/
def findExisting (host : SubtitleHost) (mediaFile subtitlePath : Path) (fates : CallFates) :
    SubtitleCall (Option Path) := do
  let w ← look
  if (w.files.lookup subtitlePath).isSome then do
    cleanup host mediaFile subtitlePath fates
    return some subtitlePath
  else return none

/-- `create_subtitles`. -/
def createSubtitles (host : SubtitleHost) (mediaFile : Path) (subtitleOffsetSeconds : Option ℚ)
    (entrySubtitlesEnabled : Bool) (fates : CallFates) : SubtitleCall (Option Path) := do
  let w ← look
  if entrySubtitlesEnabled = true ∧ (w.files.lookup mediaFile).isSome then
    (do
      fates.checks.run
      let subtitlePath ← Comp.ofExcept (mediaFile.withSuffix ".srt")
      match ← findExisting host mediaFile subtitlePath fates with
      | some path => return some path
      | none => generate host mediaFile subtitlePath (subtitleOffsetSeconds.getD 0) fates).tryCatch
        fun _ => return none
  else return none

end SubtitleWorld
end GetOffline
