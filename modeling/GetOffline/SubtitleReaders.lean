import GetOffline.WhisperSubtitles

set_option autoImplicit true

namespace GetOffline
open Python

-- api/streaming/media.py

/-- `f"{time}.{ms}"`, of a time that the pattern has matched. -/
def vttTimestamp (raw : List Char) : List Char :=
  raw.take 8 ++ '.' :: raw.drop 9

/-- A turn of the loop of `srt_to_vtt`. Its pattern is `timestamp_re` with more groups. -/
def vttLine (line : List Char) : Option (List Char) :=
  match timestampMatch line with
  | some (start, finish, tail) =>
    some (vttTimestamp start ++ " --> ".toList ++ vttTimestamp finish ++ tail)
  | none => if isDigit (strip (String.ofList line)) then none else some line

def byteOrderMark : Char := Char.ofNat 0xFEFF

def srtToVtt (content : String) : String :=
  let lines := splitlines (content.toList.filter fun c => c ≠ byteOrderMark)
  let outLines := "WEBVTT".toList :: [] :: lines.filterMap vttLine
  String.ofList (stripChars (['\n'].intercalate outLines) ++ ['\n'])

-- workers/content_filter.py

/-- The rest after `\d{2}:\d{2}:\d{2}[,.]\d{3}`. -/
def skipTimestamp : List Char → Option (List Char)
  | h :: h' :: ':' :: m :: m' :: ':' :: s :: s' :: point :: a :: b :: c :: rest =>
    if (point = ',' || point = '.') &&
        [h, h', m, m', s, s', a, b, c].all fun c => (decimalValue c).isSome then some rest
    else none
  | _ => none

/-- `_SRT_METADATA_RE.match`. -/
def isMetadata (line : List Char) : Bool :=
  (!line.isEmpty && line.all fun c => (decimalValue c).isSome) ||
    (do
      let rest ← skipSpaces (← skipTimestamp line)
      skipTimestamp (← skipSpaces (← skipArrow rest))).isSome

/-- The `spoken_lines` of `transcript_text`. -/
def spokenLines (text : String) : List (List Char) :=
  ((splitlines text.toList).map stripChars).filter fun line => !line.isEmpty && !isMetadata line

def transcriptText (text : String) : String :=
  String.ofList ([' '].intercalate (spokenLines text))

/-- A cue of a file that the writer has made. -/
structure SrtCue where
  index : Nat
  start : Nat
  finish : Nat
  text : List Char
deriving DecidableEq

namespace SrtCue

def times (cue : SrtCue) : CueTimes where
  start := cue.start
  finish := cue.finish
  tail := []

def caption (cue : SrtCue) : Caption where
  index := (toString cue.index).toList
  times := cue.times.line
  text := cue.text

/-- The hours of both times have two digits. -/
def Short (cue : SrtCue) : Prop :=
  cue.start < 360000000 ∧ cue.finish < 360000000

instance (cue : SrtCue) : Decidable cue.Short :=
  inferInstanceAs (Decidable (_ ∧ _))

/-- A cue after a shift. A text that is a line of times is taken for one. -/
def shift (offset : ℚ) (cue : SrtCue) : SrtCue :=
  let times := if cue.Short then cue.times.shift offset else cue.times
  { cue with start := times.start, finish := times.finish, text := shiftedLine offset cue.text }

end SrtCue

def cueOf (index : Nat) (segment : WhisperSegment) : Option SrtCue :=
  if strip segment.text = "" then none
  else some {
    index
    start := segment.times.start
    finish := segment.times.finish
    text := (strip segment.text).toList }

def spokenCues (segments : List WhisperSegment) : List SrtCue :=
  (segments.zipIdx 1).filterMap fun e => cueOf e.2 e.1

/-- The cues of the file of `generate_whisper_subtitles`. -/
def writtenCues (segments : List WhisperSegment) (offset : ℚ) : List SrtCue :=
  if |offset| < 1 / 1000000 then spokenCues segments
  else (spokenCues segments).map (SrtCue.shift offset)

/-- A time in whole milliseconds, as WebVTT has it. -/
def vttText (millis : Nat) : String :=
  pad 2 (millis / 3600000) ++ ":" ++ pad 2 (millis / 60000 % 60) ++ ":" ++ pad 2 (millis / 1000 % 60) ++
    "." ++ pad 3 (millis % 1000)

/-- The WebVTT document of cues: the header, and for each a blank line, its times and its text. -/
def vttDocument (cues : List SrtCue) : String :=
  String.ofList (writeLines ("WEBVTT".toList :: cues.flatMap fun cue =>
    [[], (vttText cue.start ++ " --> " ++ vttText cue.finish).toList, cue.text]))

/-- Both readers have all of the cues and nothing else. -/
def LosesNothing (file : String) (cues : List SrtCue) : Prop :=
  srtToVtt file = vttDocument cues ∧
    transcriptText file = String.ofList ([' '].intercalate (cues.map SrtCue.text))

/-- What both readers take for the cue that it is. -/
structure SrtCue.Readable (cue : SrtCue) : Prop where
  short : cue.Short
  no_mark : byteOrderMark ∉ cue.text
  not_digits : isDigit (String.ofList cue.text) = false
  not_metadata : isMetadata cue.text = false

example : srtToVtt "1\n00:00:00,000 --> 00:00:01,000\nhi\n\n2\n00:00:01,000 --> 00:00:02,000\n42\n\n" =
    "WEBVTT\n\n00:00:00.000 --> 00:00:01.000\nhi\n\n00:00:01.000 --> 00:00:02.000\n" := by
  decide +kernel

end GetOffline
