import GetOffline.Listings

set_option autoImplicit true

namespace GetOffline
open Python

-- workers/subtitles.py

/-- A time `HH:MM:SS,mmm` in milliseconds, and what comes after it. -/
def srtTimestamp : List Char → Option (Nat × List Char)
  | h :: h' :: ':' :: m :: m' :: ':' :: s :: s' :: ',' :: a :: b :: c :: rest => do
    let hours ← [h, h'].mapM decimalValue
    let minutes ← [m, m'].mapM decimalValue
    let seconds ← [s, s'].mapM decimalValue
    let millis ← [a, b, c].mapM decimalValue
    return (((ofDigits hours * 60 + ofDigits minutes) * 60 + ofDigits seconds) * 1000 + ofDigits millis,
      rest)
  | _ => none

/-- The rest after `\s+`. -/
def skipSpaces : List Char → Option (List Char)
  | c :: cs => if isSpace c then some (cs.dropWhile isSpace) else none
  | [] => none

/-- The first of the two times in a line that `timestamp_re` matches. -/
def startOfTimes (line : List Char) : Option Nat := do
  let (start, rest) ← srtTimestamp line
  let rest ← skipSpaces rest
  match rest with
  | '-' :: '-' :: '>' :: rest =>
    let rest ← skipSpaces rest
    let _ ← srtTimestamp rest
    return start
  | _ => none

-- workers/handlers.py

/-- A block of a subtitle file that has a line of times and a text. -/
structure Cue where
  times : List Char
  text : String

/-- When the cue is spoken, in milliseconds. -/
def Cue.start (cue : Cue) : Option Nat :=
  startOfTimes cue.times

/-- Where `str.splitlines` breaks. -/
def isLineBreak (c : Char) : Bool :=
  let n := c.toNat
  (10 ≤ n && n ≤ 13) || (28 ≤ n && n ≤ 30) || n == 0x85 || n == 0x2028 || n == 0x2029

/-- `re.split(r"\n\s*\n", text.strip())`: runs of blank lines lie between the blocks. Here each of them is
given by its lines. -/
def subtitleBlocks (text : String) : List (List (List Char)) :=
  ((stripChars text.toList).splitOn '\n').splitOnP fun line => line.all isSpace

/-- A turn of the loop of `_load_segments_from_subtitle`. -/
def cueOfBlock (block : List (List Char)) : Option Cue :=
  let lines := ((block.flatMap fun line => line.splitOnP isLineBreak).map stripChars).filter fun line =>
    line ≠ []
  let isTimes (line : List Char) : Bool := decide ("-->".toList <:+: line)
  if lines.length < 2 then none
  else
    let index := if isTimes (lines.getD 1 []) then 1 else 0
    if isTimes (lines.getD index []) then
      let body := stripChars ([' '].intercalate (lines.drop (index + 1)))
      if body = [] then none else some { times := lines.getD index [], text := String.ofList body }
    else none

def subtitleCues (text : String) : List Cue :=
  (subtitleBlocks text).filterMap cueOfBlock

/-- `_load_segments_from_subtitle`, of the text that `path.read_text` gives if the file exists. -/
def loadSegmentsFromSubtitle (path : Path) (text : Option String) : List String :=
  match text with
  | none => []
  | some text => if lower path.suffix ≠ ".srt" then [] else (subtitleCues text).map Cue.text

/-- The row of a segment, as both writers make it. -/
def newSegment (downloadId : Nat) (subtitlePath text : String) : TranscriptSegment :=
  { downloadId, subtitlePath, startSeconds := .zero, endSeconds := none, text }

/-- `TranscriptSegment.objects.bulk_create`. -/
def createSegments (downloadId : Nat) (subtitlePath : String) (texts : List String)
    (segments : AutoTable TranscriptSegment) : AutoTable TranscriptSegment :=
  texts.foldl (fun segments text => segments.insert (newSegment downloadId subtitlePath text)) segments

/-- `TranscriptSegment.objects.filter(download=download).delete()`. -/
def deleteSegments (downloadId : Nat) (segments : AutoTable TranscriptSegment) :
    AutoTable TranscriptSegment :=
  segments.delete fun _ segment => segment.downloadId == downloadId

/-- The segments of a download in the order of their ids. -/
def segmentsOf (downloadId : Nat) (segments : AutoTable TranscriptSegment) : List TranscriptSegment :=
  (segments.rows.orderBy (fun _ segment => segment.downloadId == downloadId) fun id _ => id).map Prod.snd

/-- What `generate_transcript` does to the tables when it has the subtitle of a row. -/
def LibraryTables.storeTranscript (downloadId : Nat) (path outputRoot : Path) (text : Option String)
    (t : LibraryTables) : LibraryTables :=
  { t with
    downloads := t.downloads.update (fun id _ => id == downloadId) fun row =>
      { row with subtitlePath := some path.str, subtitlePathRelative := path.relativeTo outputRoot }
    segments := createSegments downloadId path.str (loadSegmentsFromSubtitle path text)
      (deleteSegments downloadId t.segments) }

example : (subtitleCues "1\n00:00:01,500 --> 00:00:02,000\nHello\n\n2\n00:01:00,000 --> 00:01:01,000\na\nb\n").map
    (fun cue => (cue.start, cue.text)) = [(some 1500, "Hello"), (some 60000, "a b")] := by
  decide +kernel

section
variable {segments : AutoTable TranscriptSegment} {id downloadId : Nat}

theorem orders_segmentId : Table.Orders fun (id : Nat) (_ : TranscriptSegment) => id := fun _ _ _ _ h => h

theorem segmentsOf_insert (id : Nat) (segment : TranscriptSegment) (segments : AutoTable TranscriptSegment) :
    segmentsOf id (segments.insert segment) =
      segmentsOf id segments ++ if segment.downloadId = id then [segment] else [] := by
  rw [segmentsOf, AutoTable.orderBy_insert orders_segmentId fun i row hrow _ => AutoTable.lt_nextId hrow,
    List.map_append, segmentsOf]
  by_cases h : segment.downloadId = id
  · rw [if_pos h, if_pos (beq_iff_eq.2 h)]
    rfl
  · rw [if_neg h, if_neg (beq_iff_eq.not.2 h)]
    rfl

theorem segmentsOf_createSegments (id downloadId : Nat) (subtitlePath : String) (texts : List String)
    (segments : AutoTable TranscriptSegment) :
    segmentsOf id (createSegments downloadId subtitlePath texts segments) =
      segmentsOf id segments ++
        if downloadId = id then texts.map (newSegment downloadId subtitlePath) else [] := by
  induction texts generalizing segments with
  | nil =>
    rw [List.map_nil, ite_self, List.append_nil]
    rfl
  | cons text texts ih =>
    have hfirst := ih (segments.insert (newSegment downloadId subtitlePath text))
    have hid : (newSegment downloadId subtitlePath text).downloadId = downloadId := rfl
    rw [segmentsOf_insert, List.append_assoc, hid] at hfirst
    refine hfirst.trans (congrArg (segmentsOf id segments ++ ·) ?_)
    by_cases h : downloadId = id
    · rw [if_pos h, if_pos h, if_pos h, List.map_cons]
      rfl
    · rw [if_neg h, if_neg h, if_neg h, List.append_nil]

theorem segmentsOf_deleteSegments (id downloadId : Nat) (segments : AutoTable TranscriptSegment) :
    segmentsOf id (deleteSegments downloadId segments) =
      if id = downloadId then [] else segmentsOf id segments := by
  rw [segmentsOf, deleteSegments, AutoTable.delete, Table.orderBy_delete orders_segmentId]
  by_cases h : id = downloadId
  · rw [if_pos h, List.map_eq_nil_iff, List.filter_eq_nil_iff]
    intro e he
    have hid := (Table.mem_orderBy.1 he).2
    rw [h] at hid
    rw [hid]
    exact Bool.false_ne_true
  · rw [if_neg h, segmentsOf]
    congr 1
    rw [List.filter_eq_self]
    intro e he
    have hid := beq_iff_eq.1 (Table.mem_orderBy.1 he).2
    rw [hid, Bool.not_eq_true', beq_eq_false_iff_ne]
    exact h

end

end GetOffline
