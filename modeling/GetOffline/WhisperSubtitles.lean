import GetOffline.SubtitleShift

set_option autoImplicit true

namespace GetOffline
open Python

-- workers/subtitles.py

/-- A segment of the result of `transcribe_with_whisper`. -/
structure WhisperSegment where
  start : Option ℚ
  finish : Option ℚ
  text : String

/-- A turn of the loop that writes the segments. -/
def segmentEntry (index : Nat) (segment : WhisperSegment) : String :=
  let start := segment.start.getD 0
  let finish := segment.finish.getD (start + 1 / 100)
  let text := strip segment.text
  if text = "" then ""
  else
    let finish := if finish ≤ start then start + 1 / 100 else finish
    toString index ++ "\n" ++
      (formatSrtTimestamp start ++ " --> " ++ formatSrtTimestamp finish ++ "\n") ++
      (text ++ "\n\n")

/-- The file as the loop leaves it. -/
def writeSegments (segments : List WhisperSegment) : String :=
  String.ofList ((segments.zipIdx 1).flatMap fun e => (segmentEntry e.2 e.1).toList)

/-- The file of `generate_whisper_subtitles` that transcribes to the given segments. -/
def generateWhisperSubtitles (segments : List WhisperSegment) (offset : ℚ) : Except Error String :=
  shiftSrtTimestamps offset (writeSegments segments)

/-- The texts that are spoken. -/
def spokenTexts (segments : List WhisperSegment) : List String :=
  (segments.map fun segment => strip segment.text).filter fun text => text ≠ ""

/-- The three lines of a block. -/
structure Caption where
  index : List Char
  times : List Char
  text : List Char

def Caption.lines (caption : Caption) : List (List Char) :=
  [caption.index, caption.times, caption.text, []]

/-- A line that is not blank, and that neither `strip` nor `splitlines` changes. -/
structure PlainLine (cs : List Char) : Prop where
  ne_nil : cs ≠ []
  trimmed : Trimmed cs
  single : SingleLine cs

structure Caption.Plain (caption : Caption) : Prop where
  index : PlainLine caption.index
  times : PlainLine caption.times
  arrow : "-->".toList <:+: caption.times
  text : PlainLine caption.text

theorem PlainLine.not_blank (h : PlainLine cs) : (cs.all isSpace) = false := by
  cases cs with
  | nil => exact absurd rfl h.ne_nil
  | cons c cs =>
    rw [List.all_cons, h.trimmed.head c rfl]
    rfl

theorem PlainLine.newline_notMem (h : PlainLine cs) : '\n' ∉ cs := by
  intro hin
  exact absurd (h.single '\n' hin) (by decide)

theorem cueOfBlock_caption {caption : Caption} (h : caption.Plain) :
    cueOfBlock [caption.index, caption.times, caption.text] =
      some { times := caption.times, text := String.ofList caption.text } := by
  have hline {cs : List Char} (h : PlainLine cs) : cs.splitOnP isLineBreak = [cs] :=
    List.splitOnP_eq_singleton h.single
  have hlines : (([caption.index, caption.times, caption.text].flatMap fun line =>
      line.splitOnP isLineBreak).map stripChars).filter (fun line => line ≠ []) =
        [caption.index, caption.times, caption.text] := by
    rw [List.flatMap_cons, List.flatMap_cons, List.flatMap_singleton, hline h.index, hline h.times,
      hline h.text]
    simp only [List.cons_append, List.nil_append, List.map_cons, List.map_nil,
      stripChars_of_trimmed h.index.trimmed, stripChars_of_trimmed h.times.trimmed,
      stripChars_of_trimmed h.text.trimmed]
    rw [List.filter_eq_self]
    simp only [List.forall_mem_cons, decide_eq_true_eq]
    exact ⟨h.index.ne_nil, h.times.ne_nil, h.text.ne_nil, fun _ h => absurd h List.not_mem_nil⟩
  rw [cueOfBlock]
  dsimp only
  have hshort : ¬ [caption.index, caption.times, caption.text].length < 2 := by
    rw [List.length_cons, List.length_cons]
    omega
  have hget : [caption.index, caption.times, caption.text].getD 1 [] = caption.times := rfl
  have hdrop : [caption.index, caption.times, caption.text].drop 2 = [caption.text] := rfl
  have harrow := decide_eq_true h.arrow
  rw [hlines, if_neg hshort, hget, if_pos harrow, hget, if_pos harrow, hdrop, List.intercalate_singleton, stripChars_of_trimmed h.text.trimmed, if_neg h.text.ne_nil]

/-- Lines before the last are cut off where they end. -/
theorem splitOn_writeLines (h : ∀ line ∈ lines, '\n' ∉ line) (hlast : '\n' ∉ last) :
    (writeLines lines ++ last).splitOn '\n' = lines ++ [last] := by
  induction lines with
  | nil => exact List.splitOn_eq_singleton hlast
  | cons line lines ih =>
    rw [List.forall_mem_cons] at h
    rw [writeLines, List.flatMap_cons, List.append_assoc, List.append_assoc, List.singleton_append,
      List.splitOn_append_cons_self_of_not_mem h.1, ← writeLines, ih h.2, List.cons_append]

/-- The blank lines part the captions. -/
theorem splitOnP_captions {captions : List Caption} {last : Caption}
    (h : ∀ caption ∈ captions, caption.Plain) (hlast : last.Plain) :
    (captions.flatMap Caption.lines ++ [last.index, last.times, last.text]).splitOnP
        (fun line => line.all isSpace) =
      (captions ++ [last]).map fun caption => [caption.index, caption.times, caption.text] := by
  have hplain {caption : Caption} (h : caption.Plain) :
      ∀ line ∈ [caption.index, caption.times, caption.text], line.all isSpace = false := by
    simp only [List.forall_mem_cons]
    exact ⟨h.index.not_blank, h.times.not_blank, h.text.not_blank, fun _ h => absurd h List.not_mem_nil⟩
  induction captions with
  | nil => exact List.splitOnP_eq_singleton (hplain hlast)
  | cons caption captions ih =>
    rw [List.forall_mem_cons] at h
    have hlines (rest : List (List Char)) : caption.lines ++ rest =
        [caption.index, caption.times, caption.text] ++ [] :: rest := rfl
    rw [List.flatMap_cons, List.append_assoc, hlines,
      List.splitOnP_append_cons_of_forall_mem (hplain h.1) [] rfl, ih h.2, List.cons_append,
      List.map_cons]

theorem plain_lines {caption : Caption} (h : caption.Plain) : ∀ line ∈ caption.lines, '\n' ∉ line := by
  rw [Caption.lines]
  simp only [List.forall_mem_cons]
  exact ⟨h.index.newline_notMem, h.times.newline_notMem, h.text.newline_notMem, List.not_mem_nil,
    fun _ h => absurd h List.not_mem_nil⟩

theorem head?_writeLines (hne : line ≠ []) (h : (writeLines (line :: lines) ++ last).head? = some c) :
    line.head? = some c := by
  cases line with
  | nil => exact absurd rfl hne
  | cons d line => exact h

/-- What `strip` leaves of a file of captions. -/
theorem stripChars_captions {captions : List Caption} {last : Caption}
    (h : ∀ caption ∈ captions, caption.Plain) (hlast : last.Plain) :
    stripChars (writeLines ((captions ++ [last]).flatMap Caption.lines)) =
      writeLines (captions.flatMap Caption.lines ++ [last.index, last.times]) ++ last.text := by
  have hwrite : writeLines ((captions ++ [last]).flatMap Caption.lines) =
      writeLines (captions.flatMap Caption.lines ++ [last.index, last.times]) ++ last.text ++
        ['\n', '\n'] := by
    rw [List.flatMap_append, List.flatMap_singleton, Caption.lines, writeLines, writeLines,
      List.flatMap_append, List.flatMap_append, List.append_assoc, List.append_assoc]
    simp only [List.flatMap_cons, List.flatMap_nil, List.append_assoc, List.append_nil,
      List.cons_append, List.nil_append]
  rw [hwrite, stripChars_append_right (List.all_iff_forall_prop.1 (by decide))]
  apply stripChars_of_trimmed
  constructor
  · intro c hc
    cases captions with
    | nil => exact hlast.index.trimmed.head c (head?_writeLines hlast.index.ne_nil hc)
    | cons first captions =>
      have hfirst := h first List.mem_cons_self
      exact hfirst.index.trimmed.head c (head?_writeLines hfirst.index.ne_nil hc)
  · intro c hc
    rw [List.getLast?_append_of_ne_nil _ hlast.text.ne_nil] at hc
    exact hlast.text.trimmed.last c hc

theorem subtitleCues_captions {captions : List Caption} (h : ∀ caption ∈ captions, caption.Plain) :
    subtitleCues (String.ofList (writeLines (captions.flatMap Caption.lines))) =
      captions.map fun caption => { times := caption.times, text := String.ofList caption.text } := by
  rcases List.eq_nil_or_concat' captions with rfl | ⟨init, last, rfl⟩
  · rfl
  · rw [List.forall_mem_append, List.forall_mem_singleton] at h
    obtain ⟨hinit, hlast⟩ := h
    have hlines : ∀ line ∈ init.flatMap Caption.lines ++ [last.index, last.times], '\n' ∉ line := by
      rw [List.forall_mem_append]
      constructor
      · intro line hline
        obtain ⟨caption, hcaption, hline⟩ := List.mem_flatMap.1 hline
        exact plain_lines (hinit caption hcaption) line hline
      · simp only [List.forall_mem_cons]
        exact ⟨hlast.index.newline_notMem, hlast.times.newline_notMem, fun _ h => absurd h List.not_mem_nil⟩
    rw [subtitleCues, subtitleBlocks, String.toList_ofList, stripChars_captions hinit hlast,
      splitOn_writeLines hlines hlast.text.newline_notMem, List.append_assoc]
    rw [show [last.index, last.times] ++ [last.text] = [last.index, last.times, last.text] from rfl,
      splitOnP_captions hinit hlast, List.filterMap_map, ← List.filterMap_eq_map]
    apply List.filterMap_congr
    intro caption hcaption
    rcases List.mem_append.1 hcaption with hcaption | hcaption
    · exact cueOfBlock_caption (hinit caption hcaption)
    · rw [List.mem_singleton.1 hcaption]
      exact cueOfBlock_caption hlast

/-- The times that the writer prints for a segment, in milliseconds. -/
def WhisperSegment.times (segment : WhisperSegment) : CueTimes :=
  let start := segment.start.getD 0
  let finish := segment.finish.getD (start + 1 / 100)
  { start := roundMillis start
    finish := roundMillis (if finish ≤ start then start + 1 / 100 else finish)
    tail := [] }

/-- What a segment becomes in the file. -/
def captionOf (index : Nat) (segment : WhisperSegment) : Option Caption :=
  if strip segment.text = "" then none
  else some {
    index := (toString index).toList
    times := segment.times.line
    text := (strip segment.text).toList }

def captionsOf (segments : List WhisperSegment) : List Caption :=
  (segments.zipIdx 1).filterMap fun e => captionOf e.2 e.1

theorem segmentEntry_eq (index : Nat) (segment : WhisperSegment) :
    (segmentEntry index segment).toList =
      writeLines ((captionOf index segment).toList.flatMap Caption.lines) := by
  by_cases h : strip segment.text = ""
  · rw [segmentEntry, captionOf]
    dsimp only
    rw [if_pos h, if_pos h]
    rfl
  · have hnewline : "\n".toList = ['\n'] := rfl
    have hblank : "\n\n".toList = ['\n', '\n'] := rfl
    rw [segmentEntry, captionOf]
    dsimp only
    rw [if_neg h, if_neg h, Option.toList_some, List.flatMap_singleton, Caption.lines,
      WhisperSegment.times, CueTimes.line, formatSrtTimestamp_eq, formatSrtTimestamp_eq, writeLines]
    simp only [String.toList_append, hnewline, hblank, List.flatMap_cons, List.flatMap_nil,
      List.append_assoc, List.append_nil, List.cons_append, List.nil_append]

/-- The file before it is shifted. -/
theorem writeSegments_eq (segments : List WhisperSegment) :
    (writeSegments segments).toList = writeLines ((captionsOf segments).flatMap Caption.lines) := by
  have hfile (es : List (WhisperSegment × Nat)) : (es.flatMap fun e => (segmentEntry e.2 e.1).toList) =
      writeLines ((es.filterMap fun e => captionOf e.2 e.1).flatMap Caption.lines) := by
    induction es with
    | nil => rfl
    | cons e es ih =>
      rw [List.flatMap_cons, ih, segmentEntry_eq, List.filterMap_cons]
      cases captionOf e.2 e.1 with
      | none => rfl
      | some caption =>
        rw [Option.toList_some, List.flatMap_singleton, List.flatMap_cons, writeLines, writeLines,
          writeLines, List.flatMap_append]
  rw [writeSegments, String.toList_ofList, hfile, captionsOf]

theorem texts_captionsOf (segments : List WhisperSegment) :
    (captionsOf segments).map (fun caption => String.ofList caption.text) = spokenTexts segments := by
  have htexts (start : Nat) : ((segments.zipIdx start).filterMap fun e => captionOf e.2 e.1).map
      (fun caption => String.ofList caption.text) = spokenTexts segments := by
    induction segments generalizing start with
    | nil => rfl
    | cons segment segments ih =>
      have ih := ih (start + 1)
      rw [List.zipIdx_cons, List.filterMap_cons, spokenTexts, List.map_cons]
      dsimp only
      rw [captionOf]
      by_cases h : strip segment.text = ""
      · rw [if_pos h, List.filter_cons_of_neg]
        · exact ih
        · rw [decide_eq_true_eq]
          exact not_not.2 h
      · rw [if_neg h, List.filter_cons, if_pos (decide_eq_true h)]
        dsimp only
        rw [List.map_cons, ih, String.ofList_toList]
        rfl
  exact htexts 1

theorem isSpace_millisText (h : c ∈ (millisText millis).toList) : isSpace c = false := by
  rcases mem_millisText h with h | rfl | rfl
  · exact isSpace_decimal (decimalValue_digit h)
  · decide
  · decide

theorem millisText_ne_nil (millis : Nat) : (millisText millis).toList ≠ [] := by
  rw [millisText, toList_timestampText]
  exact List.append_ne_nil_of_left_ne_nil (pad_ne_nil _ _) _

/-- A line with an arrow between two texts without white space, and what may follow them. -/
theorem plain_arrowLine {start finish tail : List Char} (hstart : start ≠ []) (hfinish : finish ≠ [])
    (hs : ∀ c ∈ start, isSpace c = false) (hf : ∀ c ∈ finish, isSpace c = false)
    (hsingle : SingleLine tail) (hlast : ∀ c, tail.getLast? = some c → isSpace c = false) :
    PlainLine (start ++ " --> ".toList ++ finish ++ tail) where
  ne_nil := by
    rw [List.append_assoc, List.append_assoc]
    exact List.append_ne_nil_of_left_ne_nil hstart _
  trimmed := by
    constructor
    · intro c hc
      rw [List.append_assoc, List.append_assoc, List.head?_append_of_ne_nil _ hstart] at hc
      exact hs c (List.mem_of_mem_head? hc)
    · intro c hc
      by_cases htail : tail = []
      · rw [htail, List.append_nil, List.getLast?_append_of_ne_nil _ hfinish] at hc
        exact hf c (List.mem_of_mem_getLast? hc)
      · rw [List.getLast?_append_of_ne_nil _ htail] at hc
        exact hlast c hc
  single := by
    have harrow : SingleLine " --> ".toList := by decide
    simp only [SingleLine, List.forall_mem_append]
    exact ⟨⟨⟨fun c hc => isLineBreak_of_isSpace (hs c hc), harrow⟩,
      fun c hc => isLineBreak_of_isSpace (hf c hc)⟩, hsingle⟩

/-- A line of times, with what may follow them. -/
theorem plain_cueLine {cue : CueTimes} (hsingle : SingleLine cue.tail)
    (hlast : ∀ c, cue.tail.getLast? = some c → isSpace c = false) : PlainLine cue.line := by
  rw [CueTimes.line, String.toList_append, String.toList_append]
  exact plain_arrowLine (millisText_ne_nil _) (millisText_ne_nil _) (fun c hc => isSpace_millisText hc)
    (fun c hc => isSpace_millisText hc) hsingle hlast

theorem arrow_cueLine (cue : CueTimes) : "-->".toList <:+: cue.line := by
  have harrow : " --> ".toList = [' '] ++ "-->".toList ++ [' '] := rfl
  refine ⟨(millisText cue.start).toList ++ [' '], ' ' :: ((millisText cue.finish).toList ++ cue.tail), ?_⟩
  rw [CueTimes.line, String.toList_append, String.toList_append, harrow]
  simp only [List.append_assoc, List.cons_append, List.nil_append]

theorem plain_toString (n : Nat) : PlainLine (toString n).toList := by
  have hdigits (c : Char) (hc : c ∈ (toString n).toList) : c.isDigit := by
    rw [Nat.toString_eq_ofList_toDigits, String.toList_ofList] at hc
    exact Nat.isDigit_of_mem_toDigits (by decide) le_rfl hc
  refine ⟨?_, trimmed_of_decimals (mapM_decimalValue hdigits), fun c hc => isLineBreak_digit (hdigits c hc)⟩
  rw [Nat.toString_eq_ofList_toDigits, String.toList_ofList]
  exact Nat.toDigits_ne_nil

theorem plain_captionOf {segment : WhisperSegment} (hsingle : SingleLine (strip segment.text).toList)
    (h : captionOf index segment = some caption) : caption.Plain := by
  obtain ⟨hne, hcaption⟩ := Option.ite_none_left_eq_some.1 h
  obtain rfl := Option.some.inj hcaption
  have hnone (c : Char) (hc : ([] : List Char).getLast? = some c) : isSpace c = false := nomatch hc
  have htail : segment.times.tail = [] := rfl
  constructor
  · exact plain_toString index
  · apply plain_cueLine
    · rw [htail]
      exact singleLine_nil
    · rw [htail]
      exact hnone
  · exact arrow_cueLine segment.times
  · have htrimmed : Trimmed (strip segment.text).toList := by
      rw [strip, String.toList_ofList]
      exact trimmed_stripChars _
    dsimp only
    exact ⟨fun hnil => hne (String.toList_eq_nil_iff.1 hnil), htrimmed, hsingle⟩

/-- A shift changes the times of a caption. -/
def Caption.shifted (offset : ℚ) (caption : Caption) : Caption :=
  { caption with times := shiftedLine offset caption.times }

theorem PlainLine.shifted (h : PlainLine line) (offset : ℚ) : PlainLine (shiftedLine offset line) := by
  rw [shiftedLine, cueTimes]
  cases hmatch : timestampMatch line with
  | none => exact h
  | some groups =>
    obtain ⟨start, finish, tail⟩ := groups
    obtain ⟨-, -, rest, hrest⟩ := timestampMatch_spec hmatch
    apply plain_cueLine
    · exact fun c hc => h.single c (hrest ▸ List.mem_append_right _ hc)
    · intro c hc
      apply h.trimmed.last c
      have hne : tail ≠ [] := by
        intro hnil
        rw [hnil] at hc
        cases hc
      rw [← hrest, List.getLast?_append_of_ne_nil _ hne]
      exact hc

theorem Caption.Plain.shifted {caption : Caption} (h : caption.Plain) (offset : ℚ) :
    (caption.shifted offset).Plain := by
  refine { h with times := h.times.shifted offset, arrow := ?_ }
  rw [Caption.shifted, shiftedLine]
  cases cueTimes caption.times with
  | none => exact h.arrow
  | some cue => exact arrow_cueLine _

theorem colon_mem_of_takeTimestamp (h : takeTimestamp cs = some found) : ':' ∈ cs := by
  unfold takeTimestamp at h
  split at h
  · simp only [List.mem_cons, true_or, or_true]
  · cases h

theorem shiftedLine_of_none (offset : ℚ) (h : timestampMatch line = none) :
    shiftedLine offset line = line := by
  rw [shiftedLine, cueTimes, h]
  rfl

theorem timestampMatch_of_colon (h : ':' ∉ line) : timestampMatch line = none := by
  rw [timestampMatch]
  cases htake : takeTimestamp line with
  | none => rfl
  | some found => exact absurd (colon_mem_of_takeTimestamp htake) h

/-- A caption of which a shift changes nothing but the times. -/
structure Caption.Fixed (caption : Caption) : Prop where
  index : timestampMatch caption.index = none
  text : timestampMatch caption.text = none

theorem fixed_captionOf {segment : WhisperSegment} (htext : timestampMatch (strip segment.text).toList = none)
    (h : captionOf index segment = some caption) : caption.Fixed := by
  obtain ⟨-, hcaption⟩ := Option.ite_none_left_eq_some.1 h
  obtain rfl := Option.some.inj hcaption
  have hindex : timestampMatch (toString index).toList = none := by
    apply timestampMatch_of_colon
    intro hcolon
    rw [Nat.toString_eq_ofList_toDigits, String.toList_ofList] at hcolon
    exact absurd (Nat.isDigit_of_mem_toDigits (by decide) le_rfl hcolon) (by decide)
  constructor
  · dsimp only
    exact hindex
  · dsimp only
    exact htext

theorem map_shiftedLine_captions (offset : ℚ) {captions : List Caption}
    (h : ∀ caption ∈ captions, caption.Fixed) :
    (captions.flatMap Caption.lines).map (shiftedLine offset) =
      (captions.map (Caption.shifted offset)).flatMap Caption.lines := by
  induction captions with
  | nil => rfl
  | cons caption captions ih =>
    rw [List.forall_mem_cons] at h
    have hblank : timestampMatch [] = none := rfl
    have hlines : caption.lines.map (shiftedLine offset) = (caption.shifted offset).lines := by
      rw [Caption.lines, List.map_cons, List.map_cons, List.map_cons, List.map_singleton,
        shiftedLine_of_none offset h.1.index, shiftedLine_of_none offset h.1.text,
        shiftedLine_of_none offset hblank, Caption.lines, Caption.shifted]
    rw [List.flatMap_cons, List.map_append, hlines, ih h.2, List.map_cons, List.flatMap_cons]

theorem single_captions {captions : List Caption} (h : ∀ caption ∈ captions, caption.Plain) :
    ∀ line ∈ captions.flatMap Caption.lines, SingleLine line := by
  intro line hline
  obtain ⟨caption, hcaption, hline⟩ := List.mem_flatMap.1 hline
  have hplain := h caption hcaption
  have hlines : ∀ line ∈ caption.lines, SingleLine line := by
    rw [Caption.lines]
    simp only [List.forall_mem_cons]
    exact ⟨hplain.index.single, hplain.times.single, hplain.text.single, singleLine_nil,
      fun _ h => absurd h List.not_mem_nil⟩
  exact hlines line hline

/-- The file of captions after a shift; a file without any gets an empty line. -/
theorem shift_captions (offset : ℚ) {captions : List Caption} (hplain : ∀ caption ∈ captions, caption.Plain)
    (hfixed : offset ≠ 0 → ∀ caption ∈ captions, caption.Fixed) :
    shiftSrtTimestamps offset (String.ofList (writeLines (captions.flatMap Caption.lines))) =
        .ok (String.ofList (writeLines (captions.flatMap Caption.lines))) ∨
      shiftSrtTimestamps offset (String.ofList (writeLines (captions.flatMap Caption.lines))) =
        .ok (if captions = [] then "\n" else
          String.ofList (writeLines ((captions.map (Caption.shifted offset)).flatMap Caption.lines))) := by
  by_cases hsmall : |offset| < 1 / 1000000
  · exact .inl (if_pos hsmall)
  · right
    have hne : offset ≠ 0 := by
      rintro rfl
      exact hsmall (by norm_num)
    rw [shiftSrtTimestamps_eq (not_lt.1 hsmall), String.toList_ofList,
      splitlines_writeLines (single_captions hplain), map_shiftedLine_captions offset (hfixed hne)]
    by_cases hnil : captions = []
    · rw [if_pos hnil, hnil]
      rfl
    · rw [if_neg hnil, intercalate_newline]
      obtain ⟨caption, rest, rfl⟩ := List.exists_cons_of_ne_nil hnil
      exact List.cons_ne_nil _ _

/-- What is spoken is read back from the file, whatever the texts look like. -/
theorem whisper_subtitles_read_back (path : Path) (hpath : lower path.suffix = ".srt")
    (segments : List WhisperSegment) (offset : ℚ)
    (hsingle : ∀ segment ∈ segments, SingleLine (strip segment.text).toList)
    (htimes : offset ≠ 0 → ∀ segment ∈ segments, timestampMatch (strip segment.text).toList = none) :
    ∃ file, generateWhisperSubtitles segments offset = .ok file ∧
      loadSegmentsFromSubtitle path (some file) = spokenTexts segments := by
  have hmem (caption : Caption) (h : caption ∈ captionsOf segments) :
      ∃ index, ∃ segment ∈ segments, captionOf index segment = some caption := by
    obtain ⟨⟨segment, index⟩, he, hcaption⟩ := List.mem_filterMap.1 h
    exact ⟨index, segment, List.fst_mem_of_mem_zipIdx he, hcaption⟩
  have hplain : ∀ caption ∈ captionsOf segments, caption.Plain := by
    intro caption h
    obtain ⟨index, segment, hsegment, hcaption⟩ := hmem caption h
    exact plain_captionOf (hsingle segment hsegment) hcaption
  have hfixed (hne : offset ≠ 0) : ∀ caption ∈ captionsOf segments, caption.Fixed := by
    intro caption h
    obtain ⟨index, segment, hsegment, hcaption⟩ := hmem caption h
    exact fixed_captionOf (htimes hne segment hsegment) hcaption
  have hfile := writeSegments_eq segments
  rw [← String.ofList_inj, String.ofList_toList] at hfile
  have hread (captions : List Caption) (h : ∀ caption ∈ captions, caption.Plain) :
      loadSegmentsFromSubtitle path (some (String.ofList (writeLines (captions.flatMap Caption.lines)))) =
        captions.map fun caption => String.ofList caption.text := by
    rw [loadSegmentsFromSubtitle, if_neg (not_not.2 hpath), subtitleCues_captions h, List.map_map]
    rfl
  rw [generateWhisperSubtitles, hfile, ← texts_captionsOf]
  rcases shift_captions offset hplain hfixed with hkept | hshifted
  · exact ⟨_, hkept, hread _ hplain⟩
  · refine ⟨_, hshifted, ?_⟩
    by_cases hnil : captionsOf segments = []
    · rw [if_pos hnil, hnil, loadSegmentsFromSubtitle, if_neg (not_not.2 hpath)]
      rfl
    · rw [if_neg hnil, hread, List.map_map]
      · rfl
      · intro caption h
        obtain ⟨old, hold, rfl⟩ := List.mem_map.1 h
        exact (hplain old hold).shifted offset

/-- A text that looks like an index, a blank one, and one that looks like times. -/
def lookalikes : List WhisperSegment :=
  [⟨some 0, some 1, " 42 "⟩, ⟨none, none, " "⟩, ⟨some 2, some 2, "a --> b"⟩]

theorem whisper_subtitles_read_back_lookalikes :
    ∃ file, generateWhisperSubtitles lookalikes (3 / 2) = .ok file ∧
      loadSegmentsFromSubtitle (Path.parse "/m/a.srt") (some file) = ["42", "a --> b"] := by
  have htexts : spokenTexts lookalikes = ["42", "a --> b"] := by decide +kernel
  have hsingle : ∀ text ∈ lookalikes.map fun segment => (strip segment.text).toList,
      SingleLine text := by decide +kernel
  have htimes : ∀ text ∈ lookalikes.map fun segment => (strip segment.text).toList,
      timestampMatch text = none := by decide +kernel
  rw [← htexts]
  apply whisper_subtitles_read_back
  · decide +kernel
  · exact fun segment h => hsingle _ (List.mem_map_of_mem h)
  · exact fun _ segment h => htimes _ (List.mem_map_of_mem h)

end GetOffline
