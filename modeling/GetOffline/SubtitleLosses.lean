import GetOffline.SeparatedTexts
import GetOffline.SubtitleReaders

set_option autoImplicit true

namespace GetOffline
open Python

/-- Hours of three digits are not read. -/
theorem colon_not_third (h : 360000000 ≤ millis) (rest : List Char) :
    ∃ a b c cs, (millisText millis).toList ++ rest = a :: b :: c :: cs ∧ c.isDigit := by
  have hlong : 2 < (pad 2 (millis / 3600000)).toList.length := by
    have hdigits : 2 < (Nat.toDigits 10 (millis / 3600000)).length := by
      rw [← not_le, Nat.length_toDigits_le_iff (by decide) (by decide)]
      omega
    rw [toList_pad, List.length_append]
    omega
  have hdigit (c : Char) (hc : c ∈ (pad 2 (millis / 3600000)).toList) : c.isDigit := isDigit_pad hc
  rw [millisText, toList_timestampText]
  cases hhours : (pad 2 (millis / 3600000)).toList with
  | nil =>
    rw [hhours] at hlong
    cases hlong
  | cons a hours =>
    rw [hhours] at hlong hdigit
    cases hours with
    | nil => exact absurd hlong (show ¬ 2 < 1 by decide)
    | cons b hours =>
      cases hours with
      | nil => exact absurd hlong (show ¬ 2 < 2 by decide)
      | cons c hours =>
        refine ⟨a, b, c, _, rfl, hdigit c ?_⟩
        exact List.mem_cons_of_mem _ (List.mem_cons_of_mem _ List.mem_cons_self)

theorem takeTimestamp_long (h : 360000000 ≤ millis) (rest : List Char) :
    takeTimestamp ((millisText millis).toList ++ rest) = none := by
  obtain ⟨a, b, c, cs, hcs, hdigit⟩ := colon_not_third h rest
  rw [hcs]
  unfold takeTimestamp
  split
  · next heq =>
    simp only [List.cons.injEq] at heq
    obtain ⟨-, -, rfl, -⟩ := heq
    exact absurd hdigit (by decide)
  · rfl

theorem skipTimestamp_long (h : 360000000 ≤ millis) (rest : List Char) :
    skipTimestamp ((millisText millis).toList ++ rest) = none := by
  obtain ⟨a, b, c, cs, hcs, hdigit⟩ := colon_not_third h rest
  rw [hcs]
  unfold skipTimestamp
  split
  · next heq =>
    simp only [List.cons.injEq] at heq
    obtain ⟨-, -, rfl, -⟩ := heq
    exact absurd hdigit (by decide)
  · rfl

/-- What the first pattern takes the second skips. -/
theorem skipTimestamp_of_take (h : takeTimestamp cs = some (raw, rest)) : skipTimestamp cs = some rest := by
  unfold takeTimestamp at h
  split at h
  · obtain ⟨hall, heq⟩ := Option.ite_none_right_eq_some.1 h
    obtain ⟨-, rfl⟩ := Prod.mk.inj (Option.some.inj heq)
    rw [skipTimestamp, hall]
    rfl
  · cases h

theorem isMetadata_of_match (h : timestampMatch line = some groups) : isMetadata line = true := by
  obtain ⟨⟨start, rest⟩, hstart, h⟩ := Option.bind_eq_some_iff.1 h
  obtain ⟨arrow, harrow, h⟩ := Option.bind_eq_some_iff.1 h
  obtain ⟨after, hafter, h⟩ := Option.bind_eq_some_iff.1 h
  obtain ⟨rest', hrest', h⟩ := Option.bind_eq_some_iff.1 h
  obtain ⟨⟨finish, tail⟩, hfinish, h⟩ := Option.bind_eq_some_iff.1 h
  have hmatch : (do
      let rest ← skipSpaces (← skipTimestamp line)
      skipTimestamp (← skipSpaces (← skipArrow rest))) = some tail := by
    rw [skipTimestamp_of_take hstart, Option.bind_eq_bind, Option.bind_some, harrow, Option.bind_some,
      hafter, Option.bind_some, hrest', Option.bind_some, skipTimestamp_of_take hfinish]
  rw [isMetadata, hmatch, Option.isSome_some, Bool.or_true]

theorem timestampMatch_toString (n : Nat) : timestampMatch (toString n).toList = none := by
  exact timestampMatch_of_colon (not_mem_toString (by decide) n)

namespace SrtCue
variable {cue : SrtCue}

/-- The line of the times, up to the second of them. -/
theorem line_eq (cue : SrtCue) : cue.times.line = (millisText cue.start).toList ++ ' ' :: '-' :: '-' ::
    '>' :: ' ' :: ((millisText cue.finish).toList ++ []) := by
  have harrow : " --> ".toList = [' ', '-', '-', '>', ' '] := rfl
  rw [CueTimes.line, times]
  simp only [String.toList_append, harrow, List.append_assoc, List.cons_append, List.nil_append]

theorem skipSpaces_arrow (rest : List Char) : skipSpaces (' ' :: '-' :: rest) = some ('-' :: rest) := by
  rw [skipSpaces, if_pos (by decide), List.dropWhile_cons_of_neg (by decide)]

theorem skipArrow_arrow (rest : List Char) : skipArrow ('-' :: '-' :: '>' :: rest) = some rest := rfl

theorem timestampMatch_short (h : cue.Short) :
    timestampMatch cue.times.line = some ((millisText cue.start).toList, (millisText cue.finish).toList, []) := by
  have hwritten := timestampMatch_written h.1 h.2 []
  rwa [CueTimes.line]

theorem timestampMatch_long (h : ¬ cue.Short) : timestampMatch cue.times.line = none := by
  rw [line_eq, timestampMatch]
  by_cases hstart : cue.start < 360000000
  · have hfinish : 360000000 ≤ cue.finish := not_lt.1 fun hfinish => h ⟨hstart, hfinish⟩
    rw [takeTimestamp_millisText hstart, Option.bind_eq_bind, Option.bind_some]
    dsimp only
    rw [skipSpaces_arrow, Option.bind_eq_bind, Option.bind_some, skipArrow_arrow, Option.bind_some,
      skipSpaces_millisText, Option.bind_some, takeTimestamp_long hfinish]
    rfl
  · rw [takeTimestamp_long (not_lt.1 hstart)]
    rfl

/-- A line of times is metadata as long as its hours have two digits. -/
theorem isMetadata_times (cue : SrtCue) : isMetadata cue.times.line = true ↔ cue.Short := by
  constructor
  · intro h
    by_contra hlong
    have hspace : (cue.times.line.all fun c => (decimalValue c).isSome) = false := by
      rw [List.all_eq_false, line_eq]
      exact ⟨' ', List.mem_append_right _ List.mem_cons_self, by decide⟩
    rw [isMetadata, hspace, Bool.and_false, Bool.false_or, line_eq] at h
    by_cases hstart : cue.start < 360000000
    · have hfinish : 360000000 ≤ cue.finish := not_lt.1 fun hfinish => hlong ⟨hstart, hfinish⟩
      rw [skipTimestamp_of_take (takeTimestamp_millisText hstart _), Option.bind_eq_bind,
        Option.bind_some, skipSpaces_arrow, Option.bind_some, skipArrow_arrow, Option.bind_some,
        skipSpaces_millisText, Option.bind_some, skipTimestamp_long hfinish] at h
      cases h
    · rw [skipTimestamp_long (not_lt.1 hstart)] at h
      cases h
  · exact fun h => isMetadata_of_match (timestampMatch_short h)

theorem shiftedLine_times (offset : ℚ) (cue : SrtCue) :
    shiftedLine offset cue.times.line = (cue.shift offset).times.line := by
  rw [shift]
  by_cases h : cue.Short
  · rw [if_pos h, shiftedLine, cueTimes_line h.1 h.2]
    rfl
  · rw [if_neg h, shiftedLine_of_none offset (timestampMatch_long h)]
    rfl

/-- A shift of a file of cues is one of its cues. -/
theorem map_shiftedLine_lines (offset : ℚ) (cue : SrtCue) :
    cue.caption.lines.map (shiftedLine offset) = (cue.shift offset).caption.lines := by
  have hindex : timestampMatch (toString cue.index).toList = none := timestampMatch_toString cue.index
  have hblank : timestampMatch [] = none := rfl
  rw [Caption.lines, List.map_cons, List.map_cons, List.map_cons, List.map_singleton, caption,
    shiftedLine_of_none offset hindex, shiftedLine_times, shiftedLine_of_none offset hblank,
    Caption.lines, caption]
  rfl

end SrtCue

theorem captionOf_eq (index : Nat) (segment : WhisperSegment) :
    captionOf index segment = (cueOf index segment).map SrtCue.caption := by
  rw [captionOf, cueOf]
  by_cases h : strip segment.text = ""
  · rw [if_pos h, if_pos h, Option.map_none]
  · simp only [if_neg h, Option.map_some, SrtCue.caption, SrtCue.times]
    rfl

theorem SrtCue.plain_times (cue : SrtCue) : PlainLine cue.times.line :=
  plain_cueLine singleLine_nil fun _ hc => nomatch hc

theorem plain_cue {cue : SrtCue} (h : PlainLine cue.text) : cue.caption.Plain where
  index := plain_toString cue.index
  times := cue.plain_times
  arrow := arrow_cueLine cue.times
  text := h

/-- The lines of a file of cues. -/
def fileLines (cues : List SrtCue) : List (List Char) :=
  cues.flatMap fun cue => cue.caption.lines

section
variable {segments : List WhisperSegment} {offset : ℚ} {cues : List SrtCue}

theorem plain_spokenCues (h : ∀ segment ∈ segments, SingleLine (strip segment.text).toList) :
    ∀ cue ∈ spokenCues segments, PlainLine cue.text := by
  intro cue hcue
  obtain ⟨⟨segment, index⟩, he, hcue⟩ := List.mem_filterMap.1 hcue
  have hcaption : captionOf index segment = some cue.caption := by
    rw [captionOf_eq, hcue, Option.map_some]
  exact (plain_captionOf (h segment (List.fst_mem_of_mem_zipIdx he)) hcaption).text

theorem plain_writtenCues (h : ∀ segment ∈ segments, SingleLine (strip segment.text).toList) :
    ∀ cue ∈ writtenCues segments offset, PlainLine cue.text := by
  rw [writtenCues]
  split
  · exact plain_spokenCues h
  · rw [List.forall_mem_map]
    exact fun cue hcue => (plain_spokenCues h cue hcue).shifted offset

theorem fileLines_eq (cues : List SrtCue) :
    fileLines cues = (cues.map SrtCue.caption).flatMap Caption.lines := by
  rw [fileLines, List.flatMap_map]

theorem single_fileLines (h : ∀ cue ∈ cues, PlainLine cue.text) :
    ∀ line ∈ fileLines cues, SingleLine line := by
  rw [fileLines_eq]
  apply single_captions
  rw [List.forall_mem_map]
  exact fun cue hcue => plain_cue (h cue hcue)

theorem map_shiftedLine_fileLines (offset : ℚ) (cues : List SrtCue) :
    (fileLines cues).map (shiftedLine offset) = fileLines (cues.map (SrtCue.shift offset)) := by
  rw [fileLines, List.map_flatMap, fileLines, List.flatMap_map]
  exact List.flatMap_congr fun cue _ => cue.map_shiftedLine_lines offset

theorem writeSegments_cues (segments : List WhisperSegment) :
    (writeSegments segments).toList = writeLines (fileLines (spokenCues segments)) := by
  have hcaptions : captionsOf segments = (spokenCues segments).map SrtCue.caption := by
    rw [captionsOf, spokenCues, List.map_filterMap]
    exact List.filterMap_congr fun e _ => captionOf_eq e.2 e.1
  rw [writeSegments_eq, hcaptions, fileLines_eq]

/-- The file of the writer is that of its cues; without any a shift leaves an empty line. -/
theorem generate_cues (h : ∀ segment ∈ segments, SingleLine (strip segment.text).toList) :
    ∃ file, generateWhisperSubtitles segments offset = .ok file ∧
      (file.toList = writeLines (fileLines (writtenCues segments offset)) ∨
        writtenCues segments offset = [] ∧ file.toList = ['\n']) := by
  rw [generateWhisperSubtitles, writtenCues]
  by_cases hsmall : |offset| < 1 / 1000000
  · rw [if_pos hsmall]
    exact ⟨_, if_pos hsmall, .inl (writeSegments_cues segments)⟩
  · rw [if_neg hsmall, shiftSrtTimestamps_eq (not_lt.1 hsmall), writeSegments_cues,
      splitlines_writeLines (single_fileLines (plain_spokenCues h)), map_shiftedLine_fileLines]
    refine ⟨_, rfl, ?_⟩
    rw [String.toList_ofList]
    cases hcues : (spokenCues segments).map (SrtCue.shift offset) with
    | nil => exact .inr ⟨rfl, rfl⟩
    | cons cue cues => exact .inl (intercalate_newline (List.cons_ne_nil _ _))

end

-- lines and blocks

theorem filter_writeLines (p : Char → Bool) (hp : p '\n' = true) (lines : List (List Char)) :
    (writeLines lines).filter p = writeLines (lines.map (List.filter p)) := by
  rw [writeLines, List.filter_flatMap, writeLines, List.flatMap_map]
  apply List.flatMap_congr
  intro line _
  rw [List.filter_append, List.filter_singleton, hp]
  rfl

/-- A text whose first and last lines are plain loses its last newline, and nothing else. -/
theorem stripChars_writeLines {lines : List (List Char)} {first last : List Char}
    (hhead : (lines ++ [last]).head? = some first) (hfirst : PlainLine first) (hlast : PlainLine last) :
    stripChars (writeLines (lines ++ [last])) = writeLines lines ++ last := by
  have hwrite : writeLines (lines ++ [last]) = writeLines lines ++ last ++ ['\n'] := by
    rw [writeLines, List.flatMap_append, List.flatMap_singleton, List.append_assoc, writeLines]
  rw [hwrite, stripChars_append_right (List.all_iff_forall_prop.1 (by decide))]
  apply stripChars_of_trimmed
  constructor
  · intro c hc
    cases lines with
    | nil => exact hlast.trimmed.head c hc
    | cons line lines =>
      obtain rfl := Option.some.inj hhead
      exact hfirst.trimmed.head c (head?_writeLines hfirst.ne_nil hc)
  · intro c hc
    rw [List.getLast?_append_of_ne_nil _ hlast.ne_nil] at hc
    exact hlast.trimmed.last c hc

/-- Blank lines behind the blocks are as good as before them. -/
theorem regroup_blocks (blocks : List (List (List Char))) :
    [] :: blocks.flatMap (fun block => block ++ [[]]) = blocks.flatMap (fun block => [] :: block) ++ [[]] := by
  induction blocks with
  | nil => rfl
  | cons block blocks ih =>
    rw [List.flatMap_cons, List.append_assoc, List.singleton_append, ih, List.flatMap_cons,
      List.append_assoc, List.cons_append]

/-- What is returned for a header and blocks of lines. -/
theorem strip_blocks {header : List Char} {blocks : List (List (List Char))} (hheader : PlainLine header)
    (hblocks : ∀ block ∈ blocks, block ≠ [] ∧ ∀ line ∈ block, PlainLine line) :
    stripChars (['\n'].intercalate (header :: [] :: blocks.flatMap fun block => block ++ [[]])) ++ ['\n'] =
      writeLines (header :: blocks.flatMap fun block => [] :: block) := by
  have hlines : header :: [] :: blocks.flatMap (fun block => block ++ [[]]) =
      (header :: blocks.flatMap fun block => [] :: block) ++ [[]] := by
    rw [regroup_blocks, List.cons_append]
  have hjoined : ['\n'].intercalate (header :: [] :: blocks.flatMap fun block => block ++ [[]]) =
      writeLines (header :: blocks.flatMap fun block => [] :: block) := by
    have hnewline := intercalate_newline (List.cons_ne_nil header ([] ::
      blocks.flatMap fun block => block ++ [[]]))
    rw [hlines, writeLines, List.flatMap_append, List.flatMap_singleton, List.nil_append] at hnewline
    rw [hlines]
    exact List.append_cancel_right hnewline
  have hlast : ∃ init last, (header :: blocks.flatMap fun block => [] :: block) = init ++ [last] ∧
      PlainLine last := by
    rcases List.eq_nil_or_concat' blocks with rfl | ⟨init, block, rfl⟩
    · exact ⟨[], header, rfl, hheader⟩
    · obtain ⟨hne, hplain⟩ := hblocks block (List.mem_append_right _ (List.mem_singleton_self _))
      obtain ⟨lines, last, rfl⟩ := (List.eq_nil_or_concat' block).resolve_left hne
      refine ⟨header :: (init.flatMap fun block => [] :: block) ++ [] :: lines, last, ?_,
        hplain last (List.mem_append_right _ (List.mem_singleton_self _))⟩
      rw [List.flatMap_append, List.flatMap_singleton, List.append_assoc, List.cons_append,
        List.cons_append]
  obtain ⟨init, last, heq, hplain⟩ := hlast
  have hhead : (init ++ [last]).head? = some header := by
    rw [← heq]
    rfl
  rw [hjoined, heq, stripChars_writeLines hhead hheader hplain, List.append_assoc, writeLines,
    writeLines, List.flatMap_append, List.flatMap_singleton]

/-- Blocks of lines that are not blank can be told apart by the blank lines before them. -/
theorem blocks_inj {cues : List α} {f g : α → List (List Char)}
    (hf : ∀ cue ∈ cues, ∀ line ∈ f cue, line ≠ []) (hg : ∀ cue ∈ cues, ∀ line ∈ g cue, line ≠ [])
    (h : cues.flatMap (fun cue => [] :: f cue) = cues.flatMap fun cue => [] :: g cue) :
    ∀ cue ∈ cues, f cue = g cue := by
  have htake (block : List (List Char)) (hblock : ∀ line ∈ block, line ≠ []) (f : α → List (List Char))
      (cues : List α) : (block ++ cues.flatMap fun cue => [] :: f cue).takeWhile (fun line => line ≠ []) =
        block := by
    rw [List.takeWhile_append_of_pos fun line hline => decide_eq_true (hblock line hline)]
    cases cues with
    | nil => rw [List.flatMap_nil, List.takeWhile_nil, List.append_nil]
    | cons cue cues =>
      rw [List.flatMap_cons, List.cons_append, List.takeWhile_cons_of_neg (by decide), List.append_nil]
  induction cues with
  | nil => exact fun _ hcue => absurd hcue List.not_mem_nil
  | cons cue cues ih =>
    rw [List.forall_mem_cons] at hf hg ⊢
    rw [List.flatMap_cons, List.flatMap_cons, List.cons_append, List.cons_append,
      List.cons_inj_right] at h
    have hblock : f cue = g cue := by
      rw [← htake (f cue) hf.1 f cues, h, htake (g cue) hg.1 g cues]
    rw [hblock, List.append_cancel_left_eq] at h
    exact ⟨hblock, ih hf.2 hg.2 h⟩

-- srt_to_vtt

theorem isSpace_takeTimestamp (h : takeTimestamp cs = some (raw, rest)) :
    ∀ c ∈ raw, isSpace c = false := by
  unfold takeTimestamp at h
  split at h
  · obtain ⟨hall, heq⟩ := Option.ite_none_right_eq_some.1 h
    obtain ⟨rfl, rfl⟩ := Prod.mk.inj (Option.some.inj heq)
    have hdecimal {c : Char} (hc : (decimalValue c).isSome = true) : isSpace c = false := by
      obtain ⟨d, hd⟩ := Option.isSome_iff_exists.1 hc
      exact isSpace_decimal hd
    have hcolon : isSpace ':' = false := by decide
    have hcomma : isSpace ',' = false := by decide
    simp only [List.all_cons, List.all_nil, Bool.and_true, Bool.and_eq_true] at hall
    obtain ⟨h₁, h₂, h₃, h₄, h₅, h₆, h₇, h₈, h₉⟩ := hall
    simp only [List.forall_mem_cons]
    exact ⟨hdecimal h₁, hdecimal h₂, hcolon, hdecimal h₃, hdecimal h₄, hcolon, hdecimal h₅, hdecimal h₆,
      hcomma, hdecimal h₇, hdecimal h₈, hdecimal h₉, fun _ h => absurd h List.not_mem_nil⟩
  · cases h

theorem mem_vttTimestamp (h : c ∈ vttTimestamp raw) : c ∈ raw ∨ c = '.' := by
  rcases List.mem_append.1 h with h | h
  · exact .inl (List.mem_of_mem_take h)
  · rcases List.mem_cons.1 h with h | h
    · exact .inr h
    · exact .inl (List.mem_of_mem_drop h)

theorem vttTimestamp_ne_nil (raw : List Char) : vttTimestamp raw ≠ [] :=
  List.append_ne_nil_of_right_ne_nil _ (List.cons_ne_nil _ _)

/-- A line that is kept stays plain. -/
theorem plain_vttLine (h : PlainLine line) (hkept : vttLine line = some kept) : PlainLine kept := by
  rw [vttLine] at hkept
  split at hkept
  · next start finish tail hmatch =>
    obtain rfl := Option.some.inj hkept
    obtain ⟨⟨rest, hstart⟩, rest', hfinish, -⟩ := timestampMatch_parts hmatch
    obtain ⟨-, -, hsuffix⟩ := timestampMatch_spec hmatch
    have hplain {raw rest cs : List Char} (htake : takeTimestamp cs = some (raw, rest)) :
        ∀ c ∈ vttTimestamp raw, isSpace c = false := by
      intro c hc
      rcases mem_vttTimestamp hc with hc | rfl
      · exact isSpace_takeTimestamp htake c hc
      · decide
    apply plain_arrowLine (vttTimestamp_ne_nil _) (vttTimestamp_ne_nil _) (hplain hstart) (hplain hfinish)
    · exact fun c hc => h.single c (hsuffix.subset hc)
    · intro c hc
      apply h.trimmed.last c
      have hne : tail ≠ [] := by
        intro hnil
        rw [hnil] at hc
        cases hc
      obtain ⟨before, hbefore⟩ := hsuffix
      rw [← hbefore, List.getLast?_append_of_ne_nil _ hne]
      exact hc
  · next hmatch =>
    obtain ⟨-, heq⟩ := Option.ite_none_left_eq_some.1 hkept
    obtain rfl := Option.some.inj heq
    exact h

/-- A kept line has no characters but its own and those of an arrow and a point. -/
theorem mem_vttLine (hkept : vttLine line = some kept) (hc : c ∈ kept) :
    c ∈ line ∨ c ∈ ['.', ' ', '-', '>'] := by
  rw [vttLine] at hkept
  split at hkept
  · next start finish tail hmatch =>
    obtain rfl := Option.some.inj hkept
    obtain ⟨⟨rest, hstart⟩, rest', hfinish, hrest⟩ := timestampMatch_parts hmatch
    obtain ⟨hline, -⟩ := takeTimestamp_spec hstart
    obtain ⟨hend, -⟩ := takeTimestamp_spec hfinish
    have harrow : ∀ c ∈ " --> ".toList, c ∈ ['.', ' ', '-', '>'] :=
      List.all_iff_forall_prop.1 (by decide)
    have hpoint {raw : List Char} (hraw : ∀ c ∈ raw, c ∈ line) (hc : c ∈ vttTimestamp raw) :
        c ∈ line ∨ c ∈ ['.', ' ', '-', '>'] := by
      rcases mem_vttTimestamp hc with hc | rfl
      · exact .inl (hraw c hc)
      · exact .inr List.mem_cons_self
    rcases List.mem_append.1 hc with hc | hc
    · rcases List.mem_append.1 hc with hc | hc
      · rcases List.mem_append.1 hc with hc | hc
        · exact hpoint (fun c hc => hline ▸ List.mem_append_left _ hc) hc
        · exact .inr (harrow c hc)
      · exact hpoint (fun c hc => hrest.subset (hend ▸ List.mem_append_left _ hc)) hc
    · exact .inl (hrest.subset (hend ▸ List.mem_append_right _ hc))
  · obtain ⟨-, heq⟩ := Option.ite_none_left_eq_some.1 hkept
    obtain rfl := Option.some.inj heq
    exact .inl hc

section
variable {file : String} {lines : List (List Char)}

theorem srtToVtt_toList (hfile : file.toList = writeLines lines) (h : ∀ line ∈ lines, SingleLine line) :
    (srtToVtt file).toList = stripChars (['\n'].intercalate ("WEBVTT".toList :: [] ::
      (lines.map (List.filter fun c => c ≠ byteOrderMark)).filterMap vttLine)) ++ ['\n'] := by
  have hfiltered : ∀ line ∈ lines.map (List.filter fun c => c ≠ byteOrderMark), SingleLine line := by
    rw [List.forall_mem_map]
    exact fun line hline c hc => h line hline c (List.mem_of_mem_filter hc)
  rw [srtToVtt, hfile, filter_writeLines _ (by decide), splitlines_writeLines hfiltered,
    String.toList_ofList]

/-- No mark is left of any. -/
theorem mark_notMem_srtToVtt (hfile : file.toList = writeLines lines)
    (h : ∀ line ∈ lines, SingleLine line) : byteOrderMark ∉ (srtToVtt file).toList := by
  intro hin
  rw [srtToVtt_toList hfile h] at hin
  have hjoined : byteOrderMark ∈ writeLines ("WEBVTT".toList :: [] ::
      (lines.map (List.filter fun c => c ≠ byteOrderMark)).filterMap vttLine) := by
    rw [← intercalate_newline (List.cons_ne_nil _ _)]
    rcases List.mem_append.1 hin with hin | hin
    · exact List.mem_append_left _ (mem_of_mem_stripChars hin)
    · exact List.mem_append_right _ hin
  obtain ⟨line, hline, hmark⟩ := List.mem_flatMap.1 hjoined
  rcases List.mem_append.1 hmark with hmark | hmark
  · rcases List.mem_cons.1 hline with rfl | hline
    · exact absurd hmark (by decide)
    · rcases List.mem_cons.1 hline with rfl | hline
      · exact absurd hmark List.not_mem_nil
      · obtain ⟨old, hold, hkept⟩ := List.mem_filterMap.1 hline
        obtain ⟨first, -, rfl⟩ := List.mem_map.1 hold
        rcases mem_vttLine hkept hmark with hmark | hmark
        · have hne := List.of_mem_filter hmark
          rw [decide_eq_true_eq] at hne
          exact absurd rfl hne
        · exact absurd hmark (by decide)
  · exact absurd hmark (by decide)

end

/-- The lines that are kept of a cue, before its blank line. -/
def vttBlock (cue : SrtCue) : List (List Char) :=
  [cue.times.line, cue.text].filterMap vttLine

theorem isDigit_decimals {cs : List Char} (hne : cs ≠ []) (h : cs.mapM decimalValue = some ds) :
    isDigit (String.ofList cs) = true := by
  rw [isDigit, String.toList_ofList, Bool.and_eq_true, Bool.not_eq_true', List.isEmpty_eq_false_iff]
  refine ⟨hne, List.all_eq_true.2 fun c hc => ?_⟩
  obtain ⟨d, hd⟩ := decimalValue_of_mem h hc
  rw [isDigitChar, hd, Option.isSome_some, Bool.true_or]

theorem strip_ofList (h : PlainLine cs) : strip (String.ofList cs) = String.ofList cs := by
  rw [strip, String.toList_ofList, stripChars_of_trimmed h.trimmed]

theorem mapM_toString (n : Nat) : ∃ ds, (toString n).toList.mapM decimalValue = some ds := by
  exact ⟨_, mapM_decimalValue fun c hc => isDigit_of_mem_toString hc⟩

theorem vttLine_toString (n : Nat) : vttLine (toString n).toList = none := by
  have hplain := plain_toString n
  obtain ⟨ds, hds⟩ := mapM_toString n
  rw [vttLine, timestampMatch_toString]
  dsimp only
  rw [strip_ofList hplain, if_pos (isDigit_decimals hplain.ne_nil hds)]

theorem filterMap_vttLine_fileLines (cues : List SrtCue) :
    (fileLines cues).filterMap vttLine = (cues.map vttBlock).flatMap fun block => block ++ [[]] := by
  have hblank : vttLine [] = some [] := rfl
  rw [fileLines, List.filterMap_flatMap, List.flatMap_map]
  apply List.flatMap_congr
  intro cue _
  have hlines : cue.caption.lines =
      (toString cue.index).toList :: ([cue.times.line, cue.text] ++ [[]]) := rfl
  rw [hlines, List.filterMap_cons_none (vttLine_toString cue.index), List.filterMap_append, vttBlock,
    List.filterMap_cons_some hblank, List.filterMap_nil]

/-- The line of times in WebVTT. -/
def vttTimes (cue : SrtCue) : List Char :=
  (vttText cue.start ++ " --> " ++ vttText cue.finish).toList

theorem toList_vttText (millis : Nat) : (vttText millis).toList =
    (pad 2 (millis / 3600000)).toList ++ ':' :: ((pad 2 (millis / 60000 % 60)).toList ++ ':' ::
      ((pad 2 (millis / 1000 % 60)).toList ++ '.' :: (pad 3 (millis % 1000)).toList)) := by
  have hcolon : ":".toList = [':'] := rfl
  have hpoint : ".".toList = ['.'] := rfl
  simp only [vttText, String.toList_append, List.append_assoc, hcolon, hpoint, List.cons_append,
    List.nil_append]

theorem vttTimestamp_millisText (h : millis < 360000000) :
    vttTimestamp (millisText millis).toList = (vttText millis).toList := by
  have hlength : ((pad 2 (millis / 3600000)).toList ++ ':' :: ((pad 2 (millis / 60000 % 60)).toList ++
      ':' :: (pad 2 (millis / 1000 % 60)).toList)).length = 8 := by
    rw [List.length_append, List.length_cons, List.length_append, List.length_cons,
      length_pad (by decide) (Nat.div_lt_of_lt_mul h : millis / 3600000 < 10 ^ 2),
      length_pad (by decide) (show millis / 60000 % 60 < 10 ^ 2 by omega),
      length_pad (by decide) (show millis / 1000 % 60 < 10 ^ 2 by omega)]
  have hsplit (point : Char) (rest : List Char) :
      (pad 2 (millis / 3600000)).toList ++ ':' :: ((pad 2 (millis / 60000 % 60)).toList ++ ':' ::
        ((pad 2 (millis / 1000 % 60)).toList ++ point :: rest)) =
      ((pad 2 (millis / 3600000)).toList ++ ':' :: ((pad 2 (millis / 60000 % 60)).toList ++ ':' ::
        (pad 2 (millis / 1000 % 60)).toList)) ++ point :: rest := by
    simp only [List.append_assoc, List.cons_append]
  have hdrop {first rest : List Char} {point : Char} (h : first.length = 8) :
      (first ++ point :: rest).drop 9 = rest := by
    rw [List.append_cons, List.drop_left']
    rw [List.length_append, h, List.length_singleton]
  rw [vttTimestamp, millisText, toList_timestampText, toList_vttText, hsplit, hsplit,
    List.take_left' hlength, hdrop hlength]

theorem comma_notMem_vttTimes (cue : SrtCue) : ',' ∉ vttTimes cue := by
  have hpad (width n : Nat) : ',' ∉ (pad width n).toList := by
    intro h
    exact absurd (isDigit_pad h) (by decide)
  have htext (millis : Nat) : ',' ∉ (vttText millis).toList := by
    rw [toList_vttText]
    simp only [List.mem_append, List.mem_cons, not_or]
    refine ⟨hpad _ _, by decide, hpad _ _, by decide, hpad _ _, by decide, hpad _ _⟩
  rw [vttTimes, String.toList_append, String.toList_append, List.mem_append, List.mem_append, not_or,
    not_or]
  exact ⟨⟨htext _, by decide⟩, htext _⟩

/-- The line of times is always kept, and translated if its hours have two digits. -/
theorem vttLine_times (cue : SrtCue) :
    ∃ kept, vttLine cue.times.line = some kept ∧ (kept = vttTimes cue ↔ cue.Short) := by
  by_cases h : cue.Short
  · refine ⟨vttTimes cue, ?_, iff_of_true rfl h⟩
    rw [vttLine, cue.timestampMatch_short h]
    dsimp only
    rw [vttTimestamp_millisText h.1, vttTimestamp_millisText h.2, List.append_nil, vttTimes,
      String.toList_append, String.toList_append]
  · refine ⟨cue.times.line, ?_, iff_of_false ?_ h⟩
    · have hspace : isDigit (String.ofList cue.times.line) = false := by
        rw [isDigit, String.toList_ofList, Bool.and_eq_false_iff]
        right
        rw [List.all_eq_false, cue.line_eq]
        exact ⟨' ', List.mem_append_right _ List.mem_cons_self, by decide⟩
      rw [vttLine, cue.timestampMatch_long h]
      dsimp only
      rw [strip_ofList cue.plain_times, hspace, if_neg Bool.false_ne_true]
    · intro heq
      have hcomma : ',' ∈ cue.times.line := by
        rw [cue.line_eq, millisText, toList_timestampText]
        simp only [List.mem_append, List.mem_cons, true_or, or_true]
      rw [heq] at hcomma
      exact comma_notMem_vttTimes cue hcomma

theorem mark_notMem_times (cue : SrtCue) : byteOrderMark ∉ cue.times.line := by
  have htext (millis : Nat) : byteOrderMark ∉ (millisText millis).toList := by
    intro h
    rcases mem_millisText h with h | h | h
    · exact absurd h (by decide)
    · exact absurd h (by decide)
    · exact absurd h (by decide)
  rw [cue.line_eq]
  simp only [List.mem_append, List.mem_cons, List.not_mem_nil, or_false, not_or]
  exact ⟨htext _, by decide, by decide, by decide, by decide, by decide, htext _⟩

theorem filter_fileLines {cues : List SrtCue} (h : ∀ cue ∈ cues, byteOrderMark ∉ cue.text) :
    (fileLines cues).map (List.filter fun c => c ≠ byteOrderMark) = fileLines cues := by
  have hkeep {line : List Char} (h : byteOrderMark ∉ line) :
      line.filter (fun c => c ≠ byteOrderMark) = line := by
    rw [List.filter_eq_self]
    intro c hc
    rw [decide_eq_true_eq]
    rintro rfl
    exact h hc
  rw [fileLines, List.map_flatMap]
  apply List.flatMap_congr
  intro cue hcue
  have hindex : byteOrderMark ∉ (toString cue.index).toList := by
    intro hin
    obtain ⟨ds, hds⟩ := mapM_toString cue.index
    exact notMem_of_decimals hds (by decide) hin
  rw [Caption.lines, List.map_cons, List.map_cons, List.map_cons, List.map_singleton]
  dsimp only [SrtCue.caption]
  rw [hkeep hindex, hkeep (mark_notMem_times cue), hkeep (h cue hcue), List.filter_nil]

section
variable {file : String} {cues : List SrtCue} (hfile : file.toList = writeLines (fileLines cues))
  (hplain : ∀ cue ∈ cues, PlainLine cue.text)
include hfile hplain

/-- Without marks every block of the file becomes one of the document. -/
theorem srtToVtt_cues (hmark : ∀ cue ∈ cues, byteOrderMark ∉ cue.text) :
    srtToVtt file = String.ofList (writeLines ("WEBVTT".toList ::
      cues.flatMap fun cue => [] :: vttBlock cue)) := by
  have hheader : PlainLine "WEBVTT".toList := by
    refine ⟨by decide, ⟨?_, ?_⟩, ?_⟩
    · rintro c ⟨⟩
      decide
    · rintro c ⟨⟩
      decide
    · decide
  have hblocks : ∀ block ∈ cues.map vttBlock, block ≠ [] ∧ ∀ line ∈ block, PlainLine line := by
    rw [List.forall_mem_map]
    intro cue hcue
    constructor
    · obtain ⟨kept, hkept, -⟩ := vttLine_times cue
      rw [vttBlock, List.filterMap_cons_some hkept]
      exact List.cons_ne_nil _ _
    · intro line hline
      obtain ⟨old, hold, hkept⟩ := List.mem_filterMap.1 hline
      apply plain_vttLine _ hkept
      rcases List.mem_cons.1 hold with hold | hold
      · rw [hold]
        exact cue.plain_times
      · rw [List.mem_singleton.1 hold]
        exact hplain cue hcue
  rw [← String.toList_inj, String.toList_ofList, srtToVtt_toList hfile (single_fileLines hplain),
    filter_fileLines hmark, filterMap_vttLine_fileLines, strip_blocks hheader hblocks, List.flatMap_map]

/-- What is spoken, if all times are skipped. -/
theorem spokenLines_cues (hshort : ∀ cue ∈ cues, cue.Short) :
    spokenLines file = (cues.map SrtCue.text).filter fun text => !isMetadata text := by
  rw [spokenLines, hfile, splitlines_writeLines (single_fileLines hplain)]
  clear hfile
  induction cues with
  | nil => rfl
  | cons cue cues ih =>
    rw [List.forall_mem_cons] at hplain hshort
    have hplainIndex := plain_toString cue.index
    have hindex : isMetadata (toString cue.index).toList = true := by
      obtain ⟨ds, hds⟩ := mapM_toString cue.index
      have hall : ((toString cue.index).toList.all fun c => (decimalValue c).isSome) = true := by
        rw [List.all_eq_true]
        intro c hc
        obtain ⟨d, hd⟩ := decimalValue_of_mem hds hc
        rw [hd, Option.isSome_some]
      rw [isMetadata, hall, List.isEmpty_eq_false_iff.2 hplainIndex.ne_nil]
      rfl
    have htimes := cue.isMetadata_times.2 hshort.1
    have htext : (!cue.text.isEmpty && !isMetadata cue.text) = !isMetadata cue.text := by
      rw [List.isEmpty_eq_false_iff.2 hplain.1.ne_nil, Bool.not_false, Bool.true_and]
    have hlines : fileLines (cue :: cues) = (toString cue.index).toList :: cue.times.line :: cue.text ::
        [] :: fileLines cues := rfl
    rw [hlines, List.map_cons, List.map_cons, List.map_cons, List.map_cons,
      stripChars_of_trimmed hplainIndex.trimmed, stripChars_of_trimmed cue.plain_times.trimmed,
      stripChars_of_trimmed hplain.1.trimmed, List.filter_cons, hindex, Bool.not_true, Bool.and_false,
      if_neg Bool.false_ne_true, List.filter_cons, htimes, Bool.not_true, Bool.and_false,
      if_neg Bool.false_ne_true, List.filter_cons, htext, List.filter_cons, ih hplain.2 hshort.2,
      List.map_cons, List.filter_cons]
    rfl

end

-- a joined text is shorter without one of its parts

theorem length_join {parts : List (List Char)} (h : parts ≠ []) :
    ([' '].intercalate parts).length + 1 = (parts.map fun part => part.length + 1).sum := by
  induction parts with
  | nil => exact absurd rfl h
  | cons part parts ih =>
    cases parts with
    | nil => rw [List.intercalate_singleton, List.map_singleton, List.sum_singleton]
    | cons next parts =>
      rw [List.intercalate_cons_cons, List.length_append, List.length_append, List.length_singleton,
        Nat.add_assoc, ih (List.cons_ne_nil _ _)]
      rfl

theorem sum_filter_le (p : List Char → Bool) (parts : List (List Char)) :
    ((parts.filter p).map fun part => part.length + 1).sum ≤
      (parts.map fun part => part.length + 1).sum := by
  induction parts with
  | nil => exact le_rfl
  | cons part parts ih =>
    rw [List.map_cons, List.sum_cons]
    by_cases hp : p part = true
    · rw [List.filter_cons_of_pos hp, List.map_cons, List.sum_cons]
      exact Nat.add_le_add_left ih _
    · rw [List.filter_cons_of_neg hp]
      exact ih.trans (Nat.le_add_left _ _)

theorem all_of_sum_filter {p : List Char → Bool} {parts : List (List Char)}
    (h : ((parts.filter p).map fun part => part.length + 1).sum =
      (parts.map fun part => part.length + 1).sum) : ∀ part ∈ parts, p part = true := by
  induction parts with
  | nil => exact fun _ hpart => absurd hpart List.not_mem_nil
  | cons part parts ih =>
    rw [List.map_cons, List.sum_cons] at h
    have hle := sum_filter_le p parts
    by_cases hp : p part = true
    · rw [List.filter_cons_of_pos hp, List.map_cons, List.sum_cons, Nat.add_left_cancel_iff] at h
      rw [List.forall_mem_cons]
      exact ⟨hp, ih h⟩
    · rw [List.filter_cons_of_neg hp] at h
      omega

theorem all_of_join_filter {p : List Char → Bool} {parts : List (List Char)}
    (hne : ∀ part ∈ parts, part ≠ [])
    (h : [' '].intercalate (parts.filter p) = [' '].intercalate parts) : ∀ part ∈ parts, p part = true := by
  by_cases hnil : parts = []
  · rw [hnil]
    exact fun _ hpart => absurd hpart List.not_mem_nil
  · have hlength := length_join hnil
    apply all_of_sum_filter
    by_cases hfilter : parts.filter p = []
    · obtain ⟨part, rest, rfl⟩ := List.exists_cons_of_ne_nil hnil
      rw [hfilter] at h
      rw [← h, List.map_cons, List.sum_cons] at hlength
      have hpos := List.length_pos_iff.2 (hne part List.mem_cons_self)
      rw [List.intercalate_nil, List.length_nil] at hlength
      omega
    · rw [← length_join hfilter, h, hlength]

theorem plain_vttTimes (cue : SrtCue) : PlainLine (vttTimes cue) := by
  have hspace (millis : Nat) : ∀ c ∈ (vttText millis).toList, isSpace c = false := by
    have hpad (width n : Nat) : ∀ c ∈ (pad width n).toList, isSpace c = false :=
      fun c hc => isSpace_decimal (decimalValue_digit (isDigit_pad hc))
    have hcolon : isSpace ':' = false := by decide
    have hpoint : isSpace '.' = false := by decide
    rw [toList_vttText]
    simp only [List.forall_mem_append, List.forall_mem_cons]
    exact ⟨hpad _ _, hcolon, hpad _ _, hcolon, hpad _ _, hpoint, hpad _ _⟩
  have hne (millis : Nat) : (vttText millis).toList ≠ [] := by
    rw [toList_vttText]
    exact List.append_ne_nil_of_left_ne_nil (pad_ne_nil _ _) _
  have hline := plain_arrowLine (hne cue.start) (hne cue.finish) (hspace _) (hspace _) singleLine_nil
    fun _ hc => nomatch hc
  rwa [List.append_nil, ← String.toList_append, ← String.toList_append] at hline

theorem vttLine_of_readable {cue : SrtCue} (h : cue.Readable) (hplain : PlainLine cue.text) :
    vttLine cue.text = some cue.text := by
  rw [vttLine]
  cases hmatch : timestampMatch cue.text with
  | none =>
    dsimp only
    rw [strip_ofList hplain, h.not_digits, if_neg Bool.false_ne_true]
  | some groups =>
    have hmetadata := h.not_metadata
    rw [isMetadata_of_match hmatch] at hmetadata
    cases hmetadata

/-- A text of digits is dropped. -/
theorem vttLine_digits {text : List Char} (hplain : PlainLine text)
    (h : isDigit (String.ofList text) = true) : vttLine text = none := by
  have hcolon : ':' ∉ text := by
    intro hin
    rw [isDigit, String.toList_ofList, Bool.and_eq_true, List.all_eq_true] at h
    exact absurd (h.2 ':' hin) (by decide)
  rw [vttLine, timestampMatch_of_colon hcolon]
  dsimp only
  rw [strip_ofList hplain, if_pos h]

theorem vttDocument_eq (cues : List SrtCue) : vttDocument cues =
    String.ofList (writeLines ("WEBVTT".toList :: cues.flatMap fun cue => [[], vttTimes cue, cue.text])) :=
  rfl

section
variable {file : String} {cues : List SrtCue} (hplain : ∀ cue ∈ cues, PlainLine cue.text)
include hplain

/-- Two documents are the same if their blocks are. -/
theorem vttBlocks_inj (h : writeLines ("WEBVTT".toList :: cues.flatMap fun cue => [] :: vttBlock cue) =
      writeLines ("WEBVTT".toList :: cues.flatMap fun cue => [[], vttTimes cue, cue.text])) :
    ∀ cue ∈ cues, vttBlock cue = [vttTimes cue, cue.text] := by
  have hkept : ∀ cue ∈ cues, ∀ line ∈ vttBlock cue, PlainLine line := by
    intro cue hcue line hline
    obtain ⟨old, hold, hkept⟩ := List.mem_filterMap.1 hline
    apply plain_vttLine _ hkept
    rcases List.mem_cons.1 hold with hold | hold
    · rw [hold]
      exact cue.plain_times
    · rw [List.mem_singleton.1 hold]
      exact hplain cue hcue
  have hshown : ∀ cue ∈ cues, ∀ line ∈ [vttTimes cue, cue.text], PlainLine line := by
    intro cue hcue line hline
    rcases List.mem_cons.1 hline with hline | hline
    · rw [hline]
      exact plain_vttTimes cue
    · rw [List.mem_singleton.1 hline]
      exact hplain cue hcue
  have hsingle {f : SrtCue → List (List Char)} (hf : ∀ cue ∈ cues, ∀ line ∈ f cue, PlainLine line) :
      ∀ line ∈ "WEBVTT".toList :: cues.flatMap fun cue => [] :: f cue, SingleLine line := by
    rw [List.forall_mem_cons]
    constructor
    · decide
    · intro line hline
      obtain ⟨cue, hcue, hline⟩ := List.mem_flatMap.1 hline
      rcases List.mem_cons.1 hline with rfl | hline
      · exact singleLine_nil
      · exact (hf cue hcue line hline).single
  have hlines := congrArg splitlines h
  rw [splitlines_writeLines (hsingle hkept), splitlines_writeLines (hsingle hshown),
    List.cons_inj_right] at hlines
  exact blocks_inj (fun cue hcue line hline => (hkept cue hcue line hline).ne_nil)
    (fun cue hcue line hline => (hshown cue hcue line hline).ne_nil) hlines

theorem readable_of_losesNothing (hfile : file.toList = writeLines (fileLines cues))
    (h : LosesNothing file cues) : ∀ cue ∈ cues, cue.Readable := by
  obtain ⟨hvtt, htranscript⟩ := h
  have hmark : ∀ cue ∈ cues, byteOrderMark ∉ cue.text := by
    intro cue hcue hin
    have hnone := mark_notMem_srtToVtt hfile (single_fileLines hplain)
    rw [hvtt, vttDocument_eq, String.toList_ofList] at hnone
    apply hnone
    apply List.mem_flatMap.2
    refine ⟨cue.text, List.mem_cons_of_mem _ (List.mem_flatMap.2 ⟨cue, hcue, ?_⟩),
      List.mem_append_left _ hin⟩
    exact List.mem_cons_of_mem _ (List.mem_cons_of_mem _ List.mem_cons_self)
  rw [srtToVtt_cues hfile hplain hmark, vttDocument_eq, String.ofList_inj] at hvtt
  have hblocks := vttBlocks_inj hplain hvtt
  have hkept : ∀ cue ∈ cues, cue.Short ∧ vttLine cue.text = some cue.text := by
    intro cue hcue
    have hblock := hblocks cue hcue
    obtain ⟨kept, hkept, hshort⟩ := vttLine_times cue
    rw [vttBlock, List.filterMap_cons_some hkept] at hblock
    obtain ⟨htimes, htext⟩ := List.cons.inj hblock
    refine ⟨hshort.1 htimes, ?_⟩
    cases hline : vttLine cue.text with
    | none =>
      rw [List.filterMap_cons_none hline] at htext
      cases htext
    | some line =>
      rw [List.filterMap_cons_some hline] at htext
      rw [(List.cons.inj htext).1]
  rw [transcriptText, spokenLines_cues hfile hplain fun cue hcue => (hkept cue hcue).1,
    String.ofList_inj] at htranscript
  have hspoken := all_of_join_filter (by
    rw [List.forall_mem_map]
    exact fun cue hcue => (hplain cue hcue).ne_nil) htranscript
  rw [List.forall_mem_map] at hspoken
  intro cue hcue
  obtain ⟨hshort, hline⟩ := hkept cue hcue
  refine ⟨hshort, hmark cue hcue, ?_, ?_⟩
  · rw [Bool.eq_false_iff]
    intro hdigits
    rw [vttLine_digits (hplain cue hcue) hdigits] at hline
    cases hline
  · have hnot := hspoken cue hcue
    rwa [Bool.not_eq_true'] at hnot

theorem losesNothing_of_readable (hfile : file.toList = writeLines (fileLines cues))
    (h : ∀ cue ∈ cues, cue.Readable) : LosesNothing file cues := by
  constructor
  · have hblocks : (cues.flatMap fun cue => [] :: vttBlock cue) =
        cues.flatMap fun cue => [[], vttTimes cue, cue.text] := by
      apply List.flatMap_congr
      intro cue hcue
      obtain ⟨kept, hkept, hshort⟩ := vttLine_times cue
      rw [vttBlock, List.filterMap_cons_some hkept, hshort.2 (h cue hcue).short,
        List.filterMap_cons_some (vttLine_of_readable (h cue hcue) (hplain cue hcue)), List.filterMap_nil]
    rw [srtToVtt_cues hfile hplain fun cue hcue => (h cue hcue).no_mark, vttDocument_eq, hblocks]
  · have hspoken : ((cues.map SrtCue.text).filter fun text => !isMetadata text) = cues.map SrtCue.text := by
      rw [List.filter_eq_self, List.forall_mem_map]
      intro cue hcue
      rw [(h cue hcue).not_metadata]
      rfl
    rw [transcriptText, spokenLines_cues hfile hplain fun cue hcue => (h cue hcue).short, hspoken]

end

/-- Both readers have all cues of the file, and nothing else, exactly when each of them has hours of
two digits and a text that looks neither like digits nor like times and has no byte order mark. -/
theorem subtitle_readers_iff (segments : List WhisperSegment) (offset : ℚ)
    (h : ∀ segment ∈ segments, SingleLine (strip segment.text).toList) :
    ∃ file, generateWhisperSubtitles segments offset = .ok file ∧
      (LosesNothing file (writtenCues segments offset) ↔
        ∀ cue ∈ writtenCues segments offset, cue.Readable) := by
  have hplain : ∀ cue ∈ writtenCues segments offset, PlainLine cue.text := plain_writtenCues h
  obtain ⟨file, hok, hfile⟩ : ∃ file, generateWhisperSubtitles segments offset = .ok file ∧ _ :=
    generate_cues h
  rcases hfile with hfile | ⟨hnil, hfile⟩
  · exact ⟨file, hok, readable_of_losesNothing hplain hfile, losesNothing_of_readable hplain hfile⟩
  · refine ⟨file, hok, iff_of_true ?_ ?_⟩
    · have hblank : file = "\n" := String.toList_inj.1 hfile
      rw [hblank, hnil]
      constructor
      · decide +kernel
      · decide +kernel
    · rw [hnil]
      exact fun _ hcue => absurd hcue List.not_mem_nil

theorem subtitle_readers_hi : ∃ file, generateWhisperSubtitles [⟨some 0, some 1, " hi"⟩] (3 / 2) = .ok file ∧
    LosesNothing file (writtenCues [⟨some 0, some 1, " hi"⟩] (3 / 2)) := by
  have hsingle : ∀ segment ∈ [(⟨some 0, some 1, " hi"⟩ : WhisperSegment)],
      SingleLine (strip segment.text).toList := by
    rw [List.forall_mem_singleton]
    decide +kernel
  have hcues : writtenCues [⟨some 0, some 1, " hi"⟩] (3 / 2) = [⟨1, 1500, 2500, ['h', 'i']⟩] := by
    decide +kernel
  obtain ⟨file, hok, hiff⟩ := subtitle_readers_iff [⟨some 0, some 1, " hi"⟩] (3 / 2) hsingle
  refine ⟨file, hok, hiff.2 ?_⟩
  rw [hcues, List.forall_mem_singleton]
  exact ⟨by decide, by decide, by decide, by decide⟩

/-- A caption that is a number is taken for an index. -/
theorem number_caption_is_lost : ¬ ∀ (segments : List WhisperSegment) (offset : ℚ) (file : String),
    (∀ segment ∈ segments, SingleLine segment.text.toList ∧ 0 ≤ segment.start.getD 0 ∧
      0 ≤ segment.finish.getD 0) →
    generateWhisperSubtitles segments offset = .ok file →
      LosesNothing file (writtenCues segments offset) := by
  intro h
  have hsegments : ∀ segment ∈ [(⟨some 0, some 1, "42"⟩ : WhisperSegment)],
      SingleLine segment.text.toList ∧ 0 ≤ segment.start.getD 0 ∧ 0 ≤ segment.finish.getD 0 := by
    rw [List.forall_mem_singleton]
    decide +kernel
  have hfile : generateWhisperSubtitles [⟨some 0, some 1, "42"⟩] 0 =
      .ok (writeSegments [⟨some 0, some 1, "42"⟩]) := if_pos (by norm_num)
  have hlost := (h _ _ _ hsegments hfile).2
  revert hlost
  decide +kernel

end GetOffline
