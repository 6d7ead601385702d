import GetOffline.SubtitleLines
import GetOffline.PythonStrip

set_option autoImplicit true

namespace GetOffline
open Python

-- workers/pdf_ocr.py

def maxSentenceChars : Nat := 800

/-- `.replace("\r\n", "\n").replace("\r", "\n")`. -/
def unifyNewlines : List Char → List Char
  | [] => []
  | '\r' :: '\n' :: cs => '\n' :: unifyNewlines cs
  | c :: cs => (if c = '\r' then '\n' else c) :: unifyNewlines cs

/-- The characters of `[ \t\f\v]`. -/
def isBlankChar (c : Char) : Bool :=
  c = ' ' || c = '\t' || c = '\x0c' || c = '\x0b'

/-- `re.sub(r"[ \t\f\v]+", " ", text)`, from inside a run or outside. -/
def collapseBlanks (inRun : Bool) : List Char → List Char
  | [] => []
  | c :: cs =>
    if isBlankChar c then (if inRun then collapseBlanks true cs else ' ' :: collapseBlanks true cs)
    else c :: collapseBlanks false cs

/-- `re.sub(r" *\n *", "\n", text)`, from behind a newline and its spaces or elsewhere. -/
def trimNewlines (afterNewline : Bool) : List Char → List Char
  | [] => []
  | c :: cs =>
    if c = '\n' then '\n' :: trimNewlines true cs
    else if c = ' ' && (afterNewline || (cs.dropWhile (· = ' ')).head? = some '\n') then trimNewlines afterNewline cs
    else c :: trimNewlines false cs

def cleanText (value : String) : String :=
  String.ofList (stripChars (trimNewlines false (collapseBlanks false (unifyNewlines value.toList))))

/-- `_HARD_LINE_START_RE.match(line)`. -/
def startsHardLine (line : List Char) : Bool :=
  let afterSign (cs : List Char) : Bool :=
    match cs with
    | c :: d :: _ => (c = '.' || c = ')') && isSpace d
    | _ => false
  match line with
  | c :: d :: cs =>
    c ∈ ['-', '*', '•', '▪', '◦', '‣'] && isSpace d ||
      (decimalValue c).isSome && afterSign ((d :: cs).dropWhile fun e => (decimalValue e).isSome) ||
      'A' ≤ c && c ≤ 'Z' && afterSign (d :: cs)
  | _ => false

/-- `_SENTENCE_BOUNDARY_RE` matches between the character and what follows. -/
def isSentenceBoundary (before : Char) (after : List Char) : Bool :=
  let spaces := after.dropWhile (· ∈ ['"', '\'', '”', '’', '»', ')'])
  let next := (spaces.dropWhile isSpace).dropWhile (· ∈ ['"', '\'', '“', '‘', '«', '(', '['])
  before ∈ ['.', '!', '?'] && spaces.head?.any isSpace &&
    next.head?.any fun c => 'A' ≤ c && c ≤ 'Z' || '0' ≤ c && c ≤ '9'

/-- `_SENTENCE_BOUNDARY_RE.split(text)`. -/
def splitBoundaries : List Char → List (List Char)
  | [] => [[]]
  | c :: cs =>
    match splitBoundaries cs with
    | [] => [[c]]
    | piece :: pieces =>
      if isSentenceBoundary c cs then [c] :: piece :: pieces else (c :: piece) :: pieces

/-- `" ".join(lines)`. -/
def joinLines (lines : List (List Char)) : List Char :=
  [' '].intercalate lines

/-- The variables of the loop that groups the lines. -/
structure LineGroups where
  lineGroups : List (List Char)
  currentLines : List (List Char)
  currentLength : Nat

namespace LineGroups

def flush (s : LineGroups) : LineGroups where
  lineGroups := s.lineGroups ++ [joinLines s.currentLines]
  currentLines := []
  currentLength := 0

def push (line : List Char) (s : LineGroups) : LineGroups :=
  { s with
    currentLines := s.currentLines ++ [line]
    currentLength := s.currentLength + (line.length + if s.currentLength = 0 then 0 else 1) }

/-- The line begins a new group. -/
def breaksBefore (line : List Char) (s : LineGroups) : Bool :=
  s.currentLines ≠ [] &&
    (startsHardLine line || maxSentenceChars < s.currentLength + line.length + 1)

/-- A turn of the loop. -/
def add (s : LineGroups) (line : List Char) : LineGroups :=
  let pushed := (if s.breaksBefore line then s.flush else s).push line
  if line.getLast?.any (· ∈ ['.', '!', '?']) then pushed.flush else pushed

end LineGroups

def groupLines (lines : List (List Char)) : List (List Char) :=
  let s := lines.foldl LineGroups.add ⟨[], [], 0⟩
  if s.currentLines = [] then s.lineGroups else s.flush.lineGroups

/-- The texts without white space at their ends that are not blank. -/
def strippedTexts (texts : List (List Char)) : List (List Char) :=
  (texts.map stripChars).filter (· ≠ [])

def splitSentences (text : String) : List String :=
  let cleanedText := cleanText text
  if cleanedText = "" then []
  else
    let lines := strippedTexts (splitlines cleanedText.toList)
    (groupLines lines).flatMap fun lineGroup => (strippedTexts (splitBoundaries lineGroup)).map String.ofList

example : splitSentences "Hi. \tHe\r\nsaid \"No.\" (Yes)\n- ok" = ["Hi.", "He said \"No.", "\" (Yes)", "- ok"] := by
  decide +kernel

-- Nothing that can be seen is lost

/-- What is left when all white space is removed. -/
def visible (cs : List Char) : List Char :=
  cs.filter fun c => !isSpace c

@[simp] theorem visible_nil : visible [] = [] := rfl

@[simp] theorem visible_append (cs ds : List Char) : visible (cs ++ ds) = visible cs ++ visible ds :=
  List.filter_append ..

theorem visible_cons_of_space (h : isSpace c = true) (cs : List Char) : visible (c :: cs) = visible cs :=
  List.filter_cons_of_neg (by simp [h])

theorem visible_cons_congr (c : Char) (h : visible cs = visible ds) : visible (c :: cs) = visible (c :: ds) := by
  rw [visible, visible] at h
  rw [visible, visible, List.filter_cons, List.filter_cons, h]

theorem visible_unifyNewlines (cs : List Char) : visible (unifyNewlines cs) = visible cs := by
  induction cs using unifyNewlines.induct with
  | case1 => rfl
  | case2 cs ih =>
    rw [unifyNewlines, visible_cons_of_space (by decide), visible_cons_of_space (by decide),
      visible_cons_of_space (by decide), ih]
  | case3 c cs hcrlf ih =>
    rw [unifyNewlines]
    · split
      · next hreturn => rw [hreturn, visible_cons_of_space (by decide), visible_cons_of_space (by decide), ih]
      · exact visible_cons_congr c ih
    · exact hcrlf

theorem isSpace_of_isBlankChar (h : isBlankChar c = true) : isSpace c = true := by
  simp only [isBlankChar, Bool.or_eq_true, decide_eq_true_eq] at h
  rcases h with ((rfl | rfl) | rfl) | rfl <;> decide

theorem visible_collapseBlanks (inRun : Bool) (cs : List Char) : visible (collapseBlanks inRun cs) = visible cs := by
  induction cs generalizing inRun with
  | nil => rfl
  | cons c cs ih =>
    rw [collapseBlanks]
    split
    · next hblank =>
      rw [visible_cons_of_space (isSpace_of_isBlankChar hblank)]
      cases inRun with
      | false => exact (visible_cons_of_space (by decide) _).trans (ih true)
      | true => exact ih true
    · exact visible_cons_congr c (ih false)

theorem visible_trimNewlines (afterNewline : Bool) (cs : List Char) :
    visible (trimNewlines afterNewline cs) = visible cs := by
  induction cs generalizing afterNewline with
  | nil => rfl
  | cons c cs ih =>
    rw [trimNewlines]
    split
    · next hnewline =>
      rw [hnewline]
      exact visible_cons_congr '\n' (ih true)
    · split
      · next hspace =>
        rw [Bool.and_eq_true, decide_eq_true_eq] at hspace
        rw [hspace.1, visible_cons_of_space (by decide), ih]
      · exact visible_cons_congr c (ih false)

theorem visible_dropWhile (cs : List Char) : visible (cs.dropWhile isSpace) = visible cs := by
  induction cs with
  | nil => rfl
  | cons c cs ih =>
    rw [List.dropWhile_cons]
    split
    · next hspace => rw [visible_cons_of_space hspace, ih]
    · rfl

theorem visible_reverse (cs : List Char) : visible cs.reverse = (visible cs).reverse :=
  List.filter_reverse ..

theorem visible_stripChars (cs : List Char) : visible (stripChars cs) = visible cs := by
  rw [stripChars, visible_reverse, visible_dropWhile, visible_reverse, List.reverse_reverse, visible_dropWhile]

theorem visible_cleanText (value : String) : visible (cleanText value).toList = visible value.toList := by
  rw [cleanText, String.toList_ofList, visible_stripChars, visible_trimNewlines, visible_collapseBlanks,
    visible_unifyNewlines]

theorem isSpace_of_isLineBreak (h : isLineBreak c = true) : isSpace c = true := by
  by_contra hspace
  rw [isLineBreak_of_isSpace (eq_false_of_ne_true hspace)] at h
  cases h

theorem visible_flatten_splitlines (cs : List Char) : visible (splitlines cs).flatten = visible cs := by
  induction cs using splitlines.induct with
  | case1 => rfl
  | case2 cs ih =>
    rw [splitlines, List.flatten_cons, List.nil_append, ih, visible_cons_of_space (by decide),
      visible_cons_of_space (by decide)]
  | case3 c cs hcrlf hbreak ih =>
    rw [splitlines, if_pos hbreak, List.flatten_cons, List.nil_append, ih,
      visible_cons_of_space (isSpace_of_isLineBreak hbreak)]
    exact hcrlf
  | case4 c cs hcrlf hbreak hnil ih =>
    rw [splitlines, if_neg hbreak, hnil]
    · rw [hnil] at ih
      exact visible_cons_congr c ih
    · exact hcrlf
  | case5 c cs hcrlf hbreak line lines hcons ih =>
    rw [splitlines, if_neg hbreak, hcons]
    · rw [hcons] at ih
      exact visible_cons_congr c ih
    · exact hcrlf

theorem visible_flatten_strippedTexts (texts : List (List Char)) :
    visible (strippedTexts texts).flatten = visible texts.flatten := by
  rw [strippedTexts, List.flatten_filter_ne_nil]
  induction texts with
  | nil => rfl
  | cons text texts ih =>
    simp only [List.map_cons, List.flatten_cons, visible_append, visible_stripChars, ih]

theorem flatten_splitBoundaries (cs : List Char) : (splitBoundaries cs).flatten = cs := by
  induction cs with
  | nil => rfl
  | cons c cs ih =>
    rw [splitBoundaries]
    cases hpieces : splitBoundaries cs with
    | nil =>
      rw [hpieces] at ih
      exact congrArg (c :: ·) ih
    | cons piece pieces =>
      rw [hpieces] at ih
      dsimp only
      split
      · exact congrArg (c :: ·) ih
      · exact congrArg (c :: ·) ih

-- The groups of lines

theorem joinLines_append (h : lines ≠ []) (line : List Char) :
    joinLines (lines ++ [line]) = joinLines lines ++ ' ' :: line := by
  induction lines with
  | nil => exact absurd rfl h
  | cons first rest ih =>
    cases rest with
    | nil => simp [joinLines, List.intercalate_cons_cons]
    | cons second rest =>
      have htail := ih (List.cons_ne_nil _ _)
      simp only [joinLines, List.cons_append] at htail ⊢
      rw [List.intercalate_cons_cons, htail, List.intercalate_cons_cons]
      simp only [List.append_assoc]

namespace LineGroups

/-- What the loop knows after the lines: a group is short or a single line, and the running length is that of
the lines joined. -/
structure Sound (lines : List (List Char)) (s : LineGroups) : Prop where
  nonempty : ∀ line ∈ s.currentLines, line ≠ []
  length : s.currentLength = (joinLines s.currentLines).length
  visible : visible (s.lineGroups.flatten ++ joinLines s.currentLines) = visible lines.flatten
  groups : ∀ group ∈ s.lineGroups, group.length ≤ maxSentenceChars ∨ group ∈ lines
  current : s.currentLength ≤ maxSentenceChars ∨ ∃ line ∈ lines, s.currentLines = [line]

theorem sound_nil : Sound [] ⟨[], [], 0⟩ where
  nonempty := nofun
  length := rfl
  visible := rfl
  groups := nofun
  current := .inl (Nat.zero_le _)

theorem Sound.flush (h : Sound lines s) : Sound lines s.flush where
  nonempty := nofun
  length := rfl
  visible := by
    rw [LineGroups.flush, List.flatten_append, List.flatten_singleton, ← h.visible]
    exact congrArg GetOffline.visible (List.append_nil _)
  groups := by
    intro group hgroup
    rcases List.mem_append.1 hgroup with hearlier | hlast
    · exact h.groups group hearlier
    · rw [List.mem_singleton.1 hlast]
      rcases h.current with hshort | ⟨line, hline, hcurrent⟩
      · exact .inl (h.length ▸ hshort)
      · rw [hcurrent, joinLines, List.intercalate_singleton]
        exact .inr hline
  current := .inl (Nat.zero_le _)

/-- A line may be put into an empty group or where it fits. -/
theorem Sound.push (h : Sound lines s) (hline : line ≠ [])
    (hfits : s.currentLines = [] ∨ s.currentLength + line.length + 1 ≤ maxSentenceChars) :
    Sound (lines ++ [line]) (s.push line) := by
  have hgroups : ∀ group ∈ s.lineGroups, group.length ≤ maxSentenceChars ∨ group ∈ lines ++ [line] :=
    fun group hgroup => (h.groups group hgroup).imp_right (List.mem_append_left _)
  have hmem : line ∈ lines ++ [line] := List.mem_append_right _ (List.mem_singleton_self _)
  by_cases hcurrent : s.currentLines = []
  · have hzero : s.currentLength = 0 := by rw [h.length, hcurrent]; rfl
    have hvisible := h.visible
    constructor
    · simpa [LineGroups.push, hcurrent] using hline
    · simp [LineGroups.push, hcurrent, hzero, joinLines]
    · simp only [hcurrent, visible_append] at hvisible
      simp only [LineGroups.push, hcurrent, visible_append, List.flatten_append, List.flatten_singleton, ← hvisible]
      simp [joinLines]
    · exact hgroups
    · exact .inr ⟨line, hmem, by rw [LineGroups.push, hcurrent]; rfl⟩
  · have hpositive : s.currentLength ≠ 0 := by
      rw [h.length]
      cases hlines : s.currentLines with
      | nil => exact absurd hlines hcurrent
      | cons first rest =>
        have hfirst := h.nonempty first (hlines ▸ List.mem_cons_self)
        have hlength := List.length_pos_iff.2 hfirst
        cases rest with
        | nil => simpa [joinLines] using hfirst
        | cons second rest =>
          rw [joinLines, List.intercalate_cons_cons]
          simp only [List.length_append, ne_eq]
          omega
    have hjoin := joinLines_append hcurrent line
    constructor
    · intro other hother
      rcases List.mem_append.1 hother with hearlier | hlast
      · exact h.nonempty other hearlier
      · rw [List.mem_singleton.1 hlast]
        exact hline
    · simp only [LineGroups.push, hjoin, h.length ▸ hpositive, h.length, if_false, List.length_append, List.length_cons]
    · simp only [LineGroups.push, hjoin, visible_append, List.flatten_append, List.flatten_singleton, ← h.visible,
        visible_cons_of_space (show isSpace ' ' = true by decide), List.append_assoc]
    · exact hgroups
    · refine .inl ?_
      have hlimit := hfits.resolve_left hcurrent
      simp only [LineGroups.push, if_neg hpositive]
      omega

theorem Sound.add (h : Sound lines s) (hline : line ≠ []) : Sound (lines ++ [line]) (s.add line) := by
  have hpushed : Sound (lines ++ [line]) ((if s.breaksBefore line then s.flush else s).push line) := by
    split
    · exact h.flush.push hline (.inl rfl)
    · next hbreaks =>
      refine h.push hline ?_
      simp only [breaksBefore, Bool.and_eq_true, Bool.or_eq_true, decide_eq_true_eq, not_and, not_or, not_lt] at hbreaks
      exact or_iff_not_imp_left.2 fun hne => (hbreaks hne).2
  rw [LineGroups.add]
  split
  · exact hpushed.flush
  · exact hpushed

theorem Sound.foldl (h : Sound done s) (hlines : ∀ line ∈ lines, line ≠ []) :
    Sound (done ++ lines) (lines.foldl LineGroups.add s) := by
  induction lines generalizing done s with
  | nil => rwa [List.append_nil]
  | cons line lines ih =>
    rw [List.forall_mem_cons] at hlines
    rw [List.foldl_cons, ← List.singleton_append, ← List.append_assoc]
    exact ih (h.add hlines.1) hlines.2

end LineGroups

theorem sound_groupLines (hlines : ∀ line ∈ lines, line ≠ []) :
    visible (groupLines lines).flatten = visible lines.flatten ∧
      ∀ group ∈ groupLines lines, group.length ≤ maxSentenceChars ∨ group ∈ lines := by
  have hsound := LineGroups.sound_nil.foldl hlines
  rw [List.nil_append] at hsound
  rw [groupLines]
  split
  · next hcurrent =>
    refine ⟨?_, hsound.groups⟩
    rw [← hsound.visible, hcurrent, visible_append]
    exact (List.append_nil _).symm
  · refine ⟨?_, hsound.flush.groups⟩
    rw [← hsound.flush.visible, visible_append]
    exact (List.append_nil _).symm

-- The records

theorem mem_strippedTexts_iff : text ∈ strippedTexts texts ↔ text ≠ [] ∧ ∃ raw ∈ texts, stripChars raw = text := by
  rw [strippedTexts, List.mem_filter, List.mem_map, decide_eq_true_eq, and_comm]

theorem length_stripChars_le (cs : List Char) : (stripChars cs).length ≤ cs.length := by
  rw [stripChars, List.length_reverse]
  refine (List.dropWhile_sublist _).length_le.trans ?_
  rw [List.length_reverse]
  exact (List.dropWhile_sublist _).length_le

/-- A record is a stripped piece of a group. -/
theorem mem_splitSentences (h : record ∈ splitSentences text) :
    ∃ group ∈ groupLines (strippedTexts (splitlines (cleanText text).toList)),
      record.toList ∈ strippedTexts (splitBoundaries group) := by
  rw [splitSentences] at h
  split at h
  · cases h
  · obtain ⟨group, hgroup, hrecord⟩ := List.mem_flatMap.1 h
    obtain ⟨piece, hpiece, rfl⟩ := List.mem_map.1 hrecord
    exact ⟨group, hgroup, by rwa [String.toList_ofList]⟩

theorem visible_splitSentences (text : String) :
    visible ((splitSentences text).flatMap String.toList) = visible text.toList := by
  rw [← visible_cleanText, splitSentences]
  split
  · next hempty =>
    rw [hempty]
    rfl
  · have hlines : ∀ line ∈ strippedTexts (splitlines (cleanText text).toList), line ≠ [] :=
      fun line h => (mem_strippedTexts_iff.1 h).1
    have hrecords : ∀ groups : List (List Char),
        visible (groups.flatMap fun group => (strippedTexts (splitBoundaries group)).flatten) =
          visible groups.flatten := by
      intro groups
      induction groups with
      | nil => rfl
      | cons group groups ih =>
        rw [List.flatMap_cons, visible_append, ih, visible_flatten_strippedTexts, flatten_splitBoundaries,
          ← visible_append, List.flatten_cons]
    simp only [List.flatMap_assoc, List.flatMap_map, String.toList_ofList, List.flatMap_id']
    rw [hrecords, (sound_groupLines hlines).1, visible_flatten_strippedTexts, visible_flatten_splitlines]

theorem length_record_le (h : record ∈ splitSentences text) : record.length ≤ maxSentenceChars ∨
    ∃ line ∈ splitlines (cleanText text).toList, record.length ≤ line.length := by
  obtain ⟨group, hgroup, hrecord⟩ := mem_splitSentences h
  obtain ⟨-, piece, hpiece, hstrip⟩ := mem_strippedTexts_iff.1 hrecord
  have hlines : ∀ line ∈ strippedTexts (splitlines (cleanText text).toList), line ≠ [] :=
    fun line h => (mem_strippedTexts_iff.1 h).1
  have hle : record.length ≤ group.length := by
    calc record.length = (stripChars piece).length := by rw [hstrip, String.length_toList]
      _ ≤ piece.length := length_stripChars_le piece
      _ ≤ group.length := by
        rw [← flatten_splitBoundaries group]
        exact (List.sublist_flatten_of_mem hpiece).length_le
  rcases (sound_groupLines hlines).2 group hgroup with hshort | hline
  · exact .inl (hle.trans hshort)
  · obtain ⟨-, line, hmem, hstripped⟩ := mem_strippedTexts_iff.1 hline
    exact .inr ⟨line, hmem, hle.trans (hstripped ▸ length_stripChars_le line)⟩

/-- The records of a page hold all that can be seen on it, none is blank, and a long one is part of a long line. -/
theorem split_sentences_lossless (text : String) :
    visible ((splitSentences text).flatMap String.toList) = visible text.toList ∧
      (∀ record ∈ splitSentences text, strip record ≠ "") ∧
      ∀ record ∈ splitSentences text, record.length ≤ 800 ∨
        ∃ line ∈ splitlines (cleanText text).toList, 800 < line.length := by
  refine ⟨visible_splitSentences text, ?_, ?_⟩
  · intro record h hblank
    obtain ⟨group, -, hrecord⟩ := mem_splitSentences h
    obtain ⟨hne, piece, -, hstrip⟩ := mem_strippedTexts_iff.1 hrecord
    have hnil : stripChars record.toList = [] := String.ofList_eq_empty_iff.1 hblank
    rw [← hstrip, stripChars_stripChars, hstrip] at hnil
    exact hne hnil
  · intro record h
    rcases Nat.lt_or_ge 800 record.length with hlong | hshort
    · rcases length_record_le h with hle | ⟨line, hline, hle⟩
      · exact .inl hle
      · exact .inr ⟨line, hline, hlong.trans_le hle⟩
    · exact .inl hshort

end GetOffline
