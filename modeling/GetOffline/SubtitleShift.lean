import GetOffline.SubtitleLines

set_option autoImplicit true

namespace GetOffline
open Python

-- workers/subtitles.py

/-- What `\d{2}:\d{2}:\d{2},\d{3}` takes from the start of a text, and the rest. -/
def takeTimestamp : List Char → Option (List Char × List Char)
  | h :: h' :: ':' :: m :: m' :: ':' :: s :: s' :: ',' :: a :: b :: c :: rest =>
    if [h, h', m, m', s, s', a, b, c].all fun c => (decimalValue c).isSome then
      some ([h, h', ':', m, m', ':', s, s', ',', a, b, c], rest)
    else none
  | _ => none

/-- The rest after `-->`. -/
def skipArrow : List Char → Option (List Char)
  | '-' :: '-' :: '>' :: rest => some rest
  | _ => none

/-- The groups of `timestamp_re` in a line: the times and what stands behind them. -/
def timestampMatch (line : List Char) : Option (List Char × List Char × List Char) := do
  let (start, rest) ← takeTimestamp line
  let rest ← skipSpaces (← skipArrow (← skipSpaces rest))
  let (finish, tail) ← takeTimestamp rest
  return (start, finish, tail)

/-- A turn of the loop of `_shift_srt_timestamps`. -/
def shiftLine (offset : ℚ) (line : List Char) : Except Error (List Char) :=
  match timestampMatch line with
  | none => .ok line
  | some (startRaw, endRaw, tail) => do
    let start := (← parseSrtTimestamp (String.ofList startRaw)) + offset
    let finish := (← parseSrtTimestamp (String.ofList endRaw)) + offset
    let start := max 0 start
    let finish := max (start + 1 / 100) finish
    return (formatSrtTimestamp start ++ " --> " ++ formatSrtTimestamp finish).toList ++ tail

/-- `_shift_srt_timestamps`, of the text of the file. -/
def shiftSrtTimestamps (offset : ℚ) (text : String) : Except Error String :=
  if |offset| < 1 / 1000000 then .ok text
  else do
    let shifted ← (splitlines text.toList).mapM (shiftLine offset)
    return String.ofList (['\n'].intercalate shifted ++ ['\n'])

/-- The times of a cue in milliseconds, and what follows them in their line. -/
structure CueTimes where
  start : Nat
  finish : Nat
  tail : List Char
deriving DecidableEq

def timestampValue (raw : List Char) : Nat :=
  (srtTimestamp raw).elim 0 Prod.fst

/-- What the code reads in a line. -/
def cueTimes (line : List Char) : Option CueTimes :=
  (timestampMatch line).map fun (start, finish, tail) =>
    { start := timestampValue start, finish := timestampValue finish, tail }

namespace CueTimes

/-- The line that the code writes for a cue. -/
def line (cue : CueTimes) : List Char :=
  (millisText cue.start ++ " --> " ++ millisText cue.finish).toList ++ cue.tail

def shift (offset : ℚ) (cue : CueTimes) : CueTimes where
  start := roundMillis (cue.start / 1000 + offset)
  finish := roundMillis (max (max 0 (cue.start / 1000 + offset) + 1 / 100) (cue.finish / 1000 + offset))
  tail := cue.tail

end CueTimes

/-- A line after a shift. -/
def shiftedLine (offset : ℚ) (line : List Char) : List Char :=
  (cueTimes line).elim line fun cue => (cue.shift offset).line

example : (shiftSrtTimestamps (-3 / 2) "1\n00:00:01,000 --> 00:00:02,750 x\nhi\n").toOption =
    some "1\n00:00:00,000 --> 00:00:01,250 x\nhi\n" := by decide +kernel

theorem takeTimestamp_spec (h : takeTimestamp cs = some (raw, rest)) :
    cs = raw ++ rest ∧
      parseSrtTimestamp (String.ofList raw) = .ok ((timestampValue raw : ℚ) / 1000) := by
  unfold takeTimestamp at h
  split at h
  · next h₁ h₂ m₁ m₂ s₁ s₂ f₁ f₂ f₃ rest' =>
    obtain ⟨hall, heq⟩ := Option.ite_none_right_eq_some.1 h
    obtain ⟨rfl, rfl⟩ := Prod.mk.inj (Option.some.inj heq)
    simp only [List.all_cons, List.all_nil, Bool.and_true, Bool.and_eq_true,
      Option.isSome_iff_exists] at hall
    obtain ⟨⟨d₁, hd₁⟩, ⟨d₂, hd₂⟩, ⟨d₃, hd₃⟩, ⟨d₄, hd₄⟩, ⟨d₅, hd₅⟩, ⟨d₆, hd₆⟩, ⟨d₇, hd₇⟩, ⟨d₈, hd₈⟩,
      ⟨d₉, hd₉⟩⟩ := hall
    have htwo {a b : Char} {x y : Nat} (ha : decimalValue a = some x) (hb : decimalValue b = some y) :
        [a, b].mapM decimalValue = some [x, y] := by
      rw [List.mapM_cons, List.mapM_cons, List.mapM_nil, ha, hb]
      rfl
    have hthree : [f₁, f₂, f₃].mapM decimalValue = some [d₇, d₈, d₉] := by
      rw [List.mapM_cons, htwo hd₈ hd₉, hd₇]
      rfl
    have hvalue : timestampValue [h₁, h₂, ':', m₁, m₂, ':', s₁, s₂, ',', f₁, f₂, f₃] =
        ((ofDigits [d₁, d₂] * 60 + ofDigits [d₃, d₄]) * 60 + ofDigits [d₅, d₆]) * 1000 +
          ofDigits [d₇, d₈, d₉] := by
      rw [timestampValue, srtTimestamp, htwo hd₁ hd₂, htwo hd₃ hd₄, htwo hd₅ hd₆, hthree]
      rfl
    refine ⟨rfl, ?_⟩
    rw [hvalue]
    refine (parseSrtTimestamp_fields (htwo hd₁ hd₂) (htwo hd₃ hd₄) (htwo hd₅ hd₆) hthree ?_ ?_).trans ?_
    · exact ⟨List.cons_ne_nil _ _, List.cons_ne_nil _ _, List.cons_ne_nil _ _, List.cons_ne_nil _ _⟩
    · have hshort : 3 ≤ intMaxStrDigits := by decide
      exact ⟨Nat.le_of_succ_le hshort, Nat.le_of_succ_le hshort, Nat.le_of_succ_le hshort, hshort⟩
    · congr 1
      push_cast
      ring
  · cases h

theorem skipSpaces_suffix (h : skipSpaces cs = some rest) : rest <:+ cs := by
  cases cs with
  | nil => cases h
  | cons c cs =>
    obtain ⟨-, heq⟩ := Option.ite_none_right_eq_some.1 h
    obtain rfl := Option.some.inj heq
    exact (List.dropWhile_suffix _).trans (List.suffix_cons _ _)

theorem skipArrow_suffix (h : skipArrow cs = some rest) : rest <:+ cs := by
  unfold skipArrow at h
  split at h
  · obtain rfl := Option.some.inj h
    exact ⟨['-', '-', '>'], rfl⟩
  · cases h

/-- Where the groups of a line come from. -/
theorem timestampMatch_parts (h : timestampMatch line = some (start, finish, tail)) :
    (∃ rest, takeTimestamp line = some (start, rest)) ∧
      ∃ rest, takeTimestamp rest = some (finish, tail) ∧ rest <:+ line := by
  obtain ⟨⟨start', rest⟩, hstart, h⟩ := Option.bind_eq_some_iff.1 h
  obtain ⟨arrow, harrow, h⟩ := Option.bind_eq_some_iff.1 h
  obtain ⟨after, hafter, h⟩ := Option.bind_eq_some_iff.1 h
  obtain ⟨rest', hrest', h⟩ := Option.bind_eq_some_iff.1 h
  obtain ⟨⟨finish', tail'⟩, hfinish, h⟩ := Option.bind_eq_some_iff.1 h
  cases h
  refine ⟨⟨rest, hstart⟩, rest', hfinish, ?_⟩
  calc
    rest' <:+ after := skipSpaces_suffix hrest'
    _ <:+ arrow := skipArrow_suffix hafter
    _ <:+ rest := skipSpaces_suffix harrow
    _ <:+ line := ⟨start, (takeTimestamp_spec hstart).1.symm⟩

theorem timestampMatch_spec (h : timestampMatch line = some (start, finish, tail)) :
    parseSrtTimestamp (String.ofList start) = .ok ((timestampValue start : ℚ) / 1000) ∧
      parseSrtTimestamp (String.ofList finish) = .ok ((timestampValue finish : ℚ) / 1000) ∧
      tail <:+ line := by
  obtain ⟨⟨rest, hstart⟩, rest', hfinish, hsuffix⟩ := timestampMatch_parts h
  obtain ⟨hend, hparse⟩ := takeTimestamp_spec hfinish
  exact ⟨(takeTimestamp_spec hstart).2, hparse, List.IsSuffix.trans ⟨finish, hend.symm⟩ hsuffix⟩

theorem roundMillis_max (x : ℚ) : roundMillis (max 0 x) = roundMillis x := by
  rw [roundMillis, roundMillis, max_eq_right (le_max_left 0 x)]

/-- What a turn writes, and that it does not raise. -/
theorem shiftLine_eq (offset : ℚ) (line : List Char) :
    shiftLine offset line = .ok (shiftedLine offset line) := by
  rw [shiftLine, shiftedLine, cueTimes]
  cases h : timestampMatch line with
  | none => rfl
  | some groups =>
    obtain ⟨start, finish, tail⟩ := groups
    obtain ⟨hstart, hfinish, -⟩ := timestampMatch_spec h
    dsimp only
    rw [hstart, hfinish]
    change Except.ok _ = Except.ok _
    rw [formatSrtTimestamp_eq, formatSrtTimestamp_eq, roundMillis_max]
    rfl

theorem shiftSrtTimestamps_eq (h : 1 / 1000000 ≤ |offset|) (text : String) :
    shiftSrtTimestamps offset text = .ok (String.ofList
      (['\n'].intercalate ((splitlines text.toList).map (shiftedLine offset)) ++ ['\n'])) := by
  have hlines (lines : List (List Char)) :
      lines.mapM (shiftLine offset) = .ok (lines.map (shiftedLine offset)) := by
    induction lines with
    | nil => rfl
    | cons line lines ih =>
      rw [List.mapM_cons, shiftLine_eq, ih]
      rfl
  rw [shiftSrtTimestamps, if_neg (not_lt.2 h), hlines]
  rfl

theorem isLineBreak_digit (h : c.isDigit) : isLineBreak c = false :=
  isLineBreak_of_isSpace (isSpace_decimal (decimalValue_digit h))

theorem mem_millisText (h : c ∈ (millisText millis).toList) : c.isDigit ∨ c = ':' ∨ c = ',' := by
  have hpad {width n : Nat} (h : c ∈ (pad width n).toList) : c.isDigit ∨ c = ':' ∨ c = ',' :=
    .inl (isDigit_pad h)
  rw [millisText, toList_timestampText] at h
  rcases List.mem_append.1 h with h | h
  · exact hpad h
  · rcases List.mem_cons.1 h with h | h
    · exact .inr (.inl h)
    · rcases List.mem_append.1 h with h | h
      · exact hpad h
      · rcases List.mem_cons.1 h with h | h
        · exact .inr (.inl h)
        · rcases List.mem_append.1 h with h | h
          · exact hpad h
          · rcases List.mem_cons.1 h with h | h
            · exact .inr (.inr h)
            · exact hpad h

/-- With two digits of hours the time is what the code reads. -/
theorem takeTimestamp_millisText (h : millis < 360000000) (rest : List Char) :
    takeTimestamp ((millisText millis).toList ++ rest) = some ((millisText millis).toList, rest) := by
  obtain ⟨h₁, h₂, hhours⟩ := List.length_eq_two.1
    (length_pad (by decide) (Nat.div_lt_of_lt_mul h : millis / 3600000 < 10 ^ 2))
  obtain ⟨m₁, m₂, hminutes⟩ := List.length_eq_two.1
    (length_pad (by decide) (show millis / 60000 % 60 < 10 ^ 2 by omega))
  obtain ⟨s₁, s₂, hseconds⟩ := List.length_eq_two.1
    (length_pad (by decide) (show millis / 1000 % 60 < 10 ^ 2 by omega))
  obtain ⟨f₁, f₂, f₃, hmillis⟩ := List.length_eq_three.1
    (length_pad (by decide) (show millis % 1000 < 10 ^ 3 by omega))
  have hvalue {width n : Nat} {cs : List Char} (hcs : (pad width n).toList = cs) :
      ∀ c ∈ cs, (decimalValue c).isSome = true := by
    intro c hc
    rw [← hcs] at hc
    rw [decimalValue_digit (isDigit_pad hc)]
    rfl
  have hall : [h₁, h₂, m₁, m₂, s₁, s₂, f₁, f₂, f₃].all fun c => (decimalValue c).isSome := by
    have hdigits := List.forall_mem_append.2 ⟨hvalue hhours, List.forall_mem_append.2
      ⟨hvalue hminutes, List.forall_mem_append.2 ⟨hvalue hseconds, hvalue hmillis⟩⟩⟩
    exact List.all_eq_true.2 hdigits
  rw [millisText, toList_timestampText, hhours, hminutes, hseconds, hmillis]
  exact if_pos hall

theorem timestampValue_millisText (h : millis < 360000000) :
    timestampValue (millisText millis).toList = millis := by
  have hlimit : millis < 3600000 * 10 ^ intMaxStrDigits := by
    refine h.trans_le (Nat.mul_le_mul_left 3600000 (?_ : 10 ^ 2 ≤ 10 ^ intMaxStrDigits))
    exact Nat.pow_le_pow_right (by decide) (by decide)
  have htake := takeTimestamp_millisText h []
  have hparse := (takeTimestamp_spec htake).2
  rw [String.ofList_toList, parseSrtTimestamp_millisText hlimit] at hparse
  have hvalue := Except.ok.inj hparse
  rw [div_left_inj' (by norm_num)] at hvalue
  exact (Nat.cast_injective hvalue).symm

theorem skipSpaces_millisText (millis : Nat) (rest : List Char) :
    skipSpaces (' ' :: ((millisText millis).toList ++ rest)) =
      some ((millisText millis).toList ++ rest) := by
  have hne := pad_ne_nil 2 (millis / 3600000)
  have hdigits (c : Char) (hc : c ∈ (pad 2 (millis / 3600000)).toList) : c.isDigit := isDigit_pad hc
  rw [millisText, toList_timestampText]
  cases hhours : (pad 2 (millis / 3600000)).toList with
  | nil => exact absurd hhours hne
  | cons c cs =>
    rw [hhours] at hdigits
    have hc := isSpace_decimal (decimalValue_digit (hdigits c List.mem_cons_self))
    rw [skipSpaces, if_pos (by decide), List.cons_append, List.cons_append,
      List.dropWhile_cons_of_neg (ne_true_of_eq_false hc)]

theorem timestampMatch_written (hstart : start < 360000000) (hfinish : finish < 360000000)
    (tail : List Char) :
    timestampMatch ((millisText start ++ " --> " ++ millisText finish).toList ++ tail) =
      some ((millisText start).toList, (millisText finish).toList, tail) := by
  have harrow : " --> ".toList = [' ', '-', '-', '>', ' '] := rfl
  have hline : (millisText start ++ " --> " ++ millisText finish).toList ++ tail =
      (millisText start).toList ++ ' ' :: '-' :: '-' :: '>' :: ' ' ::
        ((millisText finish).toList ++ tail) := by
    simp only [String.toList_append, harrow, List.append_assoc, List.cons_append, List.nil_append]
  have hspace (rest : List Char) : skipSpaces (' ' :: '-' :: rest) = some ('-' :: rest) := by
    rw [skipSpaces, if_pos (by decide), List.dropWhile_cons_of_neg (by decide)]
  have harrow' (rest : List Char) : skipArrow ('-' :: '-' :: '>' :: rest) = some rest := rfl
  rw [hline, timestampMatch, takeTimestamp_millisText hstart, Option.bind_eq_bind, Option.bind_some]
  dsimp only
  rw [hspace, Option.bind_eq_bind, Option.bind_some, harrow', Option.bind_some, skipSpaces_millisText,
    Option.bind_some, takeTimestamp_millisText hfinish, Option.bind_some, Option.pure_def]

theorem cueTimes_line {cue : CueTimes} (hstart : cue.start < 360000000)
    (hfinish : cue.finish < 360000000) : cueTimes cue.line = some cue := by
  rw [cueTimes, CueTimes.line, timestampMatch_written hstart hfinish, Option.map_some]
  dsimp only
  rw [timestampValue_millisText hstart, timestampValue_millisText hfinish]

namespace CueTimes
variable {cue cue' : CueTimes} {offset : ℚ}

/-- Below hundred hours after a shift. -/
def Short (offset : ℚ) (cue : CueTimes) : Prop :=
  (cue.start : ℚ) / 1000 + offset < 360000 ∧ (cue.finish : ℚ) / 1000 + offset < 360000

end CueTimes

end GetOffline
