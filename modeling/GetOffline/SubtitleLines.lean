import GetOffline.SrtTimestamps
import GetOffline.Transcripts

set_option autoImplicit true

namespace GetOffline
open Python

/-- `str.splitlines()`. -/
def splitlines : List Char → List (List Char)
  | [] => []
  | '\r' :: '\n' :: cs => [] :: splitlines cs
  | c :: cs =>
    if isLineBreak c then [] :: splitlines cs
    else
      match splitlines cs with
      | [] => [[c]]
      | line :: lines => (c :: line) :: lines

/-- The text of lines, each with its newline. -/
def writeLines (lines : List (List Char)) : List Char :=
  lines.flatMap fun line => line ++ ['\n']

example : (splitlines "1\r\na\x0cb\n\n".toList).map String.ofList = ["1", "a", "b", ""] := by decide

/-- A text without a line break in it. -/
def SingleLine (cs : List Char) : Prop :=
  ∀ c ∈ cs, isLineBreak c = false

instance : DecidablePred SingleLine := fun cs =>
  decidable_of_iff (cs.all fun c => isLineBreak c = false) List.all_iff_forall_prop

/-- The line breaks are white space. -/
theorem isLineBreak_of_isSpace (h : isSpace c = false) : isLineBreak c = false := by
  simp only [isSpace, Bool.or_eq_false_iff, Bool.and_eq_false_iff, decide_eq_false_iff_not,
    beq_eq_false_iff_ne] at h
  simp only [isLineBreak, Bool.or_eq_false_iff, Bool.and_eq_false_iff, decide_eq_false_iff_not,
    beq_eq_false_iff_ne]
  omega

theorem singleLine_nil : SingleLine [] := fun _ h => absurd h List.not_mem_nil

theorem splitlines_line (h : SingleLine line) (cs : List Char) :
    splitlines (line ++ '\n' :: cs) = line :: splitlines cs := by
  induction line with
  | nil =>
    rw [List.nil_append, splitlines, if_pos (by decide)]
    exact fun _ hcr => absurd hcr (by decide)
  | cons c line ih =>
    have hc : isLineBreak c = false := h c List.mem_cons_self
    have hcr : c ≠ '\r' := by
      rintro rfl
      exact absurd hc (by decide)
    rw [List.cons_append, splitlines, if_neg (ne_true_of_eq_false hc),
      ih fun d hd => h d (List.mem_cons_of_mem _ hd)]
    exact fun _ heq => absurd heq hcr

/-- Lines that were written one by one are split as they were. -/
theorem splitlines_writeLines (h : ∀ line ∈ lines, SingleLine line) :
    splitlines (writeLines lines) = lines := by
  induction lines with
  | nil => rfl
  | cons line lines ih =>
    rw [List.forall_mem_cons] at h
    rw [writeLines, List.flatMap_cons, List.append_assoc, List.singleton_append, splitlines_line h.1]
    exact congrArg (line :: ·) (ih h.2)

/-- `"\n".join(lines) + "\n"`. -/
theorem intercalate_newline (h : lines ≠ []) : ['\n'].intercalate lines ++ ['\n'] = writeLines lines := by
  induction lines with
  | nil => exact absurd rfl h
  | cons line lines ih =>
    cases lines with
    | nil =>
      rw [List.intercalate_singleton, writeLines, List.flatMap_singleton]
    | cons next lines =>
      rw [List.intercalate_cons_cons, List.append_assoc, ih (List.cons_ne_nil _ _), writeLines,
        writeLines, @List.flatMap_cons _ _ _ (next :: lines), List.append_assoc]

end GetOffline
