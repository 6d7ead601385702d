import Mathlib.Data.List.Basic
import Mathlib.Data.List.Infix

set_option autoImplicit true

namespace Python

/-- The pieces between the occurrences of `sep`, the first occurrence taken first; `skip` elements of one
are still to be left out. -/
def splitSeq [DecidableEq α] (sep : List α) : Nat → List α → List (List α)
  | _, [] => [[]]
  | skip + 1, _ :: l => splitSeq sep skip l
  | 0, c :: l =>
    if sep <+: c :: l then [] :: splitSeq sep (sep.length - 1) l
    else (splitSeq sep 0 l).modifyHead (c :: ·)

section
variable [DecidableEq α] {sep x l : List α} {a b c : α}

theorem splitSeq_ne_nil (sep : List α) (skip : Nat) (l : List α) : splitSeq sep skip l ≠ [] := by
  induction l generalizing skip with
  | nil =>
    rw [splitSeq]
    exact List.cons_ne_nil _ _
  | cons c l ih =>
    cases skip with
    | succ skip => exact ih skip
    | zero =>
      rw [splitSeq]
      split
      · exact List.cons_ne_nil _ _
      · exact mt List.modifyHead_eq_nil_iff.1 (ih 0)

theorem exists_splitSeq (sep : List α) (skip : Nat) (l : List α) :
    ∃ piece pieces, splitSeq sep skip l = piece :: pieces :=
  List.exists_cons_of_ne_nil (splitSeq_ne_nil sep skip l)

/-- The rest of an occurrence is left out. -/
theorem splitSeq_skip (sep x l : List α) : splitSeq sep x.length (x ++ l) = splitSeq sep 0 l := by
  induction x with
  | nil => rfl
  | cons c x ih => exact ih

theorem splitSeq_sep (a : α) (sep l : List α) :
    splitSeq (a :: sep) 0 (a :: (sep ++ l)) = [] :: splitSeq (a :: sep) 0 l := by
  have h : a :: sep <+: a :: (sep ++ l) := List.prefix_append (a :: sep) l
  rw [splitSeq, if_pos h, List.length_cons, Nat.add_sub_cancel, splitSeq_skip]

theorem splitSeq_step (h : ¬ sep <+: c :: l) :
    splitSeq sep 0 (c :: l) = (splitSeq sep 0 l).modifyHead (c :: ·) := by
  rw [splitSeq, if_neg h]

theorem splitSeq_of_absent (h : ¬ sep <:+: x) : splitSeq sep 0 x = [x] := by
  induction x with
  | nil => rw [splitSeq]
  | cons c x ih =>
    rw [List.infix_cons_iff, not_or] at h
    rw [splitSeq_step h.1, ih h.2]
    rfl

omit [DecidableEq α] in
/-- An occurrence that begins in `x` does not reach the next one. -/
theorem prefix_of_prefix_append (ha : a ∉ sep) (h : a :: sep <+: c :: (x ++ a :: l)) :
    a :: sep <+: c :: x := by
  obtain ⟨rest, hrest⟩ := h
  rcases List.append_eq_append_iff.1 (hrest.trans (List.cons_append (a := c)).symm) with
    ⟨t, hx, -⟩ | ⟨t, hsep, ht⟩
  · exact ⟨t, hx.symm⟩
  · cases t with
    | nil => exact ⟨[], (List.append_nil _).trans (hsep.trans (List.append_nil _))⟩
    | cons d t =>
      obtain ⟨rfl, -⟩ := List.cons.inj ht
      rw [List.cons_append, List.cons.injEq] at hsep
      rw [hsep.2] at ha
      exact absurd (List.mem_append_right _ List.mem_cons_self) ha

omit [DecidableEq α] in
theorem infix_of_infix_append (hx : a ∉ x) (h : a :: sep <:+: x ++ l) : a :: sep <:+: l := by
  induction x with
  | nil => exact h
  | cons c x ih =>
    rw [List.mem_cons, not_or] at hx
    rw [List.cons_append, List.infix_cons_iff] at h
    rcases h with h | h
    · exact absurd (List.cons_prefix_cons.1 h).1 hx.1
    · exact ih hx.2 h

/-- The pieces before an occurrence and after it. -/
theorem splitSeq_append (ha : a ∉ sep) {skip : Nat} (hskip : skip ≤ x.length) (l : List α) :
    splitSeq (a :: sep) skip (x ++ a :: (sep ++ l)) =
      splitSeq (a :: sep) skip x ++ splitSeq (a :: sep) 0 l := by
  induction x generalizing skip with
  | nil =>
    obtain rfl := Nat.le_zero.1 hskip
    rw [List.nil_append, splitSeq_sep, splitSeq]
    rfl
  | cons c x ih =>
    cases skip with
    | succ skip => exact ih (Nat.le_of_succ_le_succ hskip)
    | zero =>
      rw [List.cons_append, splitSeq, splitSeq]
      by_cases h : a :: sep <+: c :: x
      · have hlong : a :: sep <+: c :: (x ++ a :: (sep ++ l)) := h.trans (List.prefix_append (c :: x) _)
        rw [if_pos h, if_pos hlong, List.length_cons, Nat.add_sub_cancel,
          ih (Nat.le_of_succ_le_succ h.length_le)]
        rfl
      · rw [if_neg h, if_neg (mt (prefix_of_prefix_append ha) h), ih (Nat.zero_le _)]
        obtain ⟨piece, pieces, heq⟩ := exists_splitSeq (a :: sep) 0 x
        rw [heq]
        rfl

theorem intercalate_splitSeq_drop (sep : List α) (skip : Nat) (l : List α) :
    (a :: sep).intercalate (splitSeq (a :: sep) skip l) = l.drop skip := by
  induction l generalizing skip with
  | nil =>
    rw [splitSeq, List.intercalate_singleton, List.drop_nil]
  | cons c l ih =>
    cases skip with
    | succ skip => exact ih skip
    | zero =>
      rw [List.drop_zero]
      by_cases h : a :: sep <+: c :: l
      · obtain ⟨rest, hrest⟩ := h
        rw [List.cons_append] at hrest
        obtain ⟨rfl, rfl⟩ := List.cons.inj hrest
        have hskip := ih sep.length
        rw [splitSeq_sep]
        rw [splitSeq_skip, List.drop_left] at hskip
        obtain ⟨piece, pieces, heq⟩ := exists_splitSeq (a :: sep) 0 rest
        rw [heq] at hskip ⊢
        rw [List.intercalate_cons_cons, hskip]
        rfl
      · have htail := ih 0
        rw [splitSeq_step h]
        obtain ⟨piece, pieces, heq⟩ := exists_splitSeq (a :: sep) 0 l
        rw [heq, List.drop_zero] at htail
        rw [heq, ← htail]
        cases pieces with
        | nil => rfl
        | cons => rfl

/-- The pieces with the separator between them are what was split. -/
theorem intercalate_splitSeq (sep l : List α) : (a :: sep).intercalate (splitSeq (a :: sep) 0 l) = l :=
  intercalate_splitSeq_drop sep 0 l

/-- The first piece is all there is exactly if the separator does not occur. -/
theorem splitSeq_eq_self (ha : a ∉ sep) {pieces : List (List α)} (h : splitSeq (a :: sep) 0 x = x :: pieces) :
    pieces = [] ∧ ¬ a :: sep <:+: x := by
  have hjoined := intercalate_splitSeq (a := a) sep x
  have hnil : pieces = [] := by
    rw [h] at hjoined
    cases pieces with
    | nil => rfl
    | cons piece pieces =>
      have hlength := congrArg List.length hjoined
      rw [List.intercalate_cons_cons, List.length_append, List.length_append, List.length_cons] at hlength
      omega
  refine ⟨hnil, ?_⟩
  rintro ⟨s, t, rfl⟩
  obtain ⟨first, rest, hfirst⟩ := exists_splitSeq (a :: sep) 0 s
  obtain ⟨second, rest', hsecond⟩ := exists_splitSeq (a :: sep) 0 t
  rw [List.append_assoc, List.cons_append, splitSeq_append ha (Nat.zero_le _), hfirst, hsecond, hnil] at h
  have hlength := congrArg List.length h
  rw [List.length_append, List.length_cons, List.length_cons, List.length_singleton] at hlength
  omega

/-- What does not contain the first two elements of the separator goes into the first piece. -/
theorem splitSeq_append_left (hab : a ≠ b) (hx : ¬ [a, b] <:+: x) (l : List α) :
    splitSeq (a :: b :: sep) 0 (x ++ a :: l) = (splitSeq (a :: b :: sep) 0 (a :: l)).modifyHead (x ++ ·) := by
  induction x with
  | nil =>
    obtain ⟨piece, pieces, heq⟩ := exists_splitSeq (a :: b :: sep) 0 (a :: l)
    rw [List.nil_append, heq]
    rfl
  | cons c x ih =>
    rw [List.infix_cons_iff, not_or] at hx
    have hstep : ¬ a :: b :: sep <+: c :: (x ++ a :: l) := by
      intro h
      rw [List.cons_prefix_cons] at h
      obtain ⟨rfl, h⟩ := h
      cases x with
      | nil => exact hab (List.cons_prefix_cons.1 h).1.symm
      | cons d x =>
        obtain ⟨rfl, -⟩ := List.cons_prefix_cons.1 h
        exact hx.1 (List.prefix_append [a, b] x)
    rw [List.cons_append, splitSeq_step hstep, ih hx.2]
    obtain ⟨piece, pieces, heq⟩ := exists_splitSeq (a :: b :: sep) 0 (a :: l)
    rw [heq]
    rfl

end

end Python
