import GetOffline.PythonDecimal
import Mathlib.Data.List.Forall2

set_option autoImplicit true

namespace Python

theorem map_eq_ok {x : Except ε α} {f : α → β} : x.map f = .ok b ↔ ∃ a, x = .ok a ∧ f a = b := by
  cases x with
  | error e =>
    constructor
    · intro h
      cases h
    · rintro ⟨a, h, -⟩
      cases h
  | ok a =>
    constructor
    · intro h
      exact ⟨a, rfl, Except.ok.inj h⟩
    · rintro ⟨a', h, rfl⟩
      rw [Except.ok.inj h]
      rfl

theorem mapM_eq_ok_iff {f : α → Except ε β} {l : List α} {bs : List β} :
    l.mapM f = .ok bs ↔ List.Forall₂ (fun a b => f a = .ok b) l bs := by
  induction l generalizing bs with
  | nil =>
    rw [List.mapM_nil, List.forall₂_nil_left_iff]
    exact ⟨fun h => (Except.ok.inj h).symm, fun h => congrArg Except.ok h.symm⟩
  | cons a l ih =>
    rw [List.mapM_cons, bind_eq_ok, List.forall₂_cons_left_iff]
    constructor
    · rintro ⟨b, hb, h⟩
      obtain ⟨rest, hrest, h⟩ := bind_eq_ok.1 h
      exact ⟨b, rest, hb, ih.1 hrest, (Except.ok.inj h).symm⟩
    · rintro ⟨b, rest, hb, hrest, rfl⟩
      exact ⟨b, hb, bind_eq_ok.2 ⟨rest, ih.2 hrest, rfl⟩⟩

/-- The text is of digits that `int()` converts, as many as it takes. -/
structure IsDecimal (text : String) : Prop where
  decimal : ∀ c ∈ text.toList, ∃ d, decimalValue c = some d
  short : text.toList.length ≤ intMaxStrDigits

theorem isDigit_iff {text : String} :
    isDigit text = true ↔ text.toList ≠ [] ∧ ∀ c ∈ text.toList, isDigitChar c = true := by
  rw [isDigit, Bool.and_eq_true, Bool.not_eq_true', List.isEmpty_eq_false_iff, List.all_eq_true]

theorem isSpace_digit (h : isDigitChar c = true) : isSpace c = false := by
  rw [isDigitChar, Bool.or_eq_true, Option.isSome_iff_exists] at h
  rcases h with ⟨d, hd⟩ | h
  · exact isSpace_decimal hd
  · simp only [otherDigitRanges, List.any_cons, List.any_nil, Bool.or_false, Bool.or_eq_true, Bool.and_eq_true,
      decide_eq_true_eq] at h
    simp only [isSpace, Bool.or_eq_false_iff, Bool.and_eq_false_iff, decide_eq_false_iff_not, beq_eq_false_iff_ne]
    omega

theorem trimmed_of_digits {cs : List Char} (h : ∀ c ∈ cs, isDigitChar c = true) : Trimmed cs where
  head c hc := isSpace_digit (h c (List.mem_of_mem_head? hc))
  last c hc := isSpace_digit (h c (List.mem_of_mem_getLast? hc))

theorem mapM_eq_some_of_forall {f : α → Option β} {l : List α} (h : ∀ a ∈ l, ∃ b, f a = some b) :
    ∃ bs, l.mapM f = some bs ∧ bs.length = l.length := by
  induction l with
  | nil => exact ⟨[], rfl, rfl⟩
  | cons a l ih =>
    rw [List.forall_mem_cons] at h
    obtain ⟨b, hb⟩ := h.1
    obtain ⟨bs, hbs, hlength⟩ := ih h.2
    refine ⟨b :: bs, ?_, congrArg Nat.succ hlength⟩
    rw [List.mapM_cons, hb, hbs]
    rfl

/-- Only decimal digits and the underscores between them stand in what `int()` reads as digits. -/
theorem decimal_of_decimalDigits {cs : List Char} (h : decimalDigits cs = some ds) :
    ∀ c ∈ cs, c = '_' ∨ ∃ d, decimalValue c = some d := by
  induction cs using decimalDigits.induct generalizing ds with
  | case1 => cases h
  | case2 c =>
    obtain ⟨d, hd, -⟩ := Option.map_eq_some_iff.1 h
    rw [List.forall_mem_singleton]
    exact .inr ⟨d, hd⟩
  | case3 c cs ih =>
    rw [decimalDigits] at h
    obtain ⟨d, hd, h⟩ := Option.bind_eq_some_iff.1 h
    obtain ⟨rest, hrest, -⟩ := Option.bind_eq_some_iff.1 h
    rw [List.forall_mem_cons, List.forall_mem_cons]
    exact ⟨.inr ⟨d, hd⟩, .inl rfl, ih hrest⟩
  | case4 c cs hne hunderscore ih =>
    rw [decimalDigits] at h
    · obtain ⟨d, hd, h⟩ := Option.bind_eq_some_iff.1 h
      obtain ⟨rest, hrest, -⟩ := Option.bind_eq_some_iff.1 h
      rw [List.forall_mem_cons]
      exact ⟨.inr ⟨d, hd⟩, ih hrest⟩
    · exact hne
    · exact hunderscore

/-- `isdigit()` lets more pass than `int()` converts, by the kind of digit and by their number. -/
theorem intOfText_digits_iff {text : String} (h : isDigit text = true) :
    (∃ n, intOfText text = .ok n) ↔ IsDecimal text := by
  obtain ⟨hne, hdigits⟩ := isDigit_iff.1 h
  have hsign (c : Char) (cs : List Char) (hc : isDigitChar c = false) : text.toList ≠ c :: cs := by
    intro heq
    have hdigit := hdigits c (heq ▸ List.mem_cons_self)
    rw [hc] at hdigit
    cases hdigit
  constructor
  · rintro ⟨n, hn⟩
    rw [intOfText, stripChars_of_trimmed (trimmed_of_digits hdigits)] at hn
    split at hn
    · next cs heq => exact absurd heq (hsign '-' cs (by decide))
    · next cs heq => exact absurd heq (hsign '+' cs (by decide))
    · cases hread : decimalDigits text.toList with
      | none =>
        rw [intOfDigits, hread] at hn
        cases hn
      | some ds =>
        have hdecimal : ∀ c ∈ text.toList, ∃ d, decimalValue c = some d := by
          intro c hc
          rcases decimal_of_decimalDigits hread c hc with rfl | hd
          · exact absurd (hdigits '_' hc) (by decide)
          · exact hd
        obtain ⟨bs, hbs, hlength⟩ := mapM_eq_some_of_forall hdecimal
        obtain rfl := Option.some.inj ((decimalDigits_eq_mapM hne hbs).symm.trans hread)
        refine ⟨hdecimal, ?_⟩
        rw [intOfDigits, hread] at hn
        dsimp only at hn
        by_contra hlong
        rw [if_pos (hlength ▸ not_le.1 hlong)] at hn
        cases hn
  · rintro ⟨hdecimal, hshort⟩
    obtain ⟨ds, hds, hlength⟩ := mapM_eq_some_of_forall hdecimal
    exact ⟨_, intOfText_decimals hne hds (hlength ▸ hshort)⟩

end Python
