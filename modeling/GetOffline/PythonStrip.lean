import GetOffline.PythonText
import Mathlib.Data.Bool.AllAny
import Mathlib.Data.List.DropRight

set_option autoImplicit true

namespace Python

/-- No white space at either end. -/
structure Trimmed (cs : List Char) : Prop where
  head : ∀ c, cs.head? = some c → isSpace c = false
  last : ∀ c, cs.getLast? = some c → isSpace c = false

theorem stripChars_eq (cs : List Char) : stripChars cs = (cs.dropWhile isSpace).rdropWhile isSpace := rfl

theorem stripChars_of_trimmed (h : Trimmed cs) : stripChars cs = cs := by
  have hdrop : cs.dropWhile isSpace = cs := by
    cases cs with
    | nil => rfl
    | cons c cs => exact List.dropWhile_cons_of_neg (ne_true_of_eq_false (h.head c rfl))
  rw [stripChars_eq, hdrop, List.rdropWhile_eq_self_iff]
  intro hne hspace
  have hlast := h.last _ (List.getLast?_eq_some_getLast hne)
  rw [hspace] at hlast
  cases hlast

theorem trimmed_stripChars (cs : List Char) : Trimmed (stripChars cs) := by
  rw [stripChars_eq]
  constructor
  · intro c hc
    obtain ⟨rest, hrest⟩ := List.rdropWhile_prefix isSpace (cs.dropWhile isSpace)
    have hfirst := List.head?_dropWhile_not isSpace cs
    rw [← hrest] at hfirst
    cases hkept : (cs.dropWhile isSpace).rdropWhile isSpace with
    | nil =>
      rw [hkept] at hc
      cases hc
    | cons d ds =>
      rw [hkept] at hc hfirst
      cases hc
      exact hfirst
  · intro c hc
    have hne : (cs.dropWhile isSpace).rdropWhile isSpace ≠ [] := by
      intro hnil
      rw [hnil] at hc
      cases hc
    rw [List.getLast?_eq_some_getLast hne, Option.some_inj] at hc
    have hnot := List.rdropWhile_last_not isSpace _ hne
    rw [hc] at hnot
    exact eq_false_of_ne_true hnot

theorem stripChars_stripChars (cs : List Char) : stripChars (stripChars cs) = stripChars cs :=
  stripChars_of_trimmed (trimmed_stripChars cs)

section
variable {spaces : List Char} (hspaces : ∀ c ∈ spaces, isSpace c = true)
include hspaces

theorem stripChars_append_left (cs : List Char) : stripChars (spaces ++ cs) = stripChars cs := by
  rw [stripChars_eq, List.dropWhile_append_of_pos hspaces, stripChars_eq]

theorem rdropWhile_append_right (cs : List Char) :
    (cs ++ spaces).rdropWhile isSpace = cs.rdropWhile isSpace := by
  rw [List.rdropWhile, List.reverse_append, List.dropWhile_append_of_pos, List.rdropWhile]
  exact fun c hc => hspaces c (List.mem_reverse.1 hc)

theorem stripChars_append_right (cs : List Char) : stripChars (cs ++ spaces) = stripChars cs := by
  rw [stripChars_eq, stripChars_eq, List.dropWhile_append]
  split
  · next hnil =>
    rw [List.isEmpty_iff.1 hnil, List.dropWhile_eq_nil_iff.2 hspaces]
  · exact rdropWhile_append_right hspaces _

end

theorem Trimmed.map {f : Char → Char} (hf : ∀ c, isSpace (f c) = isSpace c) (h : Trimmed cs) :
    Trimmed (cs.map f) := by
  constructor
  · intro c hc
    rw [List.head?_map, Option.map_eq_some_iff] at hc
    obtain ⟨d, hd, rfl⟩ := hc
    rw [hf, h.head d hd]
  · intro c hc
    rw [List.getLast?_map, Option.map_eq_some_iff] at hc
    obtain ⟨d, hd, rfl⟩ := hc
    rw [hf, h.last d hd]

theorem isSpace_printable (h : 33 ≤ c.toNat) (h' : c.toNat ≤ 126) : isSpace c = false := by
  simp only [isSpace, Bool.or_eq_false_iff, Bool.and_eq_false_iff, decide_eq_false_iff_not, beq_eq_false_iff_ne]
  omega

theorem isSpace_lowerChar (c : Char) : isSpace (lowerChar c) = isSpace c := by
  rw [lowerChar]
  split
  · next hkelvin =>
    rw [beq_iff_eq] at hkelvin
    simp only [isSpace, hkelvin]
    decide
  · delta Char.toLower
    split
    · next hupper =>
      have hlow : 65 ≤ c.toNat := hupper.1
      have hhigh : c.toNat ≤ 90 := hupper.2
      have hlower : (c.val + ('a'.val - 'A'.val)).toNat = c.toNat + 32 := by
        rw [UInt32.toNat_add]
        change (c.toNat + 32) % 2 ^ 32 = c.toNat + 32
        omega
      rw [isSpace_printable (c := c) (by omega) (by omega)]
      apply isSpace_printable
      · exact (show 33 ≤ c.toNat + 32 by omega).trans_eq hlower.symm
      · exact hlower.trans_le (by omega)
    · rfl

/-- Lower case is a letter, or nothing has changed. -/
theorem lowerChar_cases (c : Char) : lowerChar c = c ∨ 97 ≤ (lowerChar c).toNat := by
  rw [lowerChar]
  split
  · exact .inr (by decide)
  · delta Char.toLower
    split
    · next hupper =>
      have hlow : 65 ≤ c.toNat := hupper.1
      have hhigh : c.toNat ≤ 90 := hupper.2
      have hlower : (c.val + ('a'.val - 'A'.val)).toNat = c.toNat + 32 := by
        rw [UInt32.toNat_add]
        change (c.toNat + 32) % 2 ^ 32 = c.toNat + 32
        omega
      exact .inr ((show 97 ≤ c.toNat + 32 by omega).trans_eq hlower.symm)
    · exact .inl rfl

theorem mem_of_mem_stripChars (h : c ∈ stripChars cs) : c ∈ cs := by
  rw [stripChars_eq] at h
  exact List.dropWhile_subset _ ((List.rdropWhile_prefix _ _).subset h)

end Python
