import GetOffline.PythonGlob
import Mathlib.Data.List.Infix

set_option autoImplicit true

namespace Python

/-- `glob.escape` of a name. -/
def globEscape (name : String) : String :=
  String.ofList (name.toList.flatMap fun c => if c ∈ ['*', '?', '['] then ['[', c, ']'] else [c])

/-- A pattern in which `**` stands beside other characters, which `Path.glob` refuses. -/
def hasDoubleStar (pattern : String) : Bool :=
  pattern.toList.tails.any fun rest => ['*', '*'].isPrefixOf rest

-- The parts of a pattern

theorem globBracket_length (h : globBracket cs = some (part, rest)) : rest.length < cs.length := by
  rw [globBracket.eq_def] at h
  dsimp only at h
  split at h
  · cases h
  · next c body hbody =>
    split at h
    · cases h
    · next close rest' hdrop =>
      have hsuffix := (List.dropWhile_suffix (· ≠ ']') (l := body)).length_le
      rw [hdrop, List.length_cons] at hsuffix
      have hlength : (c :: body).length ≤ cs.length := by
        rw [← hbody]
        split
        · exact Nat.le_succ _
        · exact Nat.le_refl _
      rw [List.length_cons] at hlength
      cases h
      omega

theorem globParts_fuel (h : cs.length ≤ n) : globParts n cs = globParts cs.length cs := by
  induction hlength : cs.length using Nat.strongRecOn generalizing cs n with
  | ind length ih =>
    subst hlength
    cases n with
    | zero =>
      rw [List.length_eq_zero_iff.1 (Nat.le_zero.1 h)]
      rfl
    | succ n =>
      cases cs with
      | nil => rfl
      | cons c cs =>
        have hle : cs.length ≤ n := Nat.le_of_succ_le_succ h
        have hrest := ih cs.length (Nat.lt_succ_self _) hle rfl
        by_cases hstar : c = '*'
        · subst hstar
          exact congrArg (GlobPart.star :: ·) hrest
        · by_cases hquestion : c = '?'
          · subst hquestion
            exact congrArg (GlobPart.question :: ·) hrest
          · by_cases hbracket : c = '['
            · subst hbracket
              rw [List.length_cons, globParts, globParts]
              cases hclosed : globBracket cs with
              | none => exact congrArg (GlobPart.literal '[' :: ·) hrest
              | some closed =>
                obtain ⟨part, rest⟩ := closed
                have hlt := globBracket_length hclosed
                have hshort := ih rest.length (Nat.lt_succ_of_lt hlt) (Nat.le_trans (Nat.le_of_lt hlt) hle) rfl
                have hown := ih rest.length (Nat.lt_succ_of_lt hlt) (Nat.le_of_lt hlt) rfl
                exact congrArg (part :: ·) (hshort.trans hown.symm)
            · rw [List.length_cons, globParts, globParts]
              · exact congrArg (GlobPart.literal c :: ·) hrest
              all_goals first | exact hstar | exact hquestion | exact hbracket

/-- The parts of a whole pattern. -/
def globPattern (cs : List Char) : List GlobPart :=
  globParts cs.length cs

theorem fnmatch_eq (name pattern : String) :
    fnmatch name pattern = globMatches (globPattern pattern.toList) name.toList := rfl

theorem globPattern_literal (hstar : c ≠ '*') (hquestion : c ≠ '?') (hbracket : c ≠ '[') (cs : List Char) :
    globPattern (c :: cs) = .literal c :: globPattern cs := by
  rw [globPattern, List.length_cons, globParts, globPattern]
  · exact hstar
  · exact hquestion
  · exact hbracket

/-- A bracket around one special character. -/
theorem globPattern_escaped (h : c ∈ ['*', '?', '[']) (cs : List Char) :
    globPattern ('[' :: c :: ']' :: cs) = .oneOf false [(c, c)] :: globPattern cs := by
  have hfuel : globParts (cs.length + 2) cs = globPattern cs := globParts_fuel (Nat.le_add_right _ _)
  simp only [List.mem_cons, List.not_mem_nil, or_false] at h
  rcases h with rfl | rfl | rfl <;> exact congrArg (_ :: ·) hfuel

-- Patterns that stand for texts

theorem globMatches_star_nil (cs : List Char) : globMatches [.star] cs = true := by
  rw [globMatches, List.any_eq_true]
  exact ⟨[], (List.mem_tails _ _).2 List.nil_suffix, rfl⟩

theorem globMatches_star_of_suffix (hsuffix : rest <:+ cs) (h : globMatches parts rest = true) :
    globMatches (.star :: parts) cs = true := by
  rw [globMatches, List.any_eq_true]
  exact ⟨rest, (List.mem_tails _ _).2 hsuffix, h⟩

theorem globMatches_one (hpart : ∀ d, part.accepts d = decide (d = c)) (hstar : part ≠ .star)
    (parts : List GlobPart) (name : List Char) :
    globMatches (part :: parts) name = (name.head? = some c && globMatches parts name.tail) := by
  cases name with
  | nil =>
    cases part with
    | star => exact absurd rfl hstar
    | question | oneOf | literal => simp [globMatches]
  | cons d name =>
    have hstep : globMatches (part :: parts) (d :: name) = (part.accepts d && globMatches parts name) := by
      cases part with
      | star => exact absurd rfl hstar
      | question | oneOf | literal => rfl
    rw [hstep, hpart]
    simp

theorem accepts_escaped (c d : Char) : (GlobPart.oneOf false [(c, c)]).accepts d = decide (d = c) := by
  simp only [GlobPart.accepts, List.any_cons, List.any_nil, Bool.or_false, Bool.bne_false]
  rw [← Bool.decide_and, decide_eq_decide]
  exact ⟨fun h => Char.le_antisymm h.2 h.1, fun h => h ▸ ⟨Char.le_refl _, Char.le_refl _⟩⟩

theorem accepts_literal (c d : Char) : (GlobPart.literal c).accepts d = decide (d = c) := rfl

/-- An escaped name stands for itself alone. -/
theorem globMatches_escape (name rest tail : List Char) :
    globMatches (globPattern ((name.flatMap fun c => if c ∈ ['*', '?', '['] then ['[', c, ']'] else [c]) ++ rest))
      tail = (name.isPrefixOf tail && globMatches (globPattern rest) (tail.drop name.length)) := by
  induction name generalizing tail with
  | nil => rw [List.flatMap_nil, List.nil_append, List.isPrefixOf_nil_left, Bool.true_and]; rfl
  | cons c name ih =>
    have hstep : globMatches (globPattern (((c :: name).flatMap fun c =>
        if c ∈ ['*', '?', '['] then ['[', c, ']'] else [c]) ++ rest)) tail =
          (tail.head? = some c && globMatches (globPattern ((name.flatMap fun c =>
            if c ∈ ['*', '?', '['] then ['[', c, ']'] else [c]) ++ rest)) tail.tail) := by
      rw [List.flatMap_cons]
      split
      · next hspecial =>
        rw [List.append_assoc]
        exact (congrArg (globMatches · tail) (globPattern_escaped hspecial _)).trans
          (globMatches_one (accepts_escaped c) (nofun : GlobPart.oneOf false [(c, c)] ≠ .star) _ _)
      · next hplain =>
        simp only [List.mem_cons, List.not_mem_nil, or_false, not_or] at hplain
        rw [List.singleton_append, List.cons_append, globPattern_literal hplain.1 hplain.2.1 hplain.2.2]
        exact globMatches_one (accepts_literal c) (nofun : GlobPart.literal c ≠ .star) _ _
    rw [hstep, ih]
    cases tail with
    | nil => rfl
    | cons d tail =>
      rw [List.isPrefixOf_cons_cons, List.head?_cons, List.tail_cons, List.length_cons, List.drop_succ_cons,
        Bool.and_assoc]
      congr 1
      rw [beq_eq_decide, decide_eq_decide, Option.some_inj, eq_comm]

/-- The pattern `escape(stem) + ".*"` stands for the names that begin with the stem and a dot. -/
theorem fnmatch_escape (name stem : String) :
    fnmatch name (globEscape stem ++ ".*") = (stem ++ ".").toList.isPrefixOf name.toList := by
  have hpattern : (globEscape stem ++ ".*").toList =
      (stem.toList.flatMap fun c => if c ∈ ['*', '?', '['] then ['[', c, ']'] else [c]) ++ ['.', '*'] := by
    rw [String.toList_append, globEscape, String.toList_ofList]
    rfl
  have hdot : globPattern ['.', '*'] = [.literal '.', .star] := rfl
  rw [fnmatch_eq, hpattern, globMatches_escape, hdot,
    globMatches_one (accepts_literal '.') (nofun : GlobPart.literal '.' ≠ .star), globMatches_star_nil, Bool.and_true,
    String.toList_append, Bool.eq_iff_iff, Bool.and_eq_true, decide_eq_true_eq, List.isPrefixOf_iff_prefix,
    List.isPrefixOf_iff_prefix]
  constructor
  · rintro ⟨⟨rest, hrest⟩, hhead⟩
    rw [← hrest, List.drop_left] at hhead
    obtain ⟨rest', rfl⟩ := List.head?_eq_some_iff.1 hhead
    exact ⟨rest', by rw [← hrest, List.append_assoc]; rfl⟩
  · rintro ⟨rest, hrest⟩
    rw [← hrest, List.append_assoc]
    exact ⟨List.prefix_append _ _, by rw [List.drop_left]; rfl⟩

/-- A text without a bracket matches itself as a pattern. -/
theorem globMatches_self (h : '[' ∉ text) (hrest : globMatches (globPattern rest) tail = true) :
    globMatches (globPattern (text ++ rest)) (text ++ tail) = true := by
  induction text with
  | nil => exact hrest
  | cons c text ih =>
    rw [List.mem_cons, not_or] at h
    have htail := ih h.2
    rw [List.cons_append, List.cons_append]
    by_cases hstar : c = '*'
    · subst hstar
      exact globMatches_star_of_suffix (List.suffix_cons _ _) htail
    · by_cases hquestion : c = '?'
      · subst hquestion
        exact htail
      · rw [globPattern_literal hstar hquestion (Ne.symm h.1)]
        simpa [globMatches, GlobPart.accepts] using htail

end Python
