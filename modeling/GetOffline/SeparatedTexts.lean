import Mathlib.Data.List.Basic

set_option autoImplicit true

namespace Python

/-- What stands before a separator that it does not contain is told apart from what follows. -/
theorem append_cons_inj {c : α} (hxs : c ∉ xs) (hys : c ∉ ys) (h : xs ++ c :: as = ys ++ c :: bs) :
    xs = ys ∧ as = bs := by
  rcases List.append_eq_append_iff.1 h with ⟨zs, hzs, htail⟩ | ⟨zs, hzs, htail⟩
  · cases zs with
    | nil =>
      rw [List.append_nil] at hzs
      exact ⟨hzs.symm, (List.cons.inj htail).2⟩
    | cons z zs =>
      rw [hzs, (List.cons.inj htail).1] at hys
      exact absurd (List.mem_append_right _ List.mem_cons_self) hys
  · cases zs with
    | nil =>
      rw [List.append_nil] at hzs
      exact ⟨hzs, (List.cons.inj htail).2.symm⟩
    | cons z zs =>
      rw [hzs, (List.cons.inj htail).1] at hxs
      exact absurd (List.mem_append_right _ List.mem_cons_self) hxs

/-- What stands behind the last separator is told apart from what precedes. -/
theorem append_cons_inj_right {c : α} (has : c ∉ as) (hbs : c ∉ bs) (h : xs ++ c :: as = ys ++ c :: bs) :
    xs = ys ∧ as = bs := by
  have hreverse := congrArg List.reverse h
  rw [List.reverse_append, List.reverse_append, List.reverse_cons, List.reverse_cons, List.append_assoc,
    List.append_assoc, List.singleton_append, List.singleton_append] at hreverse
  obtain ⟨htail, hhead⟩ := append_cons_inj (mt List.mem_reverse.1 has) (mt List.mem_reverse.1 hbs) hreverse
  exact ⟨List.reverse_injective hhead, List.reverse_injective htail⟩

theorem separated_inj {first second rest rest' sep : String} {c : Char} (hsep : sep.toList = [c])
    (hfirst : c ∉ first.toList) (hsecond : c ∉ second.toList)
    (h : first ++ sep ++ rest = second ++ sep ++ rest') : first = second ∧ rest = rest' := by
  have hlist := congrArg String.toList h
  rw [String.toList_append, String.toList_append, String.toList_append, String.toList_append, hsep,
    List.append_assoc, List.append_assoc, List.singleton_append, List.singleton_append] at hlist
  obtain ⟨hhead, htail⟩ := append_cons_inj hfirst hsecond hlist
  exact ⟨String.toList_injective hhead, String.toList_injective htail⟩

theorem isDigit_of_mem_toString {n : Nat} (h : c ∈ (toString n).toList) : c.isDigit = true := by
  rw [Nat.toString_eq_ofList_toDigits, String.toList_ofList] at h
  exact Nat.isDigit_of_mem_toDigits (by decide) (Nat.le_refl 10) h

theorem not_mem_toString (hc : c.isDigit = false) (n : Nat) : c ∉ (toString n).toList := by
  intro h
  rw [isDigit_of_mem_toString h] at hc
  cases hc

theorem toString_nat_inj {n m : Nat} (h : toString n = toString m) : n = m := by
  have hlist := congrArg String.toList h
  rw [Nat.toString_eq_ofList_toDigits, Nat.toString_eq_ofList_toDigits, String.toList_ofList,
    String.toList_ofList] at hlist
  rw [← Nat.ofDigitChars_ten_toDigits (n := n), hlist, Nat.ofDigitChars_ten_toDigits]

theorem mem_splitOnP {p : α → Bool} {piece cs : List α} (hpiece : piece ∈ cs.splitOnP p) (hc : c ∈ piece) : c ∈ cs := by
  induction cs generalizing piece with
  | nil =>
    rw [List.splitOnP_nil, List.mem_singleton] at hpiece
    subst hpiece
    exact hc
  | cons d cs ih =>
    rw [List.splitOnP_cons_eq_if_modifyHead] at hpiece
    split at hpiece
    · rcases List.mem_cons.1 hpiece with rfl | hpiece
      · exact (List.not_mem_nil hc).elim
      · exact List.mem_cons_of_mem _ (ih hpiece hc)
    · cases hsplit : cs.splitOnP p with
      | nil => exact absurd hsplit (List.splitOnP_ne_nil _ _)
      | cons first rest =>
        rw [hsplit] at hpiece ih
        rcases List.mem_cons.1 hpiece with rfl | hpiece
        · rcases List.mem_cons.1 hc with rfl | hc
          · exact List.mem_cons_self
          · exact List.mem_cons_of_mem _ (ih List.mem_cons_self hc)
        · exact List.mem_cons_of_mem _ (ih (List.mem_cons_of_mem _ hpiece) hc)

theorem mem_intercalate {sep : List α} {pieces : List (List α)} (hc : c ∈ sep.intercalate pieces) :
    c ∈ sep ∨ ∃ piece ∈ pieces, c ∈ piece := by
  induction pieces with
  | nil => exact (List.not_mem_nil hc).elim
  | cons piece pieces ih =>
    cases pieces with
    | nil =>
      rw [List.intercalate_singleton] at hc
      exact .inr ⟨piece, List.mem_cons_self, hc⟩
    | cons other pieces =>
      rw [List.intercalate_cons_cons, List.append_assoc, List.mem_append, List.mem_append] at hc
      rcases hc with hc | hc | hc
      · exact .inr ⟨piece, List.mem_cons_self, hc⟩
      · exact .inl hc
      · rcases ih hc with hsep | ⟨piece', hpiece, hc⟩
        · exact .inl hsep
        · exact .inr ⟨piece', List.mem_cons_of_mem _ hpiece, hc⟩

end Python
