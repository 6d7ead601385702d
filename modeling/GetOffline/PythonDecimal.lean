import GetOffline.PythonIsoformat
import GetOffline.PythonStrip

set_option autoImplicit true

namespace Python

theorem digit_range {c : Char} (h : c.isDigit) : 48 ≤ c.toNat ∧ c.toNat ≤ 57 :=
  Char.isDigit_iff_toNat.1 h

theorem decimalValue_digit {c : Char} (h : c.isDigit) : decimalValue c = some (c.toNat - 48) := by
  obtain ⟨hlow, hhigh⟩ := digit_range h
  obtain ⟨zeros, hzeros⟩ : ∃ zeros, decimalZeros = 48 :: zeros := ⟨_, rfl⟩
  have hfirst : (decide (48 ≤ c.toNat) && decide (c.toNat < 48 + 10)) = true := by
    rw [Bool.and_eq_true, decide_eq_true_eq, decide_eq_true_eq]
    omega
  rw [decimalValue, hzeros, List.find?_cons, hfirst]
  rfl

/-- A decimal digit follows the zero of its script. -/
theorem decimalValue_eq_some (h : decimalValue c = some d) :
    ∃ z ∈ decimalZeros, d < 10 ∧ c.toNat = z + d := by
  obtain ⟨z, hz, rfl⟩ := Option.map_eq_some_iff.1 h
  have hrange := List.find?_some hz
  rw [Bool.and_eq_true, decide_eq_true_eq, decide_eq_true_eq] at hrange
  refine ⟨z, List.mem_of_find?_eq_some hz, ?_, ?_⟩
  · omega
  · omega

theorem isSpace_decimal (h : decimalValue c = some d) : isSpace c = false := by
  obtain ⟨z, hz, hd, hc⟩ := decimalValue_eq_some h
  have hall : ∀ z ∈ decimalZeros, ∀ d < 10, ((9 ≤ z + d && z + d ≤ 13) || (28 ≤ z + d && z + d ≤ 32) ||
      z + d == 0x85 || z + d == 0xA0 || z + d == 0x1680 || (0x2000 ≤ z + d && z + d ≤ 0x200A) ||
      z + d == 0x2028 || z + d == 0x2029 || z + d == 0x202F || z + d == 0x205F ||
      z + d == 0x3000) = false := by decide +kernel
  rw [isSpace, hc]
  exact hall z hz d hd

theorem mapM_decimalValue {cs : List Char} (h : ∀ c ∈ cs, c.isDigit) :
    cs.mapM decimalValue = some (cs.map fun c => c.toNat - 48) := by
  induction cs with
  | nil => rfl
  | cons c cs ih =>
    rw [List.forall_mem_cons] at h
    rw [List.mapM_cons, decimalValue_digit h.1, ih h.2]
    rfl

/-- The value of a digit of a text that has nothing else. -/
theorem decimalValue_of_mem {cs : List Char} (h : cs.mapM decimalValue = some ds) (hc : c ∈ cs) :
    ∃ d, decimalValue c = some d := by
  induction cs generalizing ds with
  | nil => exact absurd hc List.not_mem_nil
  | cons a cs ih =>
    rw [List.mapM_cons] at h
    obtain ⟨d, hd, h⟩ := Option.bind_eq_some_iff.1 h
    obtain ⟨rest, hrest, -⟩ := Option.bind_eq_some_iff.1 h
    rcases List.mem_cons.1 hc with rfl | hc
    · exact ⟨d, hd⟩
    · exact ih hrest hc

theorem decimalDigits_eq_mapM {cs : List Char} (hne : cs ≠ []) (h : cs.mapM decimalValue = some ds) :
    decimalDigits cs = some ds := by
  induction cs generalizing ds with
  | nil => exact absurd rfl hne
  | cons c cs ih =>
    rw [List.mapM_cons] at h
    obtain ⟨d, hd, htail⟩ := Option.bind_eq_some_iff.1 h
    obtain ⟨rest, hrest, hds⟩ := Option.bind_eq_some_iff.1 htail
    cases cs with
    | nil =>
      rw [List.mapM_nil] at hrest
      obtain rfl := Option.some.inj hrest
      rw [decimalDigits, hd]
      exact hds
    | cons c' cs =>
      have hc' : c' ≠ '_' := by
        rintro rfl
        obtain ⟨d', hd'⟩ := decimalValue_of_mem hrest List.mem_cons_self
        rw [show decimalValue '_' = none by decide] at hd'
        cases hd'
      rw [decimalDigits, hd, ih (List.cons_ne_nil _ _) hrest]
      · exact hds
      · exact List.cons_ne_nil _ _
      · exact fun _ heq => hc' (List.cons.inj heq).1

theorem ofDigits_map (cs : List Char) :
    ofDigits (cs.map fun c => c.toNat - 48) = Nat.ofDigitChars 10 cs 0 := by
  rw [ofDigits, List.foldl_map, Nat.ofDigitChars_eq_foldl]
  rfl

theorem trimmed_of_decimals {cs : List Char} (h : cs.mapM decimalValue = some ds) : Trimmed cs where
  head c hc := by
    obtain ⟨d, hd⟩ := decimalValue_of_mem h (List.mem_of_mem_head? hc)
    exact isSpace_decimal hd
  last c hc := by
    obtain ⟨d, hd⟩ := decimalValue_of_mem h (List.mem_of_mem_getLast? hc)
    exact isSpace_decimal hd

/-- `int()` of decimal digits alone: there is a limit to their number. -/
theorem intOfText_digits {text : String} (hne : text.toList ≠ [])
    (h : text.toList.mapM decimalValue = some ds) :
    intOfText text = if intMaxStrDigits < ds.length then .error .valueError else .ok (ofDigits ds : Int) := by
  have hdigits : intOfDigits text.toList =
      if intMaxStrDigits < ds.length then .error .valueError else .ok (ofDigits ds) := by
    rw [intOfDigits, decimalDigits_eq_mapM hne h]
  have hsign (c : Char) (cs : List Char) (hc : decimalValue c = none) : text.toList ≠ c :: cs := by
    intro heq
    rw [heq] at h
    obtain ⟨d, hd⟩ := decimalValue_of_mem h List.mem_cons_self
    rw [hc] at hd
    cases hd
  rw [intOfText, stripChars_of_trimmed (trimmed_of_decimals h)]
  split
  · next cs heq => exact absurd heq (hsign '-' cs (by decide))
  · next cs heq => exact absurd heq (hsign '+' cs (by decide))
  · rw [hdigits]
    split
    · rfl
    · rfl

theorem intOfText_decimals {text : String} (hne : text.toList ≠ [])
    (h : text.toList.mapM decimalValue = some ds) (hlength : ds.length ≤ intMaxStrDigits) :
    intOfText text = .ok (ofDigits ds) := by
  rw [intOfText_digits hne h, if_neg (not_lt.2 hlength)]

theorem pad_ne_nil (width n : Nat) : (pad width n).toList ≠ [] := by
  rw [toList_pad]
  exact List.append_ne_nil_of_right_ne_nil _ Nat.toDigits_ne_nil

theorem length_pad_le {width n : Nat} (hwidth : width ≤ intMaxStrDigits)
    (hn : n < 10 ^ intMaxStrDigits) : (pad width n).toList.length ≤ intMaxStrDigits := by
  have hle := (Nat.length_toDigits_le_iff (by decide) (by decide : 0 < intMaxStrDigits)).2 hn
  rw [toList_pad, List.length_append, List.length_replicate]
  omega

end Python
