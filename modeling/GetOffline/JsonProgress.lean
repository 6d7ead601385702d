import GetOffline.JsonText

set_option autoImplicit true

namespace Python

/-- Every result of the scanner leaves fewer than `n` characters. -/
def Leaves (n : Nat) (e : Except Error (α × List Char)) : Prop :=
  ∀ a cs, e = .ok (a, cs) → cs.length < n

theorem Leaves.error : Leaves n (.error e : Except Error (α × List Char)) := by
  intro a cs h
  cases h

theorem Leaves.ok (h : cs.length < n) : Leaves n (.ok (a, cs) : Except Error (α × List Char)) := by
  intro a' cs' h'
  cases h'
  exact h

theorem Leaves.mono {e : Except Error (α × List Char)} (h : Leaves m e) (hmn : m ≤ n) :
    Leaves n e := by
  intro a cs he
  exact Nat.lt_of_lt_of_le (h a cs he) hmn

theorem Leaves.map {e : Except Error (α × List Char)} (h : Leaves n e) (f : α → β) :
    Leaves n (e.map fun r => (f r.1, r.2)) := by
  cases e with
  | error e => exact Leaves.error
  | ok r => exact Leaves.ok (h r.1 r.2 rfl)

theorem Leaves.bind {e : Except Error (α × List Char)} {f : α × List Char → Except Error (β × List Char)}
    (h : Leaves m e) (hf : ∀ a cs, cs.length < m → Leaves n (f (a, cs))) : Leaves n (e >>= f) := by
  cases e with
  | error e => exact Leaves.error
  | ok r => exact hf r.1 r.2 (h r.1 r.2 rfl)

theorem length_skipSpace_le (cs : List Char) : (skipSpace cs).length ≤ cs.length :=
  List.length_dropWhile_le _ cs

theorem scanString_leaves (cs : List Char) : Leaves cs.length (scanString cs) := by
  fun_induction scanString cs with
  | case1 => exact Leaves.error
  | case2 cs => exact Leaves.ok (Nat.lt_succ_self _)
  | case3 => exact Leaves.error
  | case4 a b c d cs unit h ih => exact (ih.map _).mono (by simp only [List.length_cons]; omega)
  | case5 => exact Leaves.error
  | case6 c cs h char hc ih => exact (ih.map _).mono (by simp only [List.length_cons]; omega)
  | case7 => exact Leaves.error
  | case8 c cs _ _ _ hc ih => exact (ih.map _).mono (by simp only [List.length_cons]; omega)

theorem length_span_le (p : α → Bool) (cs : List α) : (cs.span p).2.length ≤ cs.length := by
  rw [List.span_eq_takeWhile_dropWhile]
  exact List.length_dropWhile_le p cs

theorem length_span_lt (p : α → Bool) (h : p c = true) :
    ((c :: cs).span p).2.length < (c :: cs).length := by
  rw [List.span_eq_takeWhile_dropWhile, List.dropWhile_cons_of_pos h]
  exact Nat.lt_succ_of_le (List.length_dropWhile_le p cs)

theorem scanText_leaves (cs : List Char) : Leaves cs.length (scanText cs) :=
  (scanString_leaves cs).map fun units => String.ofList (joinUnits units)

theorem scanIntPart_leaves (h : scanIntPart cs = some r) : r.2.length < cs.length := by
  revert h
  fun_cases scanIntPart cs with
  | case1 cs => rintro ⟨⟩; exact Nat.lt_succ_self _
  | case2 c cs hc0 hc => rintro ⟨⟩; exact length_span_lt _ hc
  | case3 c cs hc0 hc => exact nofun
  | case4 => exact nofun

theorem scanFraction_leaves (h : scanFraction cs = some r) : r.2.length ≤ cs.length := by
  revert h
  fun_cases scanFraction cs with
  | case1 c cs hc =>
    rintro ⟨⟩
    exact (length_span_le _ _).trans (Nat.le_succ _)
  | case2 => exact nofun
  | case3 => exact nofun

theorem scanExponentDigits_leaves (h : scanExponentDigits negative cs = some r) :
    r.2.length ≤ cs.length := by
  have hs := length_span_le isAsciiDigit cs
  revert h
  fun_cases scanExponentDigits negative cs with
  | case1 rest hcs => exact nofun
  | case2 ds rest _ hcs n =>
    rintro ⟨⟩
    rw [hcs] at hs
    exact hs

theorem scanExponent_leaves (h : scanExponent cs = some r) : r.2.length ≤ cs.length := by
  revert h
  fun_cases scanExponent cs with
  | case1 | case2 | case3 => 
    intro h
    have := scanExponentDigits_leaves h
    simp only [List.length_cons] at this ⊢
    omega
  | case4 | case5 => exact nofun

/-- The text after an optional part of a number. -/
theorem length_after_le {part : Option (α × List Char)}
    (h : ∀ r, part = some r → r.2.length ≤ cs.length) :
    ((part.map Prod.snd).getD cs).length ≤ cs.length := by
  cases part with
  | none => exact Nat.le_refl _
  | some r => exact h r rfl

theorem scanUnsigned_leaves (negative : Bool) (cs : List Char) :
    Leaves cs.length (scanUnsigned negative cs) := by
  fun_cases scanUnsigned negative cs with
  | case1 => exact Leaves.error
  | case2 => exact Leaves.error
  | case3 whole rest hw fraction afterFraction exponent afterExponent _ _ n =>
    have h1 : rest.length < cs.length := scanIntPart_leaves hw
    have h2 : afterFraction.length ≤ rest.length := length_after_le fun _ => scanFraction_leaves
    have h3 : afterExponent.length ≤ afterFraction.length :=
      length_after_le fun _ => scanExponent_leaves
    exact Leaves.ok (by omega)
  | case4 whole rest hw fraction afterFraction exponent afterExponent _ after =>
    have h1 : rest.length < cs.length := scanIntPart_leaves hw
    have h2 : afterFraction.length ≤ rest.length := length_after_le fun _ => scanFraction_leaves
    have h3 : afterExponent.length ≤ afterFraction.length :=
      length_after_le fun _ => scanExponent_leaves
    exact Leaves.ok (by omega)

theorem scanAtom_leaves (cs : List Char) : Leaves cs.length (scanAtom cs) := by
  fun_cases scanAtom cs with
  | case1 | case2 | case3 | case4 | case5 | case6 =>
    exact Leaves.ok (by simp only [List.length_cons]; omega)
  | case7 cs => exact (scanUnsigned_leaves true cs).mono (Nat.le_succ _)
  | case8 => exact scanUnsigned_leaves false cs

theorem length_of_skipSpace (h : skipSpace cs = c :: rest) : rest.length < cs.length := by
  have hs := length_skipSpace_le cs
  rw [h] at hs
  exact hs

theorem scan_leaves (fuel : Nat) :
    (∀ depth cs, Leaves cs.length (scanOnce fuel depth cs)) ∧
    (∀ depth members cs, Leaves cs.length (scanMembers fuel depth members cs)) ∧
    (∀ depth items cs, Leaves cs.length (scanItems fuel depth items cs)) := by
  induction fuel with
  | zero => exact ⟨fun _ _ => Leaves.error, fun _ _ _ => Leaves.error, fun _ _ _ => Leaves.error⟩
  | succ fuel ih =>
    obtain ⟨ihOnce, ihMembers, ihItems⟩ := ih
    refine ⟨fun depth cs => ?once, fun depth members cs => ?members, fun depth items cs => ?items⟩
    case once =>
      unfold scanOnce
      split
      case h_1 cs => exact ((scanText_leaves cs).map Json.string).mono (Nat.le_succ _)
      case h_2 cs =>
        have hs := length_skipSpace_le cs
        cases depth with
        | zero => exact Leaves.error
        | succ depth =>
          dsimp only
          split
          case h_1 rest h => exact Leaves.ok ((length_of_skipSpace h).trans (Nat.lt_succ_self _))
          case h_2 => exact (ihMembers _ _ _).mono (Nat.le_succ_of_le hs)
      case h_3 cs =>
        have hs := length_skipSpace_le cs
        cases depth with
        | zero => exact Leaves.error
        | succ depth =>
          dsimp only
          split
          case h_1 rest h => exact Leaves.ok ((length_of_skipSpace h).trans (Nat.lt_succ_self _))
          case h_2 => exact (ihItems _ _ _).mono (Nat.le_succ_of_le hs)
      case h_4 => exact scanAtom_leaves cs
    case members =>
      unfold scanMembers
      split
      case h_1 cs =>
        apply (scanText_leaves cs).bind
        intro key afterKey hkey
        dsimp only
        split
        case h_1 afterColon hcolon =>
          apply (ihOnce depth (skipSpace afterColon)).bind
          intro value afterValue hvalue
          have hs := length_skipSpace_le afterColon
          have hc := length_of_skipSpace hcolon
          dsimp only
          split
          case h_1 afterComma hcomma =>
            have hv := length_of_skipSpace hcomma
            have hm := length_skipSpace_le afterComma
            exact (ihMembers _ _ _).mono (by simp only [List.length_cons]; omega)
          case h_2 afterBrace hbrace =>
            have hv := length_of_skipSpace hbrace
            exact Leaves.ok (by simp only [List.length_cons]; omega)
          case h_3 => exact Leaves.error
        case h_2 => exact Leaves.error
      case h_2 => exact Leaves.error
    case items =>
      unfold scanItems
      apply (ihOnce depth cs).bind
      intro value afterValue hvalue
      dsimp only
      split
      case h_1 afterComma hcomma =>
        have hv := length_of_skipSpace hcomma
        have hm := length_skipSpace_le afterComma
        exact (ihItems _ _ _).mono (by omega)
      case h_2 afterBracket hbracket =>
        exact Leaves.ok ((length_of_skipSpace hbracket).trans hvalue)
      case h_3 => exact Leaves.error

/-- Two scanners agree on a text when they agree on the one that a first scanner leaves. -/
theorem Leaves.bind_congr {e : Except Error (α × List Char)}
    {f g : α × List Char → Except Error (β × List Char)} (h : Leaves n e)
    (hfg : ∀ a cs, cs.length < n → f (a, cs) = g (a, cs)) : e >>= f = e >>= g := by
  cases e with
  | error e => rfl
  | ok r => exact hfg r.1 r.2 (h r.1 r.2 rfl)

/-- Fuel of twice the length of the text is never used up. -/
theorem scan_fuel (fuel : Nat) :
    (∀ fuel' depth cs, 2 * cs.length < fuel → 2 * cs.length < fuel' →
      scanOnce fuel depth cs = scanOnce fuel' depth cs) ∧
    (∀ fuel' depth members cs, 2 * cs.length < fuel → 2 * cs.length < fuel' →
      scanMembers fuel depth members cs = scanMembers fuel' depth members cs) ∧
    (∀ fuel' depth items cs, 2 * cs.length + 1 < fuel → 2 * cs.length + 1 < fuel' →
      scanItems fuel depth items cs = scanItems fuel' depth items cs) := by
  induction fuel with
  | zero => exact ⟨nofun, nofun, nofun⟩
  | succ fuel ih =>
    obtain ⟨ihOnce, ihMembers, ihItems⟩ := ih
    refine ⟨fun fuel' depth cs h h' => ?once, fun fuel' depth members cs h h' => ?members,
      fun fuel' depth items cs h h' => ?items⟩
    case once =>
      obtain ⟨fuel', rfl⟩ : ∃ n, fuel' = n + 1 := ⟨fuel' - 1, by omega⟩
      unfold scanOnce
      split
      case h_1 => rfl
      case h_2 cs =>
        have hs := length_skipSpace_le cs
        simp only [List.length_cons] at h h'
        cases depth with
        | zero => rfl
        | succ depth =>
          dsimp only
          split
          case h_1 => rfl
          case h_2 => exact ihMembers _ _ _ _ (by omega) (by omega)
      case h_3 cs =>
        have hs := length_skipSpace_le cs
        simp only [List.length_cons] at h h'
        cases depth with
        | zero => rfl
        | succ depth =>
          dsimp only
          split
          case h_1 => rfl
          case h_2 => exact ihItems _ _ _ _ (by omega) (by omega)
      case h_4 => rfl
    case members =>
      obtain ⟨fuel', rfl⟩ : ∃ n, fuel' = n + 1 := ⟨fuel' - 1, by omega⟩
      unfold scanMembers
      split
      case h_1 cs =>
        simp only [List.length_cons] at h h'
        apply (scanText_leaves cs).bind_congr
        intro key afterKey hkey
        dsimp only
        split
        case h_1 afterColon hcolon =>
          have hs := length_skipSpace_le afterColon
          have hc := length_of_skipSpace hcolon
          rw [ihOnce fuel' depth (skipSpace afterColon) (by omega) (by omega)]
          apply ((scan_leaves fuel').1 depth (skipSpace afterColon)).bind_congr
          intro value afterValue hvalue
          dsimp only
          split
          case h_1 afterComma hcomma =>
            have hv := length_of_skipSpace hcomma
            have hm := length_skipSpace_le afterComma
            exact ihMembers _ _ _ _ (by omega) (by omega)
          case h_2 => rfl
          case h_3 => rfl
        case h_2 => rfl
      case h_2 => rfl
    case items =>
      obtain ⟨fuel', rfl⟩ : ∃ n, fuel' = n + 1 := ⟨fuel' - 1, by omega⟩
      unfold scanItems
      rw [ihOnce fuel' depth cs (by omega) (by omega)]
      apply ((scan_leaves fuel').1 depth cs).bind_congr
      intro value afterValue hvalue
      dsimp only
      split
      case h_1 afterComma hcomma =>
        have hv := length_of_skipSpace hcomma
        have hm := length_skipSpace_le afterComma
        exact ihItems _ _ _ _ (by omega) (by omega)
      case h_2 => rfl
      case h_3 => rfl

/-- `json.loads` does not depend on the fuel that it is given. -/
theorem scanOnce_fuel (h : 2 * cs.length < fuel) (depth : Nat) :
    scanOnce fuel depth cs = scanOnce (2 * cs.length + 1) depth cs :=
  (scan_fuel fuel).1 _ depth cs h (Nat.lt_succ_self _)

end Python
