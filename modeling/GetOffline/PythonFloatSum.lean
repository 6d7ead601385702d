import GetOffline.PythonFloatOrder

set_option autoImplicit true

namespace Python
namespace Float64

section
variable {n d : Nat} {q r : ℚ}

/-- Rounding does not go above a value of the format. -/
theorem toRat_ofRatio_le {m : Nat} {k : Int} (hm : m ≤ 2 ^ 53) (hk : -1074 ≤ k) (hn : n ≠ 0) (hd : d ≠ 0)
    (hle : (n : ℚ) / d ≤ m * 2 ^ k) (hr : (ofRatio false n d).toRat = some r) : r ≤ m * 2 ^ k := by
  obtain ⟨e, hunit, hspec⟩ := ofRatio_spec false hn hd
  rw [hspec] at hr
  split at hr
  · cases hr
  · rw [toRat_finite] at hr
    obtain rfl := Option.some.inj hr
    rw [if_neg Bool.false_ne_true]
    rcases le_or_gt e k with hek | hke
    · obtain ⟨i, rfl⟩ : ∃ i : Nat, k = e + i := ⟨(k - e).toNat, by omega⟩
      have hmul : (m : ℚ) * 2 ^ (e + (i : Int)) = ((m * 2 ^ i : Nat) : ℚ) * 2 ^ e := by
        rw [zpow_add₀ two_ne_zero, zpow_natCast, Nat.cast_mul, Nat.cast_pow, Nat.cast_ofNat]
        ring
      rw [hmul] at hle ⊢
      exact mul_le_mul_of_nonneg_right (Nat.cast_le.2 (roundTo_le hle)) (two_zpow_pos e).le
    · -- only the least number with its unit is left
      have hm' : (m : ℚ) ≤ 2 ^ 53 := by exact_mod_cast hm
      have hlow : 2 ^ 52 * 2 ^ e ≤ (n : ℚ) / d := hunit.lower.resolve_left (by omega)
      have hhigh : (m : ℚ) * 2 ^ k ≤ 2 ^ 52 * 2 ^ e := by
        calc (m : ℚ) * 2 ^ k ≤ 2 ^ 53 * 2 ^ (e - 1) :=
              mul_le_mul hm' (zpow_le_zpow_right₀ one_le_two (by omega)) (two_zpow_pos k).le (by positivity)
          _ = 2 ^ 52 * 2 ^ e := by
            rw [zpow_sub_one₀ two_ne_zero]
            ring
      have hround : roundTo ((n : ℚ) / d) e ≤ 2 ^ 52 := roundTo_le (by exact_mod_cast hle.trans hhigh)
      have hround' : (roundTo ((n : ℚ) / d) e : ℚ) ≤ 2 ^ 52 := by exact_mod_cast hround
      calc (roundTo ((n : ℚ) / d) e : ℚ) * 2 ^ e ≤ 2 ^ 52 * 2 ^ e :=
            mul_le_mul_of_nonneg_right hround' (two_zpow_pos e).le
        _ ≤ (n : ℚ) / d := hlow
        _ ≤ m * 2 ^ k := hle

/-- A fraction within the format's reach of a grid is rounded to a number that is no further off than the
grid is wide. -/
theorem abs_ofRatio_sub_le {k : Int} (hk : -1074 ≤ k) (hd : d ≠ 0) (hmax : (n : ℚ) / d < 2 ^ 53 * 2 ^ k)
    (hr : (ofRatio false n d).toRat = some r) : |r - (n : ℚ) / d| ≤ 2 ^ k := by
  have hpos := two_zpow_pos k
  by_cases hn : n = 0
  · subst hn
    rw [ofRatio, if_pos rfl, toRat_of_mantissa_zero] at hr
    obtain rfl := Option.some.inj hr
    rw [Nat.cast_zero, zero_div, sub_zero, abs_zero]
    exact hpos.le
  · have hnonneg : (0 : ℚ) ≤ (n : ℚ) / d / 2 ^ k := by positivity
    have hfloor : (⌊(n : ℚ) / d / 2 ^ k⌋₊ : ℚ) * 2 ^ k ≤ (n : ℚ) / d :=
      (le_div_iff₀ hpos).1 (Nat.floor_le hnonneg)
    have hceil : (n : ℚ) / d ≤ ((⌊(n : ℚ) / d / 2 ^ k⌋₊ + 1 : Nat) : ℚ) * 2 ^ k := by
      rw [← div_le_iff₀ hpos, Nat.cast_add_one]
      exact (Nat.lt_floor_add_one _).le
    have hgrid : ⌊(n : ℚ) / d / 2 ^ k⌋₊ < 2 ^ 53 := by
      rw [Nat.floor_lt hnonneg, div_lt_iff₀ hpos]
      exact_mod_cast hmax
    have hlow := le_toRat_ofRatio hgrid.le hk hn hd hfloor hr
    have hhigh := toRat_ofRatio_le (Nat.succ_le_of_lt hgrid) hk hn hd hceil hr
    rw [Nat.cast_succ, add_mul, one_mul] at hhigh hceil
    rw [abs_le]
    constructor
    · linarith
    · linarith

theorem exists_ofRatio {k : Int} (hk : -1074 ≤ k) (hd : d ≠ 0) (hsmall : (n : ℚ) / d ≤ 2 ^ 53)
    (hmax : (n : ℚ) / d < 2 ^ 53 * 2 ^ k) :
    ∃ r, (ofRatio false n d).toRat = some r ∧ 0 ≤ r ∧ |r - (n : ℚ) / d| ≤ 2 ^ k := by
  by_cases hn : n = 0
  · subst hn
    have hr : (ofRatio false 0 d).toRat = some 0 := toRat_of_mantissa_zero _ _
    exact ⟨0, hr, le_rfl, abs_ofRatio_sub_le hk hd hmax hr⟩
  · obtain ⟨r, hr⟩ := (toRat_ofRatio_iff false hn hd).2 (lt_overflow hsmall)
    refine ⟨r, hr, ?_, abs_ofRatio_sub_le hk hd hmax hr⟩
    have hzero : ((0 : Nat) : ℚ) * 2 ^ k ≤ (n : ℚ) / d := by
      rw [Nat.cast_zero, zero_mul]
      positivity
    have hlow := le_toRat_ofRatio (Nat.zero_le _) hk hn hd hzero hr
    rwa [Nat.cast_zero, zero_mul] at hlow

/-- `int()` of a float that is not negative. -/
theorem toInt_eq {x : Float64} (hx : x.toRat = some q) (hq : 0 ≤ q) : x.toInt = .ok ⌊q⌋ := by
  cases x with
  | nan => cases hx
  | infinity => cases hx
  | finite negative mantissa exponent =>
    rw [toRat_finite] at hx
    obtain rfl := Option.some.inj hx
    have hmagnitude : ((mantissa * Nat.pow 2 exponent.toNat / Nat.pow 2 (-exponent).toNat : Nat) : Int) =
        ⌊(mantissa : ℚ) * 2 ^ exponent⌋ := by
      have hratio : (mantissa : ℚ) * 2 ^ exponent =
          ((mantissa * Nat.pow 2 exponent.toNat : Nat) : ℚ) / (Nat.pow 2 (-exponent).toNat : Nat) := by
        obtain ⟨i, rfl | rfl⟩ := exponent.eq_nat_or_neg
        · simp only [zpow_natCast, Int.toNat_natCast, Int.toNat_neg_natCast, Nat.pow_eq, pow_zero, Nat.cast_one,
            div_one, Nat.cast_mul, Nat.cast_pow, Nat.cast_ofNat]
        · simp only [zpow_neg, zpow_natCast, neg_neg, Int.toNat_natCast, Int.toNat_neg_natCast, Nat.pow_eq,
            pow_zero, mul_one, Nat.cast_pow, Nat.cast_ofNat, div_eq_mul_inv]
      rw [hratio, Rat.floor_natCast_div_natCast]
      rfl
    cases negative with
    | false => exact congrArg Except.ok hmagnitude
    | true =>
      rw [if_pos rfl] at hq ⊢
      have hzero : (mantissa : ℚ) * 2 ^ exponent = 0 := by
        have hnonneg : (0 : ℚ) ≤ (mantissa : ℚ) * 2 ^ exponent := by positivity
        linarith
      rw [hzero, Int.floor_zero] at hmagnitude
      rw [hzero, neg_zero, Int.floor_zero, toInt]
      rw [hmagnitude]
      rfl

end

section
variable {x y : Float64} {q r : ℚ}

/-- The sum of two floats that are not negative, within the format's reach of a grid. -/
theorem exists_add {k : Int} (hk : -1074 ≤ k) (hbinary : x.IsBinary64) (hx : x.toRat = some q)
    (hy : y.toRat = some r) (hq : 0 ≤ q) (hr : 0 ≤ r) (hsmall : q + r ≤ 2 ^ 53) (hmax : q + r < 2 ^ 53 * 2 ^ k) :
    ∃ t, (x.add y).toRat = some t ∧ q ≤ t ∧ |t - (q + r)| ≤ 2 ^ k := by
  obtain ⟨t, ht⟩ := (toRat_add_iff hx hy hq hr).2 (lt_overflow hsmall)
  refine ⟨t, ht, le_toRat_add hx hy hq hr hbinary ht, ?_⟩
  rcases lt_or_eq_of_le (add_nonneg hq hr) with hsum | hsum
  · rw [add_eq hx hy hsum] at ht
    rw [← natAbs_div_den hsum] at hmax ⊢
    exact abs_ofRatio_sub_le hk (Rat.den_ne_zero _) hmax ht
  · rw [toRat_add_of_zero hx hy hsum.symm] at ht
    obtain rfl := Option.some.inj ht
    rw [← hsum, sub_zero, abs_zero]
    exact (two_zpow_pos k).le

/-- `float()` of a whole number that the format has. -/
theorem toRat_ofNat {n : Nat} (hn : n ≤ 2 ^ 53) : (ofRatio false n 1).toRat = some (n : ℚ) := by
  by_cases hzero : n = 0
  · subst hzero
    exact toRat_of_mantissa_zero _ _
  · have hdiv : (n : ℚ) / (1 : Nat) = n * 2 ^ (0 : Int) := by
      rw [Nat.cast_one, div_one, zpow_zero, mul_one]
    have hle : (n : ℚ) ≤ 2 ^ 53 := by exact_mod_cast hn
    obtain ⟨r, hr⟩ := (toRat_ofRatio_iff false hzero one_ne_zero).2 (lt_overflow (by rw [hdiv]; simpa using hle))
    have hlow := le_toRat_ofRatio hn (by decide) hzero one_ne_zero hdiv.ge hr
    have hhigh := toRat_ofRatio_le hn (by decide) hzero one_ne_zero hdiv.le hr
    rw [hr, le_antisymm hhigh hlow, zpow_zero, mul_one]

end

end Float64
end Python
