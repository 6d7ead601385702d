import GetOffline.PythonFloat
import GetOffline.PythonRound
import Mathlib.Algebra.Order.Field.Power
import Mathlib.Data.Rat.Floor

set_option autoImplicit true

namespace Python

theorem scaleBy_pos (e : Int) (n : Nat) (hd : 0 < d) : 0 < (scaleBy e n d).2 := by
  rw [scaleBy]
  split
  · exact Nat.mul_pos hd (Nat.two_pow_pos _)
  · exact hd

/-- What `scaleBy` is for. -/
theorem scaleBy_ratio (e : Int) (n d : Nat) :
    ((scaleBy e n d).1 : ℚ) / (scaleBy e n d).2 = n / d / 2 ^ e := by
  rw [scaleBy]
  split
  · next he =>
    obtain ⟨k, rfl⟩ := Int.eq_ofNat_of_zero_le he
    rw [Int.toNat_natCast, zpow_natCast, Nat.pow_eq, Nat.cast_mul, Nat.cast_pow,
      Nat.cast_ofNat, div_div]
  · next he =>
    obtain ⟨k, hk⟩ := Int.eq_ofNat_of_zero_le (show 0 ≤ -e by omega)
    obtain rfl : e = -(k : Int) := by omega
    rw [neg_neg, Int.toNat_natCast, zpow_neg, zpow_natCast, div_inv_eq_mul, Nat.pow_eq, Nat.cast_mul,
      Nat.cast_pow, Nat.cast_ofNat, mul_div_right_comm]

theorem roundHalfEven_eq (n : Nat) (hd : 0 < d) : (roundHalfEven n d : Int) = roundToEven (n / d) := by
  have hd' : (0 : ℚ) < d := Nat.cast_pos.2 hd
  have hfloor : ⌊(n : ℚ) / d⌋ = (n / d : Nat) := by
    rw [← Int.cast_natCast, Rat.floor_intCast_div_natCast]
    rfl
  have hfraction : (n : ℚ) / d - ((n / d : Nat) : Int) = ((n % d : Nat) : ℚ) / d := by
    have hdiv : ((d * (n / d) + n % d : Nat) : ℚ) = n := by rw [Nat.div_add_mod]
    rw [Int.cast_natCast, eq_div_iff hd'.ne', sub_mul, div_mul_cancel₀ _ hd'.ne', ← hdiv, Nat.cast_add,
      Nat.cast_mul]
    ring
  have hlow : ((n % d : Nat) : ℚ) / d < 1 / 2 ↔ 2 * (n % d) < d := by
    rw [div_lt_div_iff₀ hd' two_pos, one_mul, mul_comm]
    norm_cast
  have hhigh : 1 / 2 < ((n % d : Nat) : ℚ) / d ↔ d < 2 * (n % d) := by
    rw [div_lt_div_iff₀ two_pos hd', one_mul, mul_comm]
    norm_cast
  rw [roundHalfEven, roundToEven, hfloor, hfraction]
  simp only [hlow, hhigh]
  split
  · rfl
  · split
    · rfl
    · rfl

namespace Float64

@[simp] theorem toRat_finite (negative : Bool) (mantissa : Nat) (exponent : Int) :
    (finite negative mantissa exponent).toRat =
      some (if negative then -((mantissa : ℚ) * 2 ^ exponent) else (mantissa : ℚ) * 2 ^ exponent) := by
  rw [toRat, scaleBy_ratio, Nat.cast_one, div_one, zpow_neg, div_inv_eq_mul]

theorem toRat_zero : zero.toRat = some 0 := by
  rw [zero, toRat_finite, Nat.cast_zero, zero_mul]
  rfl

theorem toRat_of_mantissa_zero (negative : Bool) (exponent : Int) :
    (finite negative 0 exponent).toRat = some 0 := by
  rw [toRat_finite, Nat.cast_zero, zero_mul, neg_zero, ite_self]

/-- The order of finite floats is that of the numbers. -/
theorem lt_iff (hx : toRat x = some q) (hy : toRat y = some r) : x.lt y = true ↔ q < r := by
  cases x with
  | nan => cases hx
  | infinity => cases hx
  | finite =>
    cases y with
    | nan => cases hy
    | infinity => cases hy
    | finite => rw [lt, hx, hy, decide_eq_true_eq, Option.getD_some, Option.getD_some]

theorem toRat_max (hx : toRat x = some q) (hy : toRat y = some r) :
    (x.max y).toRat = some (Max.max q r) := by
  rw [max]
  split
  · next hlt => rw [hy, max_eq_right ((lt_iff hx hy).1 hlt).le]
  · next hle => rw [hx, max_eq_left (not_lt.1 fun hlt => hle ((lt_iff hx hy).2 hlt))]

/-- `max(0.0, x)` is `0.0` for what is no positive number. -/
theorem zero_max_eq_zero : zero.max x = zero ↔ zero.lt x = false := by
  rw [max]
  split
  · next hlt =>
    rw [hlt]
    refine iff_of_false ?_ Bool.true_eq_false.mp
    rintro rfl
    exact absurd hlt (by decide +kernel)
  · next hle => exact iff_of_true rfl (eq_false_of_ne_true hle)

theorem toRat_orZero (h : toRat x = some q) : x.orZero.toRat = some q := by
  cases x with
  | nan => cases h
  | infinity => cases h
  | finite negative mantissa exponent =>
    cases mantissa with
    | zero => exact toRat_zero.trans ((toRat_of_mantissa_zero negative exponent).symm.trans h)
    | succ mantissa => exact h

/-- The values of the format: at most 53 bits, and no exponent below that of the subnormal ones. -/
def IsBinary64 : Float64 → Prop
  | .finite _ mantissa exponent => mantissa ≤ 2 ^ 53 ∧ -1074 ≤ exponent
  | _ => True

/-- The least number that is rounded to infinity: half a unit above the largest float. -/
def overflow : ℚ := 2 ^ 1024 - 2 ^ 970

/-- `q` in units of `2 ^ e`, rounded. -/
def roundTo (q : ℚ) (e : Int) : Nat := (roundToEven (q / 2 ^ e)).toNat

/-- The exponent of a rounded number: 53 bits are kept, unless it is subnormal. -/
structure Unit (q : ℚ) (e : Int) : Prop where
  least : -1074 ≤ e
  upper : q < 2 ^ 53 * 2 ^ e
  lower : e = -1074 ∨ 2 ^ 52 * 2 ^ e ≤ q

section
variable {q : ℚ} {e : Int} {n d : Nat}

theorem two_zpow_pos (e : Int) : (0 : ℚ) < 2 ^ e := zpow_pos two_pos e

theorem log2_bounds (hn : n ≠ 0) : (2 : ℚ) ^ (n.log2 : Int) ≤ n ∧ (n : ℚ) < 2 ^ ((n.log2 : Int) + 1) := by
  constructor
  · rw [zpow_natCast]
    exact_mod_cast Nat.log2_self_le hn
  · rw [← Nat.cast_one (R := Int), ← Nat.cast_add, zpow_natCast]
    exact_mod_cast Nat.lt_log2_self (n := n)

theorem unit_max (hlower : 2 ^ 52 * 2 ^ e ≤ q) (hupper : q < 2 ^ 53 * 2 ^ e) :
    Unit q (Max.max e (-1074)) := by
  rcases le_total e (-1074) with he | he
  · rw [max_eq_right he]
    refine ⟨le_rfl, hupper.trans_le ?_, .inl rfl⟩
    have hmono : (2 : ℚ) ^ e ≤ 2 ^ (-1074 : Int) := zpow_le_zpow_right₀ one_le_two he
    linarith
  · rw [max_eq_left he]
    exact ⟨he, hupper, .inr hlower⟩

/-- How the exponent is found. -/
theorem unit_of_log2 (hn : n ≠ 0) (hd : d ≠ 0) :
    Unit ((n : ℚ) / d)
      (Max.max (if (scaleBy ((n.log2 : Int) - d.log2 - 52) n d).1 /
          (scaleBy ((n.log2 : Int) - d.log2 - 52) n d).2 < Nat.pow 2 52 then
        (n.log2 : Int) - d.log2 - 52 - 1 else (n.log2 : Int) - d.log2 - 52) (-1074)) := by
  obtain ⟨hnlow, hnhigh⟩ := log2_bounds hn
  obtain ⟨hdlow, hdhigh⟩ := log2_bounds hd
  have hd' : (0 : ℚ) < d := Nat.cast_pos.2 (Nat.pos_of_ne_zero hd)
  generalize he : (n.log2 : Int) - d.log2 - 52 = e
  have hpos := scaleBy_pos e n (Nat.pos_of_ne_zero hd)
  -- between a quarter and a half of the largest mantissa
  have hlow : 2 ^ 51 * 2 ^ e ≤ (n : ℚ) / d := by
    rw [le_div_iff₀ hd']
    calc (2 : ℚ) ^ 51 * 2 ^ e * d ≤ 2 ^ 51 * 2 ^ e * 2 ^ ((d.log2 : Int) + 1) :=
          mul_le_mul_of_nonneg_left hdhigh.le (by positivity)
      _ = 2 ^ (n.log2 : Int) := by
        rw [← zpow_natCast, ← zpow_add₀ two_ne_zero, ← zpow_add₀ two_ne_zero]
        congr 1
        omega
      _ ≤ n := hnlow
  have hhigh : (n : ℚ) / d < 2 ^ 53 * 2 ^ e := by
    rw [div_lt_iff₀ hd']
    calc (n : ℚ) < 2 ^ ((n.log2 : Int) + 1) := hnhigh
      _ = 2 ^ 53 * 2 ^ e * 2 ^ (d.log2 : Int) := by
        rw [← zpow_natCast, ← zpow_add₀ two_ne_zero, ← zpow_add₀ two_ne_zero]
        congr 1
        omega
      _ ≤ 2 ^ 53 * 2 ^ e * d := mul_le_mul_of_nonneg_left hdlow (by positivity)
  have hfloor : (scaleBy e n d).1 / (scaleBy e n d).2 < Nat.pow 2 52 ↔ (n : ℚ) / d < 2 ^ 52 * 2 ^ e := by
    rw [Nat.div_lt_iff_lt_mul hpos, ← div_lt_iff₀ (two_zpow_pos e), ← scaleBy_ratio,
      div_lt_iff₀ (Nat.cast_pos.2 hpos), Nat.pow_eq]
    norm_cast
  split
  · next hless =>
    have hhalf : (2 : ℚ) ^ e = 2 * 2 ^ (e - 1) := by
      rw [← zpow_one_add₀ two_ne_zero, add_sub_cancel]
    rw [hfloor] at hless
    apply unit_max
    · rw [hhalf] at hlow
      linarith
    · rw [hhalf] at hless
      linarith
  · next hge => exact unit_max (not_lt.1 fun hless => hge (hfloor.2 hless)) hhigh

/-- A fraction is rounded to a multiple of its unit. -/
theorem ofRatio_spec (negative : Bool) (hn : n ≠ 0) (hd : d ≠ 0) :
    ∃ e, Unit ((n : ℚ) / d) e ∧ ofRatio negative n d =
      if 1024 ≤ ((roundTo ((n : ℚ) / d) e).log2 : Int) + e then .infinity negative
      else .finite negative (roundTo ((n : ℚ) / d) e) e := by
  refine ⟨_, unit_of_log2 hn hd, ?_⟩
  rw [ofRatio, if_neg hn]
  dsimp only
  rw [roundTo, ← scaleBy_ratio, ← roundHalfEven_eq _ (scaleBy_pos _ _ (Nat.pos_of_ne_zero hd)),
    Int.toNat_natCast]

theorem ofDecimal_eq (negative : Bool) (digits : Nat) (exponent : Int) :
    ofDecimal negative digits exponent =
      ofRatio negative (digits * 10 ^ exponent.toNat) (10 ^ (-exponent).toNat) := by
  have hpow : 10 ^ exponent.toNat ≠ 0 := pow_ne_zero _ (by decide)
  rw [ofDecimal, ofRatio]
  simp only [mul_eq_zero, hpow, or_false, Nat.pow_eq]

theorem le_roundTo {k : Nat} (h : k * 2 ^ e ≤ q) : k ≤ roundTo q e := by
  have hk : ((k : Int) : ℚ) ≤ q / 2 ^ e := by
    rw [le_div_iff₀ (two_zpow_pos e), Int.cast_natCast]
    exact h
  have hmono := roundToEven_mono hk
  rw [roundToEven_intCast] at hmono
  rw [roundTo]
  omega

theorem roundTo_le {k : Nat} (h : q ≤ k * 2 ^ e) : roundTo q e ≤ k := by
  have hk : q / 2 ^ e ≤ ((k : Int) : ℚ) := by
    rw [div_le_iff₀ (two_zpow_pos e), Int.cast_natCast]
    exact h
  have hmono := roundToEven_mono hk
  rw [roundToEven_intCast] at hmono
  exact Int.toNat_le.2 hmono

theorem roundTo_le_pow (h : Unit q e) : roundTo q e ≤ 2 ^ 53 :=
  roundTo_le (by exact_mod_cast h.upper.le)

theorem pow_le_roundTo (h : Unit q e) (he : e ≠ -1074) : 2 ^ 52 ≤ roundTo q e :=
  le_roundTo (by exact_mod_cast h.lower.resolve_left he)

theorem overflow_eq : overflow = (2 ^ 54 - 1) * 2 ^ (970 : Int) := by
  have hpow : (2 : ℚ) ^ 1024 = 2 ^ 54 * 2 ^ 970 := by rw [← pow_add]
  have hcast : (2 : ℚ) ^ (970 : Int) = 2 ^ 970 := zpow_natCast 2 970
  rw [overflow, hpow, hcast, sub_mul, one_mul]

theorem lt_overflow (h : q ≤ 2 ^ 53) : q < overflow := by
  have hone : (1 : ℚ) ≤ 2 ^ (970 : Int) := one_le_zpow₀ one_le_two (by decide)
  rw [overflow_eq]
  generalize (2 : ℚ) ^ (970 : Int) = u at hone ⊢
  linarith

/-- The numbers that are rounded to infinity. -/
theorem overflow_iff (h : Unit q e) :
    1024 ≤ ((roundTo q e).log2 : Int) + e ↔ overflow ≤ q := by
  have hpos := two_zpow_pos 970
  have hmono {i j : Int} (hij : i ≤ j) : (2 : ℚ) ^ i ≤ 2 ^ j := zpow_le_zpow_right₀ one_le_two hij
  have hnext (i : Int) : (2 : ℚ) ^ (i + 1) = 2 * 2 ^ i := by
    rw [zpow_add_one₀ two_ne_zero, mul_comm]
  rw [overflow_eq]
  rcases lt_trichotomy e 971 with he | rfl | he
  · refine iff_of_false ?_ ?_
    · have hlog : (roundTo q e).log2 < 54 := by
        rcases Nat.eq_zero_or_pos (roundTo q e) with hzero | hm
        · rw [hzero, Nat.log2_zero]
          decide
        · exact (Nat.log2_lt hm.ne').2 ((roundTo_le_pow h).trans_lt (by decide))
      omega
    · have hq := h.upper
      have hpow := hmono (show e ≤ 970 by omega)
      rw [not_le]
      generalize (2 : ℚ) ^ (970 : Int) = u at hpow hpos ⊢
      linarith
  · have hpow := pow_le_roundTo h (by decide)
    have hne : roundTo q 971 ≠ 0 := Nat.ne_of_gt ((Nat.two_pow_pos 52).trans_le hpow)
    have hhalf : ((2 * 2 ^ 52 : Int) : ℚ) - 1 / 2 ≤ q / 2 ^ (971 : Int) ↔
        (2 ^ 54 - 1) * 2 ^ (970 : Int) ≤ q := by
      have hunit : (((2 * 2 ^ 52 : Int) : ℚ) - 1 / 2) * 2 ^ (971 : Int) =
          (2 ^ 54 - 1) * 2 ^ (970 : Int) := by
        rw [show (971 : Int) = 970 + 1 from rfl, hnext]
        generalize (2 : ℚ) ^ (970 : Int) = u
        push_cast
        ring
      rw [le_div_iff₀ (two_zpow_pos _), hunit]
    have hround := not_congr (roundToEven_lt_even (x := q / 2 ^ (971 : Int)) (k := 2 ^ 52))
    rw [not_lt, not_lt] at hround
    have hlog : 53 ≤ (roundTo q 971).log2 ↔ 2 ^ 53 ≤ roundTo q 971 := Nat.le_log2 hne
    have hlarge : 2 ^ 53 ≤ roundTo q 971 ↔ 2 * 2 ^ 52 ≤ roundToEven (q / 2 ^ (971 : Int)) := by
      rw [roundTo]
      omega
    rw [← hhalf]
    constructor
    · intro hinfinite
      exact hround.1 (hlarge.1 (hlog.1 (by omega)))
    · intro hq
      have := hlog.2 (hlarge.2 (hround.2 hq))
      omega
  · refine iff_of_true ?_ ?_
    · have hpow := pow_le_roundTo h (by omega)
      have hlog : 52 ≤ (roundTo q e).log2 :=
        (Nat.le_log2 (Nat.ne_of_gt ((Nat.two_pow_pos 52).trans_le hpow))).2 hpow
      omega
    · have hlow := h.lower.resolve_left (by omega)
      have hpow := hmono (show (970 : Int) + 1 + 1 ≤ e by omega)
      rw [hnext, hnext] at hpow
      generalize (2 : ℚ) ^ (970 : Int) = u at hpow hpos ⊢
      linarith

theorem toRat_ofRatio_iff (negative : Bool) (hn : n ≠ 0) (hd : d ≠ 0) :
    (∃ r, (ofRatio negative n d).toRat = some r) ↔ (n : ℚ) / d < overflow := by
  obtain ⟨e, hunit, hspec⟩ := ofRatio_spec negative hn hd
  rw [hspec, ← not_le, ← overflow_iff hunit]
  split
  · next hinfinite =>
    refine iff_of_false ?_ (not_not_intro hinfinite)
    rintro ⟨r, hr⟩
    cases hr
  · next hfinite => exact iff_of_true ⟨_, toRat_finite _ _ _⟩ hfinite

theorem isBinary64_ofRatio (negative : Bool) (n : Nat) (hd : d ≠ 0) :
    (ofRatio negative n d).IsBinary64 := by
  by_cases hn : n = 0
  · rw [ofRatio, if_pos hn]
    exact ⟨Nat.zero_le _, by decide⟩
  · obtain ⟨e, hunit, hspec⟩ := ofRatio_spec negative hn hd
    rw [hspec]
    split
    · trivial
    · exact ⟨roundTo_le_pow hunit, hunit.least⟩

/-- Rounding does not go below a value of the format. -/
theorem le_toRat_ofRatio {m : Nat} {k : Int} (hm : m ≤ 2 ^ 53) (hk : -1074 ≤ k) (hn : n ≠ 0)
    (hd : d ≠ 0) (hle : m * 2 ^ k ≤ (n : ℚ) / d) (hr : (ofRatio false n d).toRat = some r) :
    m * 2 ^ k ≤ r := by
  obtain ⟨e, hunit, hspec⟩ := ofRatio_spec false hn hd
  rw [hspec] at hr
  split at hr
  · cases hr
  · rw [toRat_finite] at hr
    obtain rfl := Option.some.inj hr
    rw [if_neg Bool.false_ne_true]
    rcases le_or_gt e k with hek | hke
    · -- a multiple of the unit
      obtain ⟨i, rfl⟩ : ∃ i : Nat, k = e + i := ⟨(k - e).toNat, by omega⟩
      have hmul : (m : ℚ) * 2 ^ (e + (i : Int)) = ((m * 2 ^ i : Nat) : ℚ) * 2 ^ e := by
        rw [zpow_add₀ two_ne_zero, zpow_natCast, Nat.cast_mul, Nat.cast_pow, Nat.cast_ofNat]
        ring
      rw [hmul] at hle ⊢
      exact mul_le_mul_of_nonneg_right (Nat.cast_le.2 (le_roundTo hle)) (two_zpow_pos e).le
    · -- a number with a larger unit
      have hpow : (2 ^ 52 : Nat) ≤ roundTo ((n : ℚ) / d) e := pow_le_roundTo hunit (by omega)
      have hm' : (m : ℚ) ≤ 2 ^ 53 := by exact_mod_cast hm
      have hround : (2 : ℚ) ^ 52 ≤ roundTo ((n : ℚ) / d) e := by exact_mod_cast hpow
      calc (m : ℚ) * 2 ^ k ≤ 2 ^ 53 * 2 ^ (e - 1) :=
            mul_le_mul hm' (zpow_le_zpow_right₀ one_le_two (by omega)) (two_zpow_pos k).le
              (by positivity)
        _ = 2 ^ 52 * 2 ^ e := by
          rw [zpow_sub_one₀ two_ne_zero]
          ring
        _ ≤ roundTo ((n : ℚ) / d) e * 2 ^ e := mul_le_mul_of_nonneg_right hround (two_zpow_pos e).le

end

section
variable {x y : Float64} {q r : ℚ}

/-- The sum of two floats that are not negative: it is rounded unless it is zero. -/
theorem add_eq (hx : x.toRat = some q) (hy : y.toRat = some r) (hsum : 0 < q + r) :
    x.add y = ofRatio false (q + r).num.natAbs (q + r).den := by
  cases x with
  | nan => cases hx
  | infinity => cases hx
  | finite =>
    cases y with
    | nan => cases hy
    | infinity => cases hy
    | finite =>
      rw [add, hx, hy, Option.getD_some, Option.getD_some, if_neg hsum.ne', decide_eq_false (not_lt.2 hsum.le)]

theorem toRat_add_of_zero (hx : x.toRat = some q) (hy : y.toRat = some r) (hsum : q + r = 0) :
    (x.add y).toRat = some 0 := by
  cases x with
  | nan => cases hx
  | infinity => cases hx
  | finite =>
    cases y with
    | nan => cases hy
    | infinity => cases hy
    | finite =>
      rw [add, hx, hy, Option.getD_some, Option.getD_some, if_pos hsum]
      exact toRat_of_mantissa_zero _ _

theorem isBinary64_add (x y : Float64) : (x.add y).IsBinary64 := by
  cases x with
  | nan => trivial
  | infinity negative =>
    cases y with
    | nan | finite => trivial
    | infinity negative' =>
      rw [add]
      split
      · trivial
      · trivial
  | finite =>
    cases y with
    | nan | infinity => trivial
    | finite =>
      rw [add]
      split
      · exact ⟨Nat.zero_le _, by decide⟩
      · exact isBinary64_ofRatio _ _ (Rat.den_ne_zero _)

/-- Nothing that is added brings a sum back into the numbers. -/
theorem toRat_of_add (h : (x.add y).toRat = some t) : ∃ r, y.toRat = some r := by
  cases y with
  | finite => exact ⟨_, toRat_finite _ _ _⟩
  | nan =>
    cases x with
    | nan | infinity | finite => cases h
  | infinity negative =>
    cases x with
    | nan | finite => cases h
    | infinity negative' =>
      rw [add] at h
      split at h
      · cases h
      · cases h

/-- `max(0.0, x)` is not negative. -/
theorem zero_le_of_zero_max (h : (zero.max x).toRat = some q) : 0 ≤ q := by
  rw [max] at h
  split at h
  · next hlt => exact ((lt_iff toRat_zero h).1 hlt).le
  · obtain rfl := Option.some.inj (toRat_zero.symm.trans h)
    exact le_rfl

theorem natAbs_div_den (hq : 0 < q) : ((q.num.natAbs : Nat) : ℚ) / q.den = q := by
  rw [← Int.cast_natCast, Int.natCast_natAbs, abs_of_pos (Rat.num_pos.2 hq), Rat.num_div_den]

/-- A number of the format that is not negative. -/
theorem exists_mantissa (hbinary : x.IsBinary64) (hx : x.toRat = some q) (hq : 0 ≤ q) :
    ∃ (m : Nat) (k : Int), m ≤ 2 ^ 53 ∧ -1074 ≤ k ∧ q = m * 2 ^ k := by
  cases x with
  | nan => cases hx
  | infinity => cases hx
  | finite negative mantissa exponent =>
    rw [toRat_finite] at hx
    obtain rfl := Option.some.inj hx
    cases negative with
    | false => exact ⟨mantissa, exponent, hbinary.1, hbinary.2, rfl⟩
    | true =>
      have hnonneg : (0 : ℚ) ≤ (mantissa : ℚ) * 2 ^ exponent := by positivity
      rw [if_pos rfl] at hq ⊢
      refine ⟨0, exponent, Nat.zero_le _, hbinary.2, ?_⟩
      rw [Nat.cast_zero, zero_mul]
      linarith

variable (hx : x.toRat = some q) (hy : y.toRat = some r) (hq : 0 ≤ q) (hr : 0 ≤ r)
include hx hy hq hr

/-- A sum is a number unless it is too large. -/
theorem toRat_add_iff : (∃ t, (x.add y).toRat = some t) ↔ q + r < overflow := by
  rcases lt_or_eq_of_le (add_nonneg hq hr) with hsum | hsum
  · rw [add_eq hx hy hsum, toRat_ofRatio_iff, natAbs_div_den hsum]
    · exact Int.natAbs_ne_zero.2 (Rat.num_pos.2 hsum).ne'
    · exact Rat.den_ne_zero _
  · rw [← hsum]
    refine iff_of_true ⟨0, toRat_add_of_zero hx hy hsum.symm⟩ ?_
    rw [overflow_eq]
    have hpos := two_zpow_pos 970
    generalize (2 : ℚ) ^ (970 : Int) = u at hpos ⊢
    linarith

theorem zero_le_toRat_add (ht : (x.add y).toRat = some t) : 0 ≤ t := by
  rcases lt_or_eq_of_le (add_nonneg hq hr) with hsum | hsum
  · rw [add_eq hx hy hsum] at ht
    have hle := le_toRat_ofRatio (m := 0) (k := 0) (Nat.zero_le _) (by decide)
      (Int.natAbs_ne_zero.2 (Rat.num_pos.2 hsum).ne') (Rat.den_ne_zero _)
      (by rw [natAbs_div_den hsum, Nat.cast_zero, zero_mul]; exact hsum.le) ht
    rwa [Nat.cast_zero, zero_mul] at hle
  · rw [toRat_add_of_zero hx hy hsum.symm] at ht
    exact (Option.some.inj ht).le

/-- What is added does not make less of a value of the format. -/
theorem le_toRat_add (hbinary : x.IsBinary64) (ht : (x.add y).toRat = some t) : q ≤ t := by
  rcases lt_or_eq_of_le (add_nonneg hq hr) with hsum | hsum
  · obtain ⟨m, k, hm, hk, hmantissa⟩ := exists_mantissa hbinary hx hq
    rw [add_eq hx hy hsum] at ht
    rw [hmantissa]
    apply le_toRat_ofRatio hm hk _ (Rat.den_ne_zero _) _ ht
    · exact Int.natAbs_ne_zero.2 (Rat.num_pos.2 hsum).ne'
    · rw [natAbs_div_den hsum, ← hmantissa]
      linarith
  · rw [toRat_add_of_zero hx hy hsum.symm] at ht
    obtain rfl := Option.some.inj ht
    linarith

end

theorem isBinary64_orZero (h : IsBinary64 x) : x.orZero.IsBinary64 := by
  cases x with
  | nan | infinity => trivial
  | finite negative mantissa exponent =>
    cases mantissa with
    | zero => exact ⟨Nat.zero_le _, by decide⟩
    | succ mantissa => exact h

end Float64

end Python
