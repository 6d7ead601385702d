import Mathlib.Algebra.Order.Floor.Semiring
import Mathlib.Data.Rat.Floor
import Mathlib.Tactic.Linarith

set_option autoImplicit true

namespace Python

/-- `round()`: to the nearest integer, a tie to the even one. -/
def roundToEven (x : ℚ) : Int :=
  if x - ⌊x⌋ < 1 / 2 then ⌊x⌋
  else if 1 / 2 < x - ⌊x⌋ then ⌊x⌋ + 1
  else ⌊x⌋ + ⌊x⌋ % 2

theorem floor_le_roundToEven (x : ℚ) : ⌊x⌋ ≤ roundToEven x := by
  unfold roundToEven
  split
  · exact le_rfl
  · split
    · exact Int.le_add_one le_rfl
    · exact Int.le_add_of_nonneg_right (Int.emod_nonneg _ (by decide))

theorem roundToEven_le_floor (x : ℚ) : roundToEven x ≤ ⌊x⌋ + 1 := by
  unfold roundToEven
  split
  · exact Int.le_add_one le_rfl
  · split
    · exact le_rfl
    · exact Int.add_le_add_left (Int.lt_add_one_iff.1 (Int.emod_lt_of_pos _ (by decide))) _

theorem roundToEven_intCast (k : Int) : roundToEven k = k := by
  rw [roundToEven, Int.floor_intCast, sub_self, if_pos (by norm_num)]

/-- An even number can be taken out. -/
theorem roundToEven_add_even (x : ℚ) (k : Int) :
    roundToEven (x + ((2 * k : Int) : ℚ)) = roundToEven x + 2 * k := by
  have hparity : (⌊x⌋ + 2 * k) % 2 = ⌊x⌋ % 2 := Int.add_mul_emod_self_left _ _ _
  have hfraction : x + ((2 * k : Int) : ℚ) - ((⌊x⌋ + 2 * k : Int) : ℚ) = x - ⌊x⌋ := by
    rw [Int.cast_add]
    ring
  rw [roundToEven, roundToEven, Int.floor_add_intCast, hfraction, hparity]
  split
  · rfl
  · split
    · exact Int.add_right_comm _ _ _
    · exact Int.add_right_comm _ _ _

/-- No integer is nearer. -/
theorem abs_roundToEven_sub (x : ℚ) : |(roundToEven x : ℚ) - x| ≤ 1 / 2 := by
  have hlow := Int.floor_le x
  have hhigh := Int.lt_floor_add_one x
  rw [abs_le]
  unfold roundToEven
  split
  · next hless => constructor <;> linarith
  · next hless =>
    split
    · rw [Int.cast_add, Int.cast_one]
      constructor <;> linarith
    · rcases Int.emod_two_eq ⌊x⌋ with hparity | hparity <;>
        rw [hparity, Int.cast_add] <;> push_cast <;> constructor <;> linarith

theorem roundToEven_mono {x y : ℚ} (h : x ≤ y) : roundToEven x ≤ roundToEven y := by
  rcases lt_or_eq_of_le (Int.floor_mono h) with hlt | heq
  · exact (roundToEven_le_floor x).trans (le_trans hlt (floor_le_roundToEven y))
  · -- in one unit the fraction decides
    have hfraction : x - ⌊x⌋ ≤ y - ⌊y⌋ := by
      rw [heq]
      exact sub_le_sub_right h _
    rw [roundToEven]
    split
    · rw [heq]
      exact floor_le_roundToEven y
    · next hx =>
      have hy : ¬ y - ⌊y⌋ < 1 / 2 := fun hlow => hx (lt_of_le_of_lt hfraction hlow)
      rw [roundToEven, if_neg hy]
      split
      · next hhigh => rw [if_pos (lt_of_lt_of_le hhigh hfraction), heq]
      · rw [heq]
        split
        · exact Int.add_le_add_left (Int.lt_add_one_iff.1 (Int.emod_lt_of_pos _ (by decide))) _
        · exact le_rfl

/-- A tie just below an even number goes up to it. -/
theorem roundToEven_lt_even {x : ℚ} {k : Int} :
    roundToEven x < 2 * k ↔ x < ((2 * k : Int) : ℚ) - 1 / 2 := by
  have htie : roundToEven (-(1 / 2) + ((2 * k : Int) : ℚ)) = 2 * k := by
    rw [roundToEven_add_even, show roundToEven (-(1 / 2)) = 0 by decide +kernel, Int.zero_add]
  constructor
  · intro hlt
    by_contra hle
    have hmono := roundToEven_mono (show -(1 / 2) + ((2 * k : Int) : ℚ) ≤ x by linarith)
    rw [htie] at hmono
    exact absurd hlt (not_lt.2 hmono)
  · intro hlt
    have hnear := (abs_le.1 (abs_roundToEven_sub x)).2
    have hcast : (roundToEven x : ℚ) < ((2 * k : Int) : ℚ) := by linarith
    exact Int.cast_lt.1 hcast

/-- The digit of a mixed radix that a floor takes, and what it leaves. -/
theorem floor_div_bounds {x d : ℚ} (hx : 0 ≤ x) (hd : 0 < d) :
    0 ≤ x - ⌊x / d⌋₊ * d ∧ x - ⌊x / d⌋₊ * d < d := by
  have hlow := Nat.floor_le (div_nonneg hx hd.le)
  have hhigh := Nat.lt_floor_add_one (x / d)
  rw [le_div_iff₀ hd] at hlow
  rw [div_lt_iff₀ hd, add_mul, one_mul] at hhigh
  exact ⟨sub_nonneg.2 hlow, sub_left_lt_of_lt_add hhigh⟩

theorem floor_div_lt {x d : ℚ} {k : Nat} (hx : 0 ≤ x) (hd : 0 < d) (h : x < k * d) : ⌊x / d⌋₊ < k :=
  (Nat.floor_lt (div_nonneg hx hd.le)).2 ((div_lt_iff₀ hd).2 h)

end Python
