import Mathlib.Algebra.Order.Floor.Ring
import Mathlib.Algebra.Order.Field.Basic
import Mathlib.Data.List.Range

set_option autoImplicit true

-- A stretch of time cut into windows of one length, the last of which may be shorter
namespace Windows

variable {α : Type u} [Field α] [LinearOrder α] [IsStrictOrderedRing α] {stretch size : α}

/-- The start and the length of the window of the number, counted from zero. -/
def window (stretch size : α) (number : Nat) : α × α :=
  (number * size, min size (stretch - number * size))

/-- The windows follow on one another from zero and make up the stretch. -/
structure Tiles (stretch size : α) (windows : List (α × α)) : Prop where
  first : ∃ length rest, windows = (0, length) :: rest
  adjacent : windows.IsChain fun w v => w.1 + w.2 = v.1
  bounded : ∀ w ∈ windows, 0 < w.2 ∧ w.2 ≤ size
  union : ∀ t, (∃ w ∈ windows, w.1 ≤ t ∧ t < w.1 + w.2) ↔ 0 ≤ t ∧ t < stretch

theorem window_end (stretch size : α) (number : Nat) :
    (window stretch size number).1 + (window stretch size number).2 =
      min ((number + 1 : Nat) * size) stretch := by
  rw [window, add_min, add_sub_cancel, Nat.cast_succ, add_one_mul]

theorem window_adjacent {number : Nat} (h : ((number + 1 : Nat) : α) * size < stretch) :
    (window stretch size number).1 + (window stretch size number).2 = (window stretch size (number + 1)).1 := by
  rw [window_end, min_eq_left h.le, window]

/-- A window ends before those of larger numbers start. -/
theorem window_end_le (hsize : 0 < size) {i j : Nat} (hij : i < j) :
    (window stretch size i).1 + (window stretch size i).2 ≤ (window stretch size j).1 := by
  rw [window_end]
  calc min ((i + 1 : Nat) * size) stretch ≤ (i + 1 : Nat) * size := min_le_left _ _
    _ ≤ j * size := mul_le_mul_of_nonneg_right (Nat.cast_le.2 hij) hsize.le

variable [FloorRing α]

def windows (stretch size : α) : List (α × α) :=
  (List.range ⌈stretch / size⌉₊).map (window stretch size)

theorem lt_count_iff (hsize : 0 < size) {number : Nat} :
    number < ⌈stretch / size⌉₊ ↔ number * size < stretch := by
  rw [Nat.lt_ceil, lt_div_iff₀ hsize]

theorem pairwise_windows (hsize : 0 < size) :
    (windows stretch size).Pairwise fun w v => w.1 + w.2 ≤ v.1 := by
  rw [windows, List.pairwise_map]
  exact List.pairwise_lt_range.imp (window_end_le hsize)

theorem tiles_windows (hsize : 0 < size) (hstretch : 0 < stretch) : Tiles stretch size (windows stretch size) := by
  obtain ⟨n, hn⟩ : ∃ n, ⌈stretch / size⌉₊ = n + 1 :=
    Nat.exists_eq_succ_of_ne_zero (Nat.ceil_pos.2 (div_pos hstretch hsize)).ne'
  have hlt : ∀ number < n + 1, (number : α) * size < stretch := fun number h =>
    (lt_count_iff hsize).1 (hn ▸ h)
  constructor
  · refine ⟨min size (stretch - (0 : Nat) * size), (List.range n).map fun i => window stretch size (i + 1), ?_⟩
    rw [windows, hn, List.range_succ_eq_map, List.map_cons, List.map_map, window, Nat.cast_zero, zero_mul]
    rfl
  · rw [windows, hn, List.isChain_map, List.isChain_range_succ]
    intro number h
    exact window_adjacent (hlt (number + 1) (Nat.succ_lt_succ h))
  · simp only [windows, hn, List.mem_map, List.mem_range]
    rintro _ ⟨number, h, rfl⟩
    exact ⟨lt_min hsize (sub_pos.2 (hlt number h)), min_le_left _ _⟩
  · intro t
    simp only [windows, List.mem_map, List.mem_range]
    constructor
    · rintro ⟨_, ⟨number, h, rfl⟩, hstart, hend⟩
      rw [window_end] at hend
      exact ⟨(mul_nonneg number.cast_nonneg hsize.le).trans hstart, hend.trans_le (min_le_right _ _)⟩
    · rintro ⟨hzero, ht⟩
      -- the window in which `t` lies has the quotient as its number
      have hfloor : (⌊t / size⌋₊ : α) * size ≤ t :=
        (le_div_iff₀ hsize).1 (Nat.floor_le (div_nonneg hzero hsize.le))
      have hnext : t < (⌊t / size⌋₊ + 1 : Nat) * size := by
        rw [← div_lt_iff₀ hsize, Nat.cast_succ]
        exact Nat.lt_floor_add_one _
      refine ⟨_, ⟨⌊t / size⌋₊, (lt_count_iff hsize).2 (hfloor.trans_lt ht), rfl⟩, hfloor, ?_⟩
      rw [window_end]
      exact lt_min hnext ht

theorem length_windows (hsize : 0 < size) (hstretch : 0 < stretch) :
    ((windows stretch size).length : Int) = ⌈stretch / size⌉ := by
  rw [windows, List.length_map, List.length_range, Int.natCast_ceil_eq_ceil (div_pos hstretch hsize).le]

end Windows
