import Mathlib.Data.List.Range

set_option autoImplicit true

-- A list cut into pages of one size
namespace Paging

/-- The page of the number, counted from zero. -/
def page (size number : Nat) (l : List α) : List α :=
  (l.drop (number * size)).take size

/-- The number of pages that have something on them. -/
def pageCount (size length : Nat) : Nat :=
  (length + size - 1) / size

theorem flatMap_page (size n : Nat) (l : List α) :
    (List.range n).flatMap (fun number => page size number l) = l.take (n * size) := by
  induction n with
  | zero => simp
  | succ n ih =>
    rw [List.range_succ, List.flatMap_append, ih, List.flatMap_singleton, page, Nat.succ_mul, List.take_add]

theorem le_pageCount_mul (hsize : 0 < size) (length : Nat) : length ≤ pageCount size length * size := by
  have hdiv := Nat.lt_div_mul_add hsize (a := length + size - 1)
  rw [pageCount]
  omega

/-- The pages make up the list. -/
theorem flatMap_pages (hsize : 0 < size) {n : Nat} (hn : pageCount size l.length ≤ n) :
    (List.range n).flatMap (fun number => page size number l) = l := by
  rw [flatMap_page, List.take_of_length_le]
  exact (le_pageCount_mul hsize _).trans (Nat.mul_le_mul_right size hn)

/-- A page and what comes after it. -/
theorem mem_page_or_later (h : a ∈ l.drop (number * size)) :
    a ∈ page size number l ∨ a ∈ l.drop ((number + 1) * size) := by
  rw [← List.take_append_drop size (l.drop (number * size)), List.mem_append, List.drop_drop] at h
  rwa [Nat.succ_mul]

/-- What comes in front of a list takes nothing out of its later pages. -/
theorem mem_drop_of_suffix (h : l <:+ l') (n : Nat) (hmem : a ∈ l.drop n) : a ∈ l'.drop n := by
  have hlater : l.drop n <:+ l'.drop n := by
    refine List.suffix_of_suffix_length_le ((List.drop_suffix n l).trans h) (List.drop_suffix n l') ?_
    rw [List.length_drop, List.length_drop]
    exact Nat.sub_le_sub_right h.length_le n
  exact hlater.subset hmem

end Paging
