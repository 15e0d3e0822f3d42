import Mathlib

/-!
# Pages of a list

The pages of a list, counted from zero, each of the same size but the last. Together they are the
list (`flatMap_page_count`), and all pages after them are empty.
-/

namespace InfoVulcan.Pagination

variable {α : Type} {size : Nat}

/-- A page of a list. -/
def page (size i : Nat) (xs : List α) : List α :=
  (xs.drop (i * size)).take size

/-- The number of pages of a list with `n` elements. -/
def count (size n : Nat) : Nat :=
  (n + size - 1) / size

/-- The first pages are the beginning of the list. -/
theorem flatMap_page (size k : Nat) (xs : List α) :
    ((List.range k).flatMap fun i => page size i xs) = xs.take (k * size) := by
  induction k with
  | zero => simp
  | succ k ih =>
      rw [List.range_succ, List.flatMap_append, ih, Nat.succ_mul, List.take_add,
        List.flatMap_singleton, page]

/-- A page within the list is full. -/
theorem length_page {i : Nat} {xs : List α} (h : (i + 1) * size ≤ xs.length) :
    (page size i xs).length = size := by
  rw [Nat.succ_mul] at h
  rw [page, List.length_take, List.length_drop]
  omega

/-- A page beyond the list is empty. -/
theorem page_eq_nil {i : Nat} {xs : List α} (h : xs.length ≤ i * size) : page size i xs = [] := by
  rw [page, List.drop_eq_nil_of_le h, List.take_nil]

/-- The pages reach to the end of the list. -/
theorem le_count_mul (hsize : 0 < size) (n : Nat) : n ≤ count size n * size := by
  have hdiv := Nat.div_add_mod (n + size - 1) size
  have hmod := Nat.mod_lt (n + size - 1) hsize
  rw [count, Nat.mul_comm]
  omega

/-- All pages but the last lie within the list. -/
theorem succ_mul_le_of_lt_count (hsize : 0 < size) {i n : Nat} (h : i + 1 < count size n) :
    (i + 1) * size ≤ n := by
  have hle : (i + 2) * size ≤ n + size - 1 :=
    (Nat.le_div_iff_mul_le hsize).mp h
  have hsplit : (i + 2) * size = (i + 1) * size + size := Nat.succ_mul _ _
  omega

/-- There are no more pages than elements. -/
theorem count_le (hsize : 0 < size) (n : Nat) : count size n ≤ n := by
  refine (Nat.div_le_iff_le_mul_add_pred hsize).mpr ?_
  have hmul : n ≤ size * n := Nat.le_mul_of_pos_left n hsize
  omega

/-- The pages of a list are the list. -/
theorem flatMap_page_count (hsize : 0 < size) (xs : List α) :
    ((List.range (count size xs.length)).flatMap fun i => page size i xs) = xs := by
  rw [flatMap_page]
  exact List.take_of_length_le (le_count_mul hsize _)

end InfoVulcan.Pagination
