import Mathlib.Data.List.Basic
import Mathlib.Data.Nat.Basic

/-!
# Pages of a list

The pages of one size, counted from zero, and how many of them a reader is told of. The last
may be short, and an empty list has one empty page.
-/

namespace AdaptiveAdvertisement.Library

variable {α : Type*} {size count n i : ℕ} {xs : List α}

def pageOf (size i : ℕ) (xs : List α) : List α := (xs.drop (i * size)).take size

def pageCount (size n : ℕ) : ℕ := max 1 ((n + size - 1) / size)

theorem length_pageOf_le (size i : ℕ) (xs : List α) : (pageOf size i xs).length ≤ size :=
  List.length_take_le _ _

/-- The first pages are a prefix. -/
theorem flatMap_pageOf (size count : ℕ) (xs : List α) :
    (List.range count).flatMap (pageOf size · xs) = xs.take (count * size) := by
  induction count with
  | zero => simp
  | succ count ih =>
    have hnext : xs.take ((count + 1) * size) =
        xs.take (count * size) ++ pageOf size count xs := by
      rw [Nat.add_one_mul]
      exact List.take_add
    rw [List.range_succ, List.flatMap_append, ih, hnext]
    simp

theorem le_pageCount_mul (hsize : 0 < size) (n : ℕ) : n ≤ pageCount size n * size := by
  have hdiv := Nat.div_add_mod (n + size - 1) size
  have hmod := Nat.mod_lt (n + size - 1) hsize
  have hle : (n + size - 1) / size * size ≤ pageCount size n * size :=
    Nat.mul_le_mul_right _ (Nat.le_max_right _ _)
  rw [Nat.mul_comm] at hdiv
  omega

/-- A page that is counted starts inside the list or at its end. -/
theorem mul_le_of_lt_pageCount (hsize : 0 < size) (h : i < pageCount size n) : i * size ≤ n := by
  have hcases : i < 1 ∨ i < (n + size - 1) / size := by
    unfold pageCount at h
    omega
  rcases hcases with hone | hlater
  · obtain rfl : i = 0 := by omega
    omega
  · have hfull : (i + 1) * size ≤ n + size - 1 :=
      (Nat.le_div_iff_mul_le hsize).mp hlater
    rw [Nat.add_one_mul] at hfull
    omega

/-- The pages that are counted hold the list, in its order. -/
theorem pages_cover (hsize : 0 < size) (xs : List α) :
    (List.range (pageCount size xs.length)).flatMap (pageOf size · xs) = xs := by
  rw [flatMap_pageOf]
  exact List.take_of_length_le (le_pageCount_mul hsize _)

theorem exists_pageOf (hsize : 0 < size) {x : α} (hx : x ∈ xs) :
    ∃ i < pageCount size xs.length, x ∈ pageOf size i xs := by
  rw [← pages_cover hsize xs, List.mem_flatMap] at hx
  obtain ⟨i, hi, hmem⟩ := hx
  exact ⟨i, List.mem_range.mp hi, hmem⟩

end AdaptiveAdvertisement.Library
