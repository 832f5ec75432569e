import AdaptiveAdvertisement.Library.Binary64

/-!
# Averages

How numbers are averaged and rounded to decimal places: exactly, in floats, or otherwise. Numbers
from 0 to 1 have an average in that range, which is a nan where one of them is.
-/

namespace AdaptiveAdvertisement.Library

structure Averages where
  mean : List Number → Number
  roundTo : ℕ → Number → Number
  mean_within : ∀ {xs : List Number}, xs ≠ [] → (∀ x ∈ xs, x.Within 0 1) →
    (mean xs).Within 0 1
  isFinite_mean : ∀ {xs : List Number}, (∀ x ∈ xs, x.Within 0 1) →
    (mean xs).isFinite = xs.all Number.isFinite
  roundTo_within : ∀ (digits : ℕ) {x : Number}, x.Within 0 1 → (roundTo digits x).Within 0 1

namespace Averages

theorem roundTo_unit (digits : ℕ) {x : Number} (h : x.Within 0 1) :
    (x.roundTo digits).Within 0 1 := by
  exact_mod_cast Number.roundTo_within 0 1 digits (by exact_mod_cast h)

def exact : Averages where
  mean := Number.mean
  roundTo := Number.roundTo
  mean_within := Number.mean_within
  isFinite_mean := fun _ => Number.isFinite_mean _
  roundTo_within := fun digits _ h => roundTo_unit digits h

/-- The average does not depend on the order, as that of floats may. -/
def Unordered (av : Averages) : Prop :=
  ∀ {xs ys : List Number}, xs.Perm ys → av.mean xs = av.mean ys

theorem exact_unordered : exact.Unordered := Number.mean_perm

/-! ### In floats -/

open Binary64

def floatMean (xs : List Number) : Number :=
  rounded ((total rounded (.finite 0) xs).divBy xs.length)

theorem total_nan (xs : List Number) : total rounded (.nonfinite .nan) xs = .nonfinite .nan := by
  induction xs with
  | nil => rfl
  | cons x xs ih =>
    cases x with
    | finite q => exact ih
    | nonfinite y => cases y <;> exact ih

/-- A nan stays where the others are from 0 to 1. -/
theorem total_of_nan {xs : List Number} (h : ∀ x ∈ xs, x.Within 0 1)
    (hnan : xs.all Number.isFinite = false) :
    total rounded (.finite 0) xs = .nonfinite .nan := by
  obtain ⟨x, hx, hxnan⟩ := List.all_eq_false.mp hnan
  obtain ⟨i, hi, rfl⟩ := List.getElem_of_mem hx
  have hterm : xs[i] = .nonfinite .nan := by
    have hwithin := h xs[i] hx
    cases hxi : xs[i] with
    | finite q => simp [hxi, Number.isFinite] at hxnan
    | nonfinite y =>
      rw [hxi] at hwithin
      exact congrArg Number.nonfinite hwithin
  have hsum : total rounded (.finite 0) (xs.take (i + 1)) = .nonfinite .nan := by
    rw [total_take_succ _ _ hi, hterm]
    cases total rounded (.finite 0) (xs.take i) with
    | finite q => rfl
    | nonfinite y => cases y <;> rfl
  rw [total_split _ _ _ (i + 1), hsum, total_nan]

theorem floatMean_finite {xs : List Number} (h : ∀ x ∈ xs, x.Within 0 1)
    (hfinite : xs.all Number.isFinite = true) :
    ∃ q : ℚ, floatMean xs = .finite q ∧ 0 ≤ q ∧ q ≤ 1 := by
  have hunit : ∀ x ∈ xs, ∃ q : ℚ, x = .finite q ∧ 0 ≤ q ∧ q ≤ 1 := by
    intro x hx
    have hwithin := h x hx
    have hxfinite := List.all_eq_true.mp hfinite x hx
    cases x with
    | finite q => exact ⟨q, rfl, hwithin⟩
    | nonfinite y => cases hxfinite
  obtain ⟨s, hs, hlo, hhi⟩ :=
    total_unit hunit (k := 0) isFloat_zero le_rfl (by simp) (by norm_num)
  have hquotient : 0 ≤ s / xs.length ∧ s / xs.length ≤ 1 :=
    ⟨div_nonneg hlo (Nat.cast_nonneg _),
      div_le_one_of_le₀ (by simpa using hhi) (Nat.cast_nonneg _)⟩
  have hone : IsFloat 1 := ⟨1, 0, by norm_num, by norm_num, by norm_num⟩
  refine ⟨nearest (s / xs.length), ?_, le_nearest isFloat_zero hquotient.1,
    nearest_le hone hquotient.2⟩
  rw [floatMean, hs]
  exact rounded_small hquotient.1 (hquotient.2.trans (by norm_num))

theorem floatMean_nan {xs : List Number} (h : ∀ x ∈ xs, x.Within 0 1)
    (hnan : xs.all Number.isFinite = false) : floatMean xs = .nonfinite .nan := by
  rw [floatMean, total_of_nan h hnan]
  rfl

/-- The arithmetic of the floats: every sum, quotient and decimal is rounded to a float. -/
def binary64 : Averages where
  mean := floatMean
  roundTo := fun digits x => rounded (x.roundTo digits)
  mean_within := by
    intro xs _ h
    cases hall : xs.all Number.isFinite with
    | true =>
      obtain ⟨q, hq, hbounds⟩ := floatMean_finite h hall
      rw [hq]
      exact hbounds
    | false =>
      rw [floatMean_nan h hall]
      rfl
  isFinite_mean := by
    intro xs h
    cases hall : xs.all Number.isFinite with
    | true =>
      obtain ⟨q, hq, -⟩ := floatMean_finite h hall
      rw [hq]
      rfl
    | false =>
      rw [floatMean_nan h hall]
      rfl
  roundTo_within := by
    intro digits x h
    have hround := roundTo_unit digits h
    have hone : IsFloat 1 := ⟨1, 0, by norm_num, by norm_num, by norm_num⟩
    cases hx : x.roundTo digits with
    | nonfinite y =>
      rw [hx] at hround
      exact hround
    | finite q =>
      rw [hx] at hround
      obtain ⟨hlo, hhi⟩ := hround
      rw [rounded_small hlo (hhi.trans (by norm_num))]
      exact ⟨le_nearest isFloat_zero hlo, nearest_le hone hhi⟩

-- confidences that average to less than a half in floats, and to a half exactly
example : let xs := [4997, 4996, 5000, 5005].map fun n : ℕ => rounded (.finite (n / 10 ^ 4))
    (binary64.roundTo 4 (binary64.mean xs)).below (1 / 2) = true ∧
      (exact.roundTo 4 (exact.mean ([4997, 4996, 5000, 5005].map fun n : ℕ =>
        .finite (n / 10 ^ 4)))).below (1 / 2) = false := by
  decide +kernel

end Averages
end AdaptiveAdvertisement.Library
