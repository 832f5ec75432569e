import AdaptiveAdvertisement.Library.Number
import Mathlib.Data.Int.Log
import Mathlib.Tactic.FieldSimp
import Mathlib.Tactic.GCongr

/-!
# Floating-point arithmetic

The result of an operation on floats is the exact result, rounded to the nearest float of 53 bits
(a tie to the even one), and infinite from `floatLimit` on. The sign of a zero is not kept.
-/

namespace AdaptiveAdvertisement.Library

/-- The sum of a list, every result rounded by `fl`. -/
def total (fl : Number → Number) (acc : Number) (xs : List Number) : Number :=
  xs.foldl (fun sum x => fl (sum.add x)) acc

namespace Binary64

/-- The floats around `q` are `2 ^ spacing q` apart. -/
def spacing (q : ℚ) : ℤ := max (Int.log 2 |q| - 52) (-1074)

def nearest (q : ℚ) : ℚ := roundEven (q / 2 ^ spacing q) * 2 ^ spacing q

def ofRat (q : ℚ) : Number :=
  if |q| < Number.floatLimit then .finite (nearest q)
  else .nonfinite (if 0 < q then .posInf else .negInf)

def rounded : Number → Number
  | .finite q => ofRat q
  | .nonfinite x => .nonfinite x

/-- A float, if it is not beyond the largest one. -/
def IsFloat (x : ℚ) : Prop := ∃ m e : ℤ, |m| ≤ 2 ^ 53 ∧ -1074 ≤ e ∧ x = m * 2 ^ e

/-! ### The spacing -/

theorem two_zpow_pos (e : ℤ) : (0 : ℚ) < 2 ^ e := zpow_pos two_pos e

theorem two_zpow_add (e : ℤ) (n : ℕ) : (2 : ℚ) ^ (e + n) = 2 ^ n * 2 ^ e := by
  rw [zpow_add₀ two_ne_zero, zpow_natCast, mul_comm]

theorem min_le_spacing (q : ℚ) : -1074 ≤ spacing q := le_max_right _ _

@[simp] theorem spacing_neg (q : ℚ) :
    spacing (-q) = spacing q := by rw [spacing, abs_neg, spacing]

theorem abs_lt_spacing (q : ℚ) : |q| < 2 ^ 53 * 2 ^ spacing q := by
  have hlog := Int.lt_zpow_succ_log_self (b := 2) one_lt_two |q|
  have hle : Int.log 2 |q| + 1 ≤ spacing q + (53 : ℕ) := by
    have hmax := le_max_left (Int.log 2 |q| - 52) (-1074)
    rw [spacing]
    push_cast
    omega
  rw [← two_zpow_add]
  exact hlog.trans_le (zpow_le_zpow_right₀ one_le_two hle)

theorem spacing_le_abs {q : ℚ} (hq : q ≠ 0) (h : -1074 < spacing q) :
    2 ^ 52 * 2 ^ spacing q ≤ |q| := by
  have hlog := Int.zpow_log_le_self (b := 2) one_lt_two (abs_pos.mpr hq)
  have heq : spacing q + (52 : ℕ) = Int.log 2 |q| := by
    rw [spacing, max_def] at h ⊢
    split_ifs at h ⊢ <;> push_cast <;> omega
  rw [← two_zpow_add, heq]
  exact hlog

/-- Where the powers of two around `q` are known, so is the spacing. -/
theorem spacing_eq {q : ℚ} {e : ℤ} (he : -1074 ≤ e) (hlo : 2 ^ 52 * 2 ^ e ≤ |q|)
    (hhi : |q| < 2 ^ 53 * 2 ^ e) : spacing q = e := by
  have hpos : 0 < |q| := lt_of_lt_of_le (mul_pos (by positivity) (two_zpow_pos e)) hlo
  rw [← two_zpow_add] at hlo hhi
  have hlow := (Int.zpow_le_iff_le_log (b := 2) one_lt_two hpos).mp hlo
  have hhigh := (Int.lt_zpow_iff_log_lt (b := 2) one_lt_two hpos).mp hhi
  rw [spacing]
  push_cast at hlow hhigh
  omega

/-! ### Rounding between floats -/

theorem isFloat_neg {x : ℚ} (h : IsFloat x) : IsFloat (-x) := by
  obtain ⟨m, e, hm, he, rfl⟩ := h
  exact ⟨-m, e, by rwa [abs_neg], he, by push_cast; ring⟩

theorem isFloat_int {m : ℤ} (h : |m| ≤ 2 ^ 53) : IsFloat m :=
  ⟨m, 0, h, by norm_num, by simp⟩

theorem isFloat_zero : IsFloat 0 := by simpa using isFloat_int (m := 0) (by norm_num)

/-- Between a float and a number above it lies a multiple of the number's spacing. -/
theorem IsFloat.exists_multiple {x q : ℚ} (hx : IsFloat x) (h : x ≤ q) :
    ∃ n : ℤ, x ≤ n * 2 ^ spacing q ∧ n * 2 ^ spacing q ≤ q := by
  obtain ⟨m, e, hm, he, rfl⟩ := hx
  have hpos := two_zpow_pos (spacing q)
  rcases le_or_gt (spacing q) e with hle | hlt
  · -- the float is such a multiple itself
    obtain ⟨k, hk⟩ := Int.eq_ofNat_of_zero_le (sub_nonneg.mpr hle)
    have hmultiple : (m : ℚ) * 2 ^ e = (m * 2 ^ k : ℤ) * 2 ^ spacing q := by
      have hsum : e = spacing q + (k : ℕ) := by omega
      rw [hsum, two_zpow_add]
      push_cast
      ring
    exact ⟨m * 2 ^ k, hmultiple.le, hmultiple ▸ h⟩
  · -- the float is no farther from zero than `2 ^ 52` of them, and `q` no nearer
    have hsmall : |(m : ℚ) * 2 ^ e| ≤ 2 ^ 52 * 2 ^ spacing q := by
      have hm' : |(m : ℚ)| ≤ 2 ^ 53 := by exact_mod_cast hm
      have hstep : (2 : ℚ) ^ (e + (1 : ℕ)) ≤ 2 ^ spacing q :=
        zpow_le_zpow_right₀ one_le_two (by push_cast; omega)
      rw [two_zpow_add] at hstep
      rw [abs_mul, abs_of_pos (two_zpow_pos e)]
      have hscaled := mul_le_mul_of_nonneg_right hm' (two_zpow_pos e).le
      linarith
    rcases eq_or_ne q 0 with rfl | hne
    · exact ⟨0, by simpa using h, by simp⟩
    have hbig := spacing_le_abs hne (lt_of_le_of_lt he hlt)
    rcases lt_or_gt_of_ne hne with hneg | hqpos
    · rw [abs_of_neg hneg] at hbig
      have hlow := neg_le_of_abs_le hsmall
      refine ⟨-2 ^ 52, ?_, ?_⟩ <;> push_cast <;> linarith
    · rw [abs_of_pos hqpos] at hbig
      have hhigh := le_of_abs_le hsmall
      refine ⟨2 ^ 52, ?_, ?_⟩ <;> push_cast <;> linarith

theorem le_nearest {x q : ℚ} (hx : IsFloat x) (h : x ≤ q) : x ≤ nearest q := by
  obtain ⟨n, hxn, hnq⟩ := hx.exists_multiple h
  have hpos := two_zpow_pos (spacing q)
  have hround : n ≤ roundEven (q / 2 ^ spacing q) := le_roundEven ((le_div_iff₀ hpos).mpr hnq)
  refine hxn.trans (mul_le_mul_of_nonneg_right ?_ hpos.le)
  exact_mod_cast hround

theorem nearest_le {x q : ℚ} (hx : IsFloat x) (h : q ≤ x) : nearest q ≤ x := by
  obtain ⟨n, hxn, hnq⟩ := (isFloat_neg hx).exists_multiple (neg_le_neg h)
  rw [spacing_neg] at hxn hnq
  have hpos := two_zpow_pos (spacing q)
  have hround : roundEven (q / 2 ^ spacing q) ≤ -n := by
    refine roundEven_le ((div_le_iff₀ hpos).mpr ?_)
    push_cast
    linarith
  have hround' : (roundEven (q / 2 ^ spacing q) : ℚ) ≤ -n := by exact_mod_cast hround
  have hscaled := mul_le_mul_of_nonneg_right hround' hpos.le
  rw [nearest]
  linarith

theorem nearest_eq {x : ℚ} (h : IsFloat x) : nearest x = x :=
  le_antisymm (nearest_le h le_rfl) (le_nearest h le_rfl)

theorem isFloat_nearest (q : ℚ) : IsFloat (nearest q) := by
  have hpos := two_zpow_pos (spacing q)
  have hlt := abs_lt_spacing q
  rw [abs_lt] at hlt
  refine ⟨roundEven (q / 2 ^ spacing q), spacing q, abs_le.mpr ⟨?_, ?_⟩,
    min_le_spacing q, rfl⟩
  · refine le_roundEven ((le_div_iff₀ hpos).mpr ?_)
    push_cast
    linarith
  · refine roundEven_le ((div_le_iff₀ hpos).mpr ?_)
    push_cast
    linarith

/-- What is less than half a spacing above a multiple is rounded down to it, and half a spacing
where it is even. -/
theorem nearest_le_multiple {q : ℚ} {m : ℤ} (h : q < (m + 1 / 2) * 2 ^ spacing q ∨
    q = (m + 1 / 2) * 2 ^ spacing q ∧ m % 2 = 0) : nearest q ≤ m * 2 ^ spacing q := by
  have hpos := two_zpow_pos (spacing q)
  have hround : roundEven (q / 2 ^ spacing q) ≤ m := by
    rw [roundEven_le_iff, div_lt_iff₀ hpos, div_eq_iff hpos.ne']
    exact h
  refine mul_le_mul_of_nonneg_right ?_ hpos.le
  exact_mod_cast hround

/-! ### The largest floats -/

/-- From `2 ^ 53` on the sum with 1 is the number itself. -/
theorem nearest_le_pow {q : ℚ} (h : q ≤ 2 ^ 53 + 1) : nearest q ≤ 2 ^ 53 := by
  have hfloat : IsFloat (2 ^ 53) := ⟨2 ^ 53, 0, by norm_num, by norm_num, by norm_num⟩
  rcases le_or_gt q (2 ^ 53) with hle | hlt
  · exact nearest_le hfloat hle
  · have habs : |q| = q := abs_of_pos (lt_trans (by norm_num) hlt)
    have hspacing : spacing q = 1 := by
      refine spacing_eq (by norm_num) ?_ ?_ <;> rw [habs] <;> norm_num at h hlt ⊢ <;> linarith
    have hdown := nearest_le_multiple (q := q) (m := 2 ^ 52) (by
      rw [hspacing]
      rcases h.lt_or_eq with hlt' | heq
      · left
        norm_num at hlt' ⊢
        linarith
      · right
        rw [heq]
        norm_num)
    rw [hspacing] at hdown
    norm_num at hdown ⊢
    exact hdown

theorem floatLimit_eq : (Number.floatLimit : ℚ) = (2 ^ 54 - 1) * 2 ^ (970 : ℤ) := by
  have hlimit : Number.floatLimit + (2 ^ 97) ^ 10 = 2 ^ 54 * (2 ^ 97) ^ 10 := by decide +kernel
  have hcast : (Number.floatLimit : ℚ) + (2 ^ 97) ^ 10 = 2 ^ 54 * (2 ^ 97) ^ 10 := by
    simpa only [Nat.cast_add, Nat.cast_mul, Nat.cast_pow, Nat.cast_ofNat] using
      congrArg (Nat.cast (R := ℚ)) hlimit
  have hpow : (2 : ℚ) ^ (970 : ℤ) = (2 ^ 97) ^ 10 := by
    rw [← pow_mul]
    exact zpow_natCast 2 970
  rw [hpow, sub_mul, one_mul]
  exact eq_sub_of_add_eq hcast

theorem nearest_lt_floatLimit {q : ℚ} (h : q < Number.floatLimit) :
    nearest q < Number.floatLimit := by
  have hstep : (2 : ℚ) ^ (971 : ℤ) = 2 * 2 ^ (970 : ℤ) := by
    have hsum := two_zpow_add 970 1
    rwa [pow_one] at hsum
  have hpos := two_zpow_pos 970
  have hfloat : IsFloat ((2 ^ 53 - 1 : ℤ) * 2 ^ (971 : ℤ)) :=
    ⟨2 ^ 53 - 1, 971, by norm_num, by norm_num, rfl⟩
  have hup : ∀ s : ℤ, spacing q = s → s = 971 →
      q < ((2 ^ 53 - 1 : ℤ) + 1 / 2) * 2 ^ s := by
    rintro s - rfl
    rw [floatLimit_eq] at h
    rw [hstep]
    generalize (2 : ℚ) ^ (970 : ℤ) = u at h hpos ⊢
    push_cast
    linarith
  have hbelow : ((2 ^ 53 - 1 : ℤ) : ℚ) * 2 ^ (971 : ℤ) < Number.floatLimit := by
    rw [floatLimit_eq, hstep]
    generalize (2 : ℚ) ^ (970 : ℤ) = u at hpos ⊢
    push_cast
    linarith
  refine lt_of_le_of_lt ?_ hbelow
  rcases le_or_gt q ((2 ^ 53 - 1 : ℤ) * 2 ^ (971 : ℤ)) with hle | hlt
  · exact nearest_le hfloat hle
  · have hbounds : 0 < q ∧ 2 ^ 52 * 2 ^ (971 : ℤ) ≤ q ∧ q < 2 ^ 53 * 2 ^ (971 : ℤ) := by
      rw [floatLimit_eq] at h
      rw [hstep] at hlt ⊢
      generalize (2 : ℚ) ^ (970 : ℤ) = u at h hlt hpos ⊢
      push_cast at hlt
      exact ⟨by linarith, by linarith, by linarith⟩
    have hspacing : spacing q = 971 := by
      refine spacing_eq (by norm_num) ?_ ?_ <;> rw [abs_of_pos hbounds.1]
      · exact hbounds.2.1
      · exact hbounds.2.2
    have hdown := nearest_le_multiple (Or.inl (hup _ rfl hspacing))
    rwa [hspacing] at hdown

/-! ### A share of a float -/

/-- The smallest float of 53 bits: below it the floats are evenly spaced. -/
def smallestNormal : ℚ := 2 ^ (-1022 : ℤ)

theorem smallestNormal_eq : smallestNormal = 2 ^ 52 * 2 ^ (-1074 : ℤ) := by
  rw [smallestNormal, ← two_zpow_add]
  rfl

theorem IsFloat.normal {t : ℚ} (ht : IsFloat t) (h : smallestNormal ≤ t) :
    ∃ m e : ℤ, 2 ^ 52 ≤ m ∧ m < 2 ^ 53 ∧ -1074 ≤ e ∧ t = m * 2 ^ e := by
  rw [smallestNormal_eq] at h
  have htpos : 0 < t := lt_of_lt_of_le (mul_pos (by positivity) (two_zpow_pos (-1074))) h
  have hpos := two_zpow_pos (spacing t)
  obtain ⟨m, hle, hge⟩ := ht.exists_multiple le_rfl
  have hm : t = m * 2 ^ spacing t := le_antisymm hle hge
  have hhigh := abs_lt_spacing t
  have hlow : 2 ^ 52 * 2 ^ spacing t ≤ t := by
    rcases (min_le_spacing t).lt_or_eq with hlt | heq
    · simpa [abs_of_pos htpos] using spacing_le_abs htpos.ne' hlt
    · rw [← heq]
      exact h
  rw [abs_of_pos htpos] at hhigh
  have hmin := min_le_spacing t
  generalize spacing t = e at hpos hm hhigh hlow hmin
  rw [hm] at hhigh hlow
  refine ⟨m, e, ?_, ?_, hmin, hm⟩
  · exact_mod_cast le_of_mul_le_mul_right hlow hpos
  · exact_mod_cast lt_of_mul_lt_mul_right hhigh hpos.le

/-- A share that is a multiple of `2 ^ -53` and less than 1 stays less than the whole when it is
rounded, if the whole is above the smallest normal float. -/
theorem nearest_mul_lt {d t : ℚ} (ht : IsFloat t) (hnormal : smallestNormal < t)
    (hd : d ≤ 1 - 1 / 2 ^ 53) : nearest (d * t) < t := by
  obtain ⟨m, e, hlow, hhigh, he, rfl⟩ := ht.normal hnormal.le
  have hpos := two_zpow_pos e
  have hmlow : (2 : ℚ) ^ 52 ≤ m := by exact_mod_cast hlow
  have hmhigh : (m : ℚ) < 2 ^ 53 := by exact_mod_cast hhigh
  have hmpos : (0 : ℚ) < m := lt_of_lt_of_le (by norm_num) hmlow
  have hshare : d * (m * 2 ^ e) ≤ (m - m / 2 ^ 53) * 2 ^ e := by
    have hscaled := mul_le_mul_of_nonneg_right hd (mul_pos hmpos hpos).le
    calc d * (m * 2 ^ e) ≤ (1 - 1 / 2 ^ 53) * (m * 2 ^ e) := hscaled
      _ = (m - m / 2 ^ 53) * 2 ^ e := by ring
  generalize d * (m * 2 ^ e) = q at hshare
  rcases hlow.lt_or_eq with hlt | heq
  · -- the float below the whole has its spacing
    have hmlt : (2 : ℚ) ^ 52 + 1 ≤ m := by exact_mod_cast hlt
    have hfloat : IsFloat ((m - 1 : ℤ) * 2 ^ e) :=
      ⟨m - 1, e, abs_le.mpr ⟨by omega, by omega⟩, he, rfl⟩
    have hbelow : ((m - 1 : ℤ) : ℚ) * 2 ^ e < m * 2 ^ e :=
      mul_lt_mul_of_pos_right (by push_cast; linarith) hpos
    refine lt_of_le_of_lt ?_ hbelow
    rcases le_or_gt q ((m - 1 : ℤ) * 2 ^ e) with hle | hgt
    · exact nearest_le hfloat hle
    · have hlow' : 2 ^ 52 * 2 ^ e ≤ q := by
        refine le_trans (mul_le_mul_of_nonneg_right ?_ hpos.le) hgt.le
        push_cast
        linarith
      have hhigh' : q < 2 ^ 53 * 2 ^ e := by
        refine lt_of_le_of_lt hshare (mul_lt_mul_of_pos_right ?_ hpos)
        have hpart : 0 < (m : ℚ) / 2 ^ 53 := by positivity
        linarith
      have habs : |q| = q := abs_of_pos (lt_of_lt_of_le (mul_pos (by norm_num) hpos) hlow')
      have hspacing : spacing q = e := by
        refine spacing_eq he ?_ ?_ <;> rw [habs]
        · exact hlow'
        · exact hhigh'
      have hdown := nearest_le_multiple (q := q) (m := m - 1) (by
        left
        rw [hspacing]
        refine lt_of_le_of_lt hshare (mul_lt_mul_of_pos_right ?_ hpos)
        push_cast
        linarith)
      rwa [hspacing] at hdown
  · -- below a power of two the floats are half as far apart
    have hspaced : -1074 < e := by
      refine he.lt_of_ne fun hmin => ?_
      rw [smallestNormal_eq, ← heq, ← hmin] at hnormal
      simp only [Int.cast_pow, Int.cast_ofNat] at hnormal
      exact lt_irrefl _ hnormal
    have hhalf : (2 : ℚ) ^ e = 2 * 2 ^ (e - 1) := by
      have hsum := two_zpow_add (e - 1) 1
      rw [pow_one] at hsum
      rw [← hsum]
      congr 1
      push_cast
      ring
    have hpos' := two_zpow_pos (e - 1)
    have hfloat : IsFloat ((2 ^ 53 - 1 : ℤ) * 2 ^ (e - 1)) :=
      ⟨2 ^ 53 - 1, e - 1, by norm_num, by omega, rfl⟩
    rw [← heq, hhalf] at hshare ⊢
    generalize (2 : ℚ) ^ (e - 1) = u at hpos' hfloat hshare
    push_cast at hfloat hshare ⊢
    refine lt_of_le_of_lt (nearest_le hfloat ?_) ?_ <;> linarith

/-! ### Decoded numbers -/

theorem rounded_finite {q : ℚ} (h : |q| < Number.floatLimit) :
    rounded (.finite q) = .finite (nearest q) := if_pos h

theorem exists_of_rounded {x : Number} {s : ℚ} (h : rounded x = .finite s) :
    ∃ q, x = .finite q ∧ q < Number.floatLimit ∧ nearest q = s := by
  cases x with
  | nonfinite y => cases h
  | finite q =>
    rw [rounded, ofRat] at h
    split_ifs at h with hlt
    exact ⟨q, rfl, lt_of_abs_lt hlt, Number.finite.inj h⟩

theorem one_lt_floatLimit : (2 : ℚ) ^ 53 + 1 < Number.floatLimit := by
  exact_mod_cast (by decide +kernel : 2 ^ 53 + 1 < Number.floatLimit)

/-- Up to a little over `2 ^ 53` nothing is infinite. -/
theorem rounded_small {q : ℚ} (hlo : 0 ≤ q) (hhi : q ≤ 2 ^ 53 + 1) :
    rounded (.finite q) = .finite (nearest q) :=
  rounded_finite (by rw [abs_of_nonneg hlo]; exact lt_of_le_of_lt hhi one_lt_floatLimit)

theorem rounded_one : rounded (.finite 1) = .finite 1 := by
  have hone : IsFloat 1 := by simpa using isFloat_int (m := 1) (by norm_num)
  rw [rounded_small zero_le_one (by norm_num), nearest_eq hone]

/-! ### Sums -/

theorem total_take_succ (fl : Number → Number) (acc : Number) {xs : List Number} {i : ℕ}
    (h : i < xs.length) :
    total fl acc (xs.take (i + 1)) = fl ((total fl acc (xs.take i)).add xs[i]) := by
  rw [total, List.take_succ_eq_append_getElem h, List.foldl_append]
  rfl

theorem total_split (fl : Number → Number) (acc : Number) (xs : List Number) (i : ℕ) :
    total fl acc xs = total fl (total fl acc (xs.take i)) (xs.drop i) := by
  rw [total, total, total, ← List.foldl_append, List.take_append_drop]

section Sums

variable {xs : List Number}

theorem total_nonfinite (y : Nonfinite) (xs : List Number) :
    ∃ z, total rounded (.nonfinite y) xs = .nonfinite z := by
  induction xs generalizing y with
  | nil => exact ⟨y, rfl⟩
  | cons x xs ih =>
    cases x with
    | finite q => exact ih y
    | nonfinite z => exact ih _

/-- No running sum is infinite or a nan where the total is neither. -/
theorem total_take_finite {q : ℚ} (h : total rounded (.finite 0) xs = .finite q) (i : ℕ) :
    ∃ s, total rounded (.finite 0) (xs.take i) = .finite s := by
  cases hs : total rounded (.finite 0) (xs.take i) with
  | finite s => exact ⟨s, rfl⟩
  | nonfinite y =>
    rw [total_split _ _ _ i, hs] at h
    obtain ⟨z, hz⟩ := total_nonfinite y (xs.drop i)
    rw [hz] at h
    cases h

/-- A running sum is a float, below the limit. -/
theorem total_isFloat {s : ℚ} (h : total rounded (.finite 0) xs = .finite s) :
    IsFloat s ∧ s < Number.floatLimit := by
  rcases List.eq_nil_or_concat xs with rfl | ⟨ys, y, rfl⟩
  · rw [← Number.finite.inj h]
    exact ⟨isFloat_zero, lt_trans (by norm_num) one_lt_floatLimit⟩
  · rw [List.concat_eq_append, total, List.foldl_append] at h
    obtain ⟨q, -, hlt, rfl⟩ := exists_of_rounded h
    exact ⟨isFloat_nearest q, nearest_lt_floatLimit hlt⟩

/-- A sum that grows has grown by a positive term. -/
theorem positive_of_growth {a b : ℚ} {x : Number} (ha : IsFloat a)
    (h : rounded ((Number.finite a).add x) = .finite b) (hlt : a < b) :
    ∃ q : ℚ, x = .finite q ∧ 0 < q := by
  obtain ⟨r, hr, -, rfl⟩ := exists_of_rounded h
  cases x with
  | nonfinite y => cases hr
  | finite q =>
    refine ⟨q, rfl, ?_⟩
    rw [← Number.finite.inj hr] at hlt
    by_contra hle
    have hdown := nearest_le (q := a + q) ha (by linarith)
    linarith

/-- However many terms there are, from 0 to 1 each: their sum grows and is at most their number. -/
theorem total_unit (h : ∀ x ∈ xs, ∃ q : ℚ, x = .finite q ∧ 0 ≤ q ∧ q ≤ 1)
    {k : ℕ} {a : ℚ} (ha : IsFloat a) (hlo : 0 ≤ a) (hk : a ≤ k) (hmax : a ≤ 2 ^ 53) :
    ∃ s, total rounded (.finite a) xs = .finite s ∧ a ≤ s ∧
      s ≤ (k + xs.length : ℕ) := by
  induction xs generalizing k a with
  | nil => exact ⟨a, rfl, le_rfl, hk⟩
  | cons x xs ih =>
    obtain ⟨q, rfl, hqlo, hqhi⟩ := h _ List.mem_cons_self
    have hstep : rounded ((Number.finite a).add (.finite q)) = .finite (nearest (a + q)) :=
      rounded_small (by linarith) (by linarith)
    have hgrows : a ≤ nearest (a + q) := le_nearest ha (by linarith)
    have hpow : nearest (a + q) ≤ 2 ^ 53 := nearest_le_pow (by linarith)
    have hcount : nearest (a + q) ≤ (k + 1 : ℕ) := by
      rcases le_or_gt (k + 1) (2 ^ 53) with hle | hlt
      · have hfloat : IsFloat ((k + 1 : ℕ) : ℤ) := isFloat_int (by
          rw [abs_of_nonneg (by positivity)]
          exact_mod_cast hle)
        rw [Int.cast_natCast] at hfloat
        exact nearest_le hfloat (by push_cast; linarith)
      · refine hpow.trans ?_
        exact_mod_cast hlt.le
    obtain ⟨s, hs, hsgrows, hscount⟩ := ih (fun x hx => h x (List.mem_cons_of_mem _ hx))
      (isFloat_nearest _) (hlo.trans hgrows) hcount hpow
    refine ⟨s, ?_, hgrows.trans hsgrows, ?_⟩
    · rw [total, List.foldl_cons, hstep]
      exact hs
    · rw [List.length_cons]
      convert hscount using 2
      omega

end Sums

end Binary64
end AdaptiveAdvertisement.Library
