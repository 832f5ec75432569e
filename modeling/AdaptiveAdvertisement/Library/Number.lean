import AdaptiveAdvertisement.Library.Json
import Mathlib.Algebra.Order.BigOperators.Group.List
import Mathlib.Data.Rat.Floor
import Mathlib.Tactic.Linarith
import Mathlib.Tactic.Positivity
import Mathlib.Tactic.Ring

/-!
# Arithmetic on decoded numbers

A decoded number is a rational, taken without the rounding of floating point, or one of the three
non-finite floats. Sums, means and decimal rounding keep the range of their terms.
-/

namespace AdaptiveAdvertisement.Library

inductive Number where
  | finite (q : ℚ)
  | nonfinite (x : Nonfinite)
  deriving DecidableEq

def Json.asNumber? : Json → Option Number
  | num q => some (.finite q)
  | nonfinite x => some (.nonfinite x)
  | _ => none

/-- A flag is the number 0 or 1 in a comparison. -/
def Json.asNumeric? : Json → Option Number
  | bool b => some (.finite (if b then 1 else 0))
  | v => v.asNumber?

/-- Rounding to the nearest integer, a tie to the even one. -/
def roundEven (q : ℚ) : ℤ :=
  if q - ⌊q⌋ < 1 / 2 then ⌊q⌋
  else if 1 / 2 < q - ⌊q⌋ then ⌊q⌋ + 1
  else if ⌊q⌋ % 2 = 0 then ⌊q⌋
  else ⌊q⌋ + 1

theorem le_roundEven {n : ℤ} {q : ℚ} (h : (n : ℚ) ≤ q) : n ≤ roundEven q := by
  have hfloor : n ≤ ⌊q⌋ := Int.le_floor.mpr h
  unfold roundEven
  split_ifs <;> omega

theorem roundEven_le {n : ℤ} {q : ℚ} (h : q ≤ n) : roundEven q ≤ n := by
  have hfloor : ⌊q⌋ ≤ n := by exact_mod_cast (Int.floor_le q).trans h
  rcases hfloor.lt_or_eq with hlt | heq
  · unfold roundEven
    split_ifs <;> omega
  · -- the floor reaches `n` only where `q` is `n`
    have hq : q - ⌊q⌋ < 1 / 2 := by
      rw [heq]
      linarith
    rw [roundEven, if_pos hq]
    exact hfloor

/-- What rounds to `n` or less: all below the middle of `n` and the next integer, and the middle
itself where `n` is even. -/
theorem roundEven_le_iff {n : ℤ} {q : ℚ} :
    roundEven q ≤ n ↔ q < n + 1 / 2 ∨ q = n + 1 / 2 ∧ n % 2 = 0 := by
  have hfloor := Int.floor_le q
  have hnext := Int.lt_floor_add_one q
  have hcast : ∀ k : ℤ, ⌊q⌋ ≤ k → ((⌊q⌋ : ℤ) : ℚ) ≤ k :=
    fun k h => by exact_mod_cast h
  have hcast' : ∀ k : ℤ, k ≤ ⌊q⌋ → (k : ℚ) ≤ ((⌊q⌋ : ℤ) : ℚ) :=
    fun k h => by exact_mod_cast h
  unfold roundEven
  split_ifs with hlow hhigh heven
  · refine ⟨fun h => Or.inl ?_, fun h => ?_⟩
    · have hn := hcast n h
      linarith
    · by_contra hlt
      have hn := hcast' (n + 1) (by omega)
      push_cast at hn
      rcases h with h | ⟨h, -⟩ <;> linarith
  · refine ⟨fun h => Or.inl ?_, fun h => ?_⟩
    · have hn := hcast (n - 1) (by omega)
      push_cast at hn
      linarith
    · by_contra hlt
      have hn := hcast' n (by omega)
      rcases h with h | ⟨h, -⟩ <;> linarith
  · -- `q` is the middle, and rounds down to an even integer
    have hq : q = ⌊q⌋ + 1 / 2 := by linarith
    refine ⟨fun h => ?_, fun h => ?_⟩
    · rcases h.lt_or_eq with hlt | heq
      · have hn := hcast (n - 1) (by omega)
        push_cast at hn
        exact Or.inl (by linarith)
      · exact Or.inr ⟨by rw [← heq]; exact hq, by rw [← heq]; exact heven⟩
    · by_contra hlt
      have hn := hcast' (n + 1) (by omega)
      push_cast at hn
      rcases h with h | ⟨h, -⟩ <;> linarith
  · -- `q` is the middle, and rounds up to one
    have hq : q = ⌊q⌋ + 1 / 2 := by linarith
    refine ⟨fun h => Or.inl ?_, fun h => ?_⟩
    · have hn := hcast (n - 1) (by omega)
      push_cast at hn
      linarith
    · by_contra hlt
      have hn := hcast' n (by omega)
      rcases h with h | ⟨h, hparity⟩
      · linarith
      · have hsame : n = ⌊q⌋ := by
          have hle : (n : ℚ) = ((⌊q⌋ : ℤ) : ℚ) := by linarith
          exact_mod_cast hle
        rw [hsame] at hparity
        exact heven hparity

theorem truncate_nonneg {q : ℚ} (h : 0 ≤ q) : 0 ≤ truncate q :=
  Int.tdiv_nonneg (Rat.num_nonneg.mpr h) (Int.natCast_nonneg _)

namespace Number

def toJson : Number → Json
  | finite q => .num q
  | nonfinite x => .nonfinite x

def add : Number → Number → Number
  | finite a, finite b => finite (a + b)
  | finite _, nonfinite y => nonfinite y
  | nonfinite x, finite _ => nonfinite x
  | nonfinite x, nonfinite y => nonfinite (if x = y then x else .nan)

def sum (xs : List Number) : Number := xs.foldl add (finite 0)

def divBy (n : ℕ) : Number → Number
  | finite q => finite (q / n)
  | nonfinite x => nonfinite x

def mean (xs : List Number) : Number := (sum xs).divBy xs.length

/-- A comparison with a nan fails. -/
def below (q : ℚ) : Number → Bool
  | finite a => decide (a < q)
  | nonfinite x => decide (x = .negInf)

def lt : Number → Number → Bool
  | finite a, finite b => decide (a < b)
  | finite _, nonfinite y => decide (y = .posInf)
  | nonfinite x, finite _ => decide (x = .negInf)
  | nonfinite x, nonfinite y => decide (x = .negInf ∧ y = .posInf)

/-- `x < v` for a decoded `v`. -/
def less (x : Number) (v : Json) : Except Raised Bool :=
  match v.asNumeric? with
  | some y => .ok (x.lt y)
  | none => .error .typeError

def greater (x : Number) (v : Json) : Except Raised Bool :=
  match v.asNumeric? with
  | some y => .ok (y.lt x)
  | none => .error .typeError

def roundTo (digits : ℕ) : Number → Number
  | finite q => finite (roundEven (q * 10 ^ digits) / 10 ^ digits)
  | nonfinite x => nonfinite x

def isFinite : Number → Bool
  | finite _ => true
  | nonfinite _ => false

/-- A nan is out of no range. -/
def Within (lo hi : ℚ) : Number → Prop
  | finite q => lo ≤ q ∧ q ≤ hi
  | nonfinite x => x = .nan

@[simp] theorem asNumber?_toJson (x : Number) : x.toJson.asNumber? = some x := by
  cases x <;> rfl

theorem asNumber?_eq_some {j : Json} {x : Number} (h : j.asNumber? = some x) : j = x.toJson := by
  cases j <;> simp [Json.asNumber?] at h <;> simp [← h, toJson]

/-- A rounded number is below a threshold up to the middle under the next multiple, on the middle
itself where it goes to the lower neighbour. -/
theorem roundTo_below_iff (digits : ℕ) (threshold q : ℚ) :
    ((finite q).roundTo digits).below threshold = true ↔
      q * 10 ^ digits < ⌈threshold * 10 ^ digits⌉ - 1 / 2 ∨
        q * 10 ^ digits = ⌈threshold * 10 ^ digits⌉ - 1 / 2 ∧
          ⌈threshold * 10 ^ digits⌉ % 2 = 1 := by
  have hpos : (0 : ℚ) < 10 ^ digits := by positivity
  have hgrid : ((finite q).roundTo digits).below threshold = true ↔
      roundEven (q * 10 ^ digits) ≤ ⌈threshold * 10 ^ digits⌉ - 1 := by
    simp only [roundTo, below, decide_eq_true_eq]
    rw [div_lt_iff₀ hpos, ← Int.lt_ceil, Int.le_sub_one_iff]
  have hmiddle : ((⌈threshold * 10 ^ digits⌉ - 1 : ℤ) : ℚ) + 1 / 2 =
      ⌈threshold * 10 ^ digits⌉ - 1 / 2 := by
    push_cast
    ring
  have hparity : (⌈threshold * 10 ^ digits⌉ - 1) % 2 = 0 ↔
      ⌈threshold * 10 ^ digits⌉ % 2 = 1 := by
    omega
  rw [hgrid, roundEven_le_iff, hmiddle, hparity]

/-! ### Conversions -/

/-- What `int()` and `float()` read in a string. -/
structure Texts where
  parseInt : String → Option ℤ
  parseFloat : String → Option Number

def toInt (texts : Texts) : Json → Except Raised ℤ
  | .bool b => .ok (if b then 1 else 0)
  | .num q => .ok (truncate q)
  | .nonfinite x => .error (if x = .nan then .valueError else .overflowError)
  | .str s => (texts.parseInt s).elim (.error .valueError) .ok
  | _ => .error .typeError

/-- `2 ^ 1024 - 2 ^ 970`: from here on a number rounds to a float that is infinite. -/
def floatLimit : ℕ := (2 ^ 32) ^ 32 - (2 ^ 97) ^ 10

/-- Only an integer can be a number beyond the floats. -/
def toFloat (texts : Texts) : Json → Except Raised Number
  | .bool b => .ok (finite (if b then 1 else 0))
  | .num q =>
    if -(floatLimit : ℚ) < q ∧ q < floatLimit then .ok (finite q) else .error .overflowError
  | .nonfinite x => .ok (nonfinite x)
  | .str s => (texts.parseFloat s).elim (.error .valueError) .ok
  | _ => .error .typeError

theorem toInt_int (texts : Texts) (n : ℤ) : toInt texts (.int n) = .ok n := by
  simp [Json.int, toInt, truncate]

theorem toFloat_fraction (texts : Texts) {x : Number} (h : x.Within 0 1) :
    toFloat texts x.toJson = .ok x := by
  cases x with
  | nonfinite y => rfl
  | finite q =>
    obtain ⟨hlo, hhi⟩ := h
    have hlimit : (1 : ℚ) < floatLimit := by
      exact_mod_cast (by decide +kernel : 1 < floatLimit)
    rw [toJson, toFloat, if_pos ⟨by linarith, by linarith⟩]

theorem toFloat_unit (texts : Texts) {q : ℚ} (h : 0 ≤ q ∧ q ≤ 1) :
    toFloat texts (.num q) = .ok (finite q) :=
  toFloat_fraction texts (x := finite q) h

theorem eq_of_toFloat {texts : Texts} {x y : Number} (h : toFloat texts x.toJson = .ok y) :
    y = x := by
  cases x with
  | nonfinite z => exact (Except.ok.inj h).symm
  | finite q =>
    rw [toJson, toFloat] at h
    split_ifs at h
    exact (Except.ok.inj h).symm

/-! ### Ranges -/

section Ranges

variable {lo hi : ℚ} {x y : Number} {xs : List Number}

theorem add_within {lo' hi' : ℚ} (hx : x.Within lo hi) (hy : y.Within lo' hi') :
    (x.add y).Within (lo + lo') (hi + hi') := by
  cases x with
  | finite a =>
    cases y with
    | finite b => exact ⟨add_le_add hx.1 hy.1, add_le_add hx.2 hy.2⟩
    | nonfinite y => exact hy
  | nonfinite x =>
    cases y with
    | finite b => exact hx
    | nonfinite y =>
      have hx' : x = .nan := hx
      have hy' : y = .nan := hy
      simp [add, Within, hx', hy']

theorem foldl_within (acc : Number) {a b : ℚ} (hacc : acc.Within a b)
    (h : ∀ x ∈ xs, x.Within lo hi) :
    (xs.foldl add acc).Within (a + xs.length * lo) (b + xs.length * hi) := by
  induction xs generalizing acc a b with
  | nil => simpa using hacc
  | cons x xs ih =>
    have hnext := ih (acc.add x) (add_within hacc (h x List.mem_cons_self))
      fun y hy => h y (List.mem_cons_of_mem x hy)
    have hlo : a + lo + xs.length * lo = a + (x :: xs).length * lo := by
      push_cast [List.length_cons]
      ring
    have hhi : b + hi + xs.length * hi = b + (x :: xs).length * hi := by
      push_cast [List.length_cons]
      ring
    rw [hlo, hhi] at hnext
    exact hnext

theorem mean_within (hne : xs ≠ []) (h : ∀ x ∈ xs, x.Within lo hi) :
    (mean xs).Within lo hi := by
  have hsum := foldl_within (finite 0) (a := 0) (b := 0) ⟨le_refl _, le_refl _⟩ h
  have hlen : (0 : ℚ) < xs.length := by exact_mod_cast List.length_pos_iff.mpr hne
  unfold mean sum
  cases hfold : xs.foldl add (finite 0) with
  | nonfinite y =>
    rw [hfold] at hsum
    exact hsum
  | finite s =>
    rw [hfold] at hsum
    obtain ⟨hlo, hhi⟩ := hsum
    refine ⟨?_, ?_⟩
    · rw [le_div_iff₀ hlen]
      linarith
    · rw [div_le_iff₀ hlen]
      linarith

/-- Rounding stays between multiples of the last digit. -/
theorem roundTo_within_grid (lo hi : ℤ) (digits : ℕ)
    (h : x.Within (lo / 10 ^ digits) (hi / 10 ^ digits)) :
    (x.roundTo digits).Within (lo / 10 ^ digits) (hi / 10 ^ digits) := by
  cases x with
  | nonfinite y => exact h
  | finite q =>
    obtain ⟨hlo, hhi⟩ := h
    have hpos : (0 : ℚ) < 10 ^ digits := by positivity
    have hle : (lo : ℚ) ≤ roundEven (q * 10 ^ digits) :=
      Int.cast_le.mpr (le_roundEven ((div_le_iff₀ hpos).mp hlo))
    have hge : (roundEven (q * 10 ^ digits) : ℚ) ≤ hi :=
      Int.cast_le.mpr (roundEven_le ((le_div_iff₀ hpos).mp hhi))
    exact ⟨div_le_div_of_nonneg_right hle hpos.le, div_le_div_of_nonneg_right hge hpos.le⟩

theorem roundTo_within (lo hi : ℤ) (digits : ℕ) (h : x.Within lo hi) :
    (x.roundTo digits).Within lo hi := by
  have hpow : (10 : ℚ) ^ digits ≠ 0 := by positivity
  have hgrid : ∀ n : ℤ, ((n * 10 ^ digits : ℤ) : ℚ) / 10 ^ digits = n := by
    intro n
    push_cast
    exact mul_div_cancel_right₀ _ hpow
  have hwithin := roundTo_within_grid (x := x) (lo * 10 ^ digits) (hi * 10 ^ digits) digits
  rw [hgrid, hgrid] at hwithin
  exact hwithin h

end Ranges

/-! ### The order of the terms -/

theorem add_swap (x y z : Number) : (x.add y).add z = (x.add z).add y := by
  cases x with
  | finite a =>
    cases y with
    | finite b =>
      cases z with
      | finite c => simp only [add, add_right_comm]
      | nonfinite z => rfl
    | nonfinite y =>
      cases z with
      | finite c => rfl
      | nonfinite z => cases y <;> cases z <;> rfl
  | nonfinite x =>
    cases y with
    | finite b => cases z <;> rfl
    | nonfinite y =>
      cases z with
      | finite c => rfl
      | nonfinite z => cases x <;> cases y <;> cases z <;> rfl

theorem mean_perm {xs ys : List Number} (h : xs.Perm ys) : mean xs = mean ys := by
  have hsum : sum xs = sum ys := h.foldl_eq' (fun x _ y _ z => add_swap z x y) _
  rw [mean, mean, hsum, h.length_eq]

/-! ### Finite numbers -/

@[simp] theorem isFinite_add (x y : Number) :
    (x.add y).isFinite = (x.isFinite && y.isFinite) := by
  cases x <;> cases y <;> rfl

theorem exists_map_finite {xs : List Number} (h : ∀ x ∈ xs, x.isFinite = true) :
    ∃ qs : List ℚ, xs = qs.map finite := by
  induction xs with
  | nil => exact ⟨[], rfl⟩
  | cons x xs ih =>
    obtain ⟨qs, hqs⟩ := ih fun y hy => h y (List.mem_cons_of_mem x hy)
    cases x with
    | finite q => exact ⟨q :: qs, by rw [hqs, List.map_cons]⟩
    | nonfinite y => exact absurd (h _ List.mem_cons_self) Bool.false_ne_true

theorem isFinite_foldl (acc : Number) (xs : List Number) :
    (xs.foldl add acc).isFinite = (acc.isFinite && xs.all isFinite) := by
  induction xs generalizing acc with
  | nil => simp
  | cons x xs ih => simp [ih, Bool.and_assoc]

@[simp] theorem isFinite_mean (xs : List Number) : (mean xs).isFinite = xs.all isFinite := by
  have hsum := isFinite_foldl (finite 0) xs
  have hdiv : ∀ y : Number, (y.divBy xs.length).isFinite = y.isFinite := by
    intro y
    cases y <;> rfl
  rw [mean, hdiv, sum, hsum]
  rfl

end Number

theorem sum_map_finite (qs : List ℚ) : Number.sum (qs.map .finite) = .finite qs.sum := by
  have hfold : ∀ a : ℚ, (qs.map Number.finite).foldl Number.add (.finite a) =
      .finite (a + qs.sum) := by
    induction qs with
    | nil => simp
    | cons q qs ih =>
      intro a
      simp only [List.map_cons, List.foldl_cons, Number.add, ih, List.sum_cons, add_assoc]
  rw [Number.sum, hfold, zero_add]

theorem mean_finite_pos (qs : List ℚ) :
    (Number.finite 0).lt (Number.mean (qs.map .finite)) = true ↔ 0 < qs.sum := by
  rw [Number.mean, sum_map_finite, List.length_map, Number.divBy, Number.lt, decide_eq_true_iff]
  refine ⟨fun hpos => ?_, fun hsum => ?_⟩
  · by_contra hle
    exact absurd hpos (not_lt.mpr (div_nonpos_of_nonpos_of_nonneg (not_lt.mp hle)
      (Nat.cast_nonneg _)))
  · have hne : qs ≠ [] := fun hnil => by simp [hnil] at hsum
    exact div_pos hsum (by exact_mod_cast List.length_pos_iff.mpr hne)

/-- A nan among the terms makes the mean one. -/
theorem mean_pos_iff {hi : ℚ} {xs : List Number} (h : ∀ x ∈ xs, x.Within 0 hi) :
    (Number.finite 0).lt (Number.mean xs) = true ↔
      (∀ x ∈ xs, x.isFinite = true) ∧ ∃ x ∈ xs, (Number.finite 0).lt x = true := by
  have hfinite := Number.isFinite_mean xs
  by_cases hall : xs.all Number.isFinite = true
  · obtain ⟨qs, rfl⟩ := Number.exists_map_finite (List.all_eq_true.mp hall)
    have hnonneg : ∀ q ∈ qs, 0 ≤ q := fun q hq => (h _ (List.mem_map_of_mem hq)).1
    rw [mean_finite_pos]
    constructor
    · intro hsum
      obtain ⟨q, hq, hlt⟩ := List.exists_lt_of_sum_lt (l := qs) (fun _ => (0 : ℚ)) id
        (by simpa using hsum)
      exact ⟨List.all_eq_true.mp hall, .finite q, List.mem_map_of_mem hq, decide_eq_true hlt⟩
    · rintro ⟨-, x, hx, hpos⟩
      obtain ⟨q, hq, rfl⟩ := List.mem_map.mp hx
      exact lt_of_lt_of_le (of_decide_eq_true hpos) (List.single_le_sum hnonneg q hq)
  · refine iff_of_false (fun hpos => ?_) fun hboth => hall (List.all_eq_true.mpr hboth.1)
    have hne : xs ≠ [] := fun hnil => hall (by rw [hnil]; rfl)
    have hwithin := Number.mean_within hne h
    cases hmean : Number.mean xs with
    | finite q =>
      rw [hmean] at hfinite
      exact hall hfinite.symm
    | nonfinite y =>
      rw [hmean] at hwithin hpos
      obtain rfl : y = .nan := hwithin
      cases hpos

end AdaptiveAdvertisement.Library
