import AdaptiveAdvertisement.Library.Binary64

/-!
# Weighted random choice

One draw from a population with weights (`random.choices`): the running sums of the weights are
searched for a point that is drawn uniformly below their total. Every result of the arithmetic goes
through `fl`: `Binary64.rounded` on floats, the identity on exact numbers.
-/

namespace AdaptiveAdvertisement.Library

section Choices

variable (fl : Number → Number)

def accumulate (acc : Number) : List Number → List Number
  | [] => []
  | w :: ws => fl (acc.add w) :: accumulate (fl (acc.add w)) ws

/-- The first index from `lo` on, and `hi` at the latest, whose sum is above `x`, by bisection. -/
def bisectRight (sums : List Number) (x : Number) : ℕ → ℕ → ℕ → ℕ
  | 0, lo, _ => lo
  | fuel + 1, lo, hi =>
    if lo < hi then
      if x.lt (sums.getD ((lo + hi) / 2) (.finite 0)) then
        bisectRight sums x fuel lo ((lo + hi) / 2)
      else bisectRight sums x fuel ((lo + hi) / 2 + 1) hi
    else lo

/-- A total that is not positive and finite is refused. -/
def choices {α : Type} (population : List α) (weights : List Number) (draw : ℚ) :
    Except Raised α :=
  let sums := accumulate fl (.finite 0) weights
  match sums.getLast? with
  | some (.finite total) =>
    if total ≤ 0 then .error .valueError
    else
      match population[bisectRight sums (fl (.finite (draw * total))) sums.length 0
        (sums.length - 1)]? with
      | some a => .ok a
      | none => .error .valueError
  | _ => .error .valueError

/-- What `random()` draws. -/
def Drawn (draw : ℚ) : Prop := ∃ k : ℕ, k < 2 ^ 53 ∧ draw = k / 2 ^ 53

theorem Drawn.bounds {draw : ℚ} (h : Drawn draw) : 0 ≤ draw ∧ draw ≤ 1 - 1 / 2 ^ 53 := by
  obtain ⟨k, hk, rfl⟩ := h
  have hk' : (k : ℚ) + 1 ≤ 2 ^ 53 := by exact_mod_cast hk
  refine ⟨by positivity, ?_⟩
  rw [div_le_iff₀ (by positivity), sub_mul, one_mul, one_div_mul_cancel (by positivity)]
  linarith

theorem drawn_zero : Drawn 0 := ⟨0, by norm_num, by norm_num⟩

/-! ### The bisection -/

theorem bisectRight_le (sums : List Number) (x : Number) (fuel : ℕ) {lo hi : ℕ}
    (h : lo ≤ hi) : bisectRight sums x fuel lo hi ≤ hi := by
  induction fuel generalizing lo hi with
  | zero => exact h
  | succ fuel ih =>
    rw [bisectRight]
    split_ifs with hlt hx
    · have hmid : lo ≤ (lo + hi) / 2 := by omega
      have hrest := ih hmid
      omega
    · have hmid : (lo + hi) / 2 + 1 ≤ hi := by omega
      exact ih hmid
    · exact h

/-- The sum that is found is above `x` and the one before it is not, except at the ends of the
interval, which are not tested. -/
theorem bisectRight_spec (sums : List Number) (x : Number) (fuel : ℕ) {lo hi : ℕ}
    (hle : lo ≤ hi) (hfuel : hi - lo ≤ fuel) :
    lo ≤ bisectRight sums x fuel lo hi ∧
      (lo < bisectRight sums x fuel lo hi →
        x.lt (sums.getD (bisectRight sums x fuel lo hi - 1) (.finite 0)) = false) ∧
      (bisectRight sums x fuel lo hi < hi →
        x.lt (sums.getD (bisectRight sums x fuel lo hi) (.finite 0)) = true) := by
  induction fuel generalizing lo hi with
  | zero =>
    rw [bisectRight]
    exact ⟨le_rfl, fun h => absurd h (lt_irrefl lo), fun h => by omega⟩
  | succ fuel ih =>
    rw [bisectRight]
    split_ifs with hlt hx
    · obtain ⟨hlow, hbefore, hfound⟩ := @ih lo ((lo + hi) / 2) (by omega) (by omega)
      refine ⟨hlow, hbefore, fun h => ?_⟩
      have hhigh := @bisectRight_le sums x fuel lo ((lo + hi) / 2) (by omega)
      rcases hhigh.lt_or_eq with hinside | hend
      · exact hfound hinside
      · rw [hend]
        exact hx
    · obtain ⟨hlow, hbefore, hfound⟩ := @ih ((lo + hi) / 2 + 1) hi (by omega) (by omega)
      refine ⟨by omega, fun h => ?_, hfound⟩
      rcases hlow.lt_or_eq with hinside | hend
      · exact hbefore hinside
      · rw [← hend, Nat.add_sub_cancel]
        simpa using hx
    · exact ⟨le_rfl, fun h => absurd h (lt_irrefl lo), fun h => absurd h hlt⟩

/-! ### The running sums -/

variable {fl}

@[simp] theorem length_accumulate (acc : Number) (ws : List Number) :
    (accumulate fl acc ws).length = ws.length := by
  induction ws generalizing acc with
  | nil => rfl
  | cons w ws ih => simp [accumulate, ih]

theorem getLast?_accumulate (acc : Number) {ws : List Number} (h : ws ≠ []) :
    (accumulate fl acc ws).getLast? = some (total fl acc ws) := by
  induction ws generalizing acc with
  | nil => exact absurd rfl h
  | cons w ws ih =>
    cases ws with
    | nil => rfl
    | cons v ws =>
      have hrest := ih (fl (acc.add w)) (List.cons_ne_nil v ws)
      rw [accumulate] at hrest
      rw [accumulate, accumulate, List.getLast?_cons_cons, hrest]
      rfl

theorem getD_accumulate (acc : Number) {ws : List Number} {i : ℕ} (h : i < ws.length) :
    (accumulate fl acc ws).getD i (.finite 0) = total fl acc (ws.take (i + 1)) := by
  induction ws generalizing acc i with
  | nil => simp at h
  | cons w ws ih =>
    cases i with
    | zero => simp [accumulate, total]
    | succ i =>
      have hrest := ih (fl (acc.add w)) (Nat.lt_of_succ_lt_succ h)
      rw [accumulate, List.getD_cons_succ, hrest]
      rfl

/-! ### The draw -/

variable {α : Type} {population : List α}

theorem choices_mem_population {weights : List Number} {draw : ℚ} {a : α}
    (h : choices fl population weights draw = .ok a) : a ∈ population := by
  unfold choices at h
  dsimp only at h
  split at h
  · split_ifs at h
    split at h
    next b hb =>
      cases h
      exact List.mem_of_getElem? hb
    next => cases h
  · cases h

variable (fl) in
def PositiveTotal (weights : List Number) : Prop :=
  ∃ q : ℚ, total fl (.finite 0) weights = .finite q ∧ 0 < q

theorem PositiveTotal.ne_nil {weights : List Number} (h : PositiveTotal fl weights) :
    weights ≠ [] := by
  rintro rfl
  obtain ⟨q, hq, hpos⟩ := h
  exact hpos.ne (Number.finite.inj hq)

theorem choices_refused {weights : List Number} (h : ¬ PositiveTotal fl weights) (draw : ℚ) :
    choices fl population weights draw = .error .valueError := by
  unfold choices
  cases weights with
  | nil => rfl
  | cons w ws =>
    have hlast := @getLast?_accumulate fl (.finite 0) _ (List.cons_ne_nil w ws)
    cases hsum : total fl (.finite 0) (w :: ws) with
    | nonfinite x => simp only [hlast, hsum]
    | finite q =>
      have hq : q ≤ 0 := by
        by_contra hpos
        exact h ⟨q, hsum, not_le.mp hpos⟩
      simp only [hlast, hsum, hq, if_true]

/-- A draw chooses where the running sums enclose its point, as far as they are tested. -/
theorem choices_found {weights : List Number} (hlen : weights.length = population.length) {q : ℚ}
    (hsum : total fl (.finite 0) weights = .finite q) (hpos : 0 < q) (draw : ℚ) :
    ∃ (k : ℕ) (hk : k < population.length),
      choices fl population weights draw = .ok population[k] ∧
      (0 < k → (fl (.finite (draw * q))).lt (total fl (.finite 0) (weights.take k)) = false) ∧
      (k + 1 < population.length →
        (fl (.finite (draw * q))).lt (total fl (.finite 0) (weights.take (k + 1))) = true) := by
  have hne : weights ≠ [] := PositiveTotal.ne_nil ⟨q, hsum, hpos⟩
  have hlast := @getLast?_accumulate fl (.finite 0) _ hne
  have hlength := @length_accumulate fl (.finite 0) weights
  have hpopulation := List.length_pos_iff.mpr hne
  obtain ⟨-, hbefore, hfound⟩ := bisectRight_spec (accumulate fl (.finite 0) weights)
    (fl (.finite (draw * q))) (accumulate fl (.finite 0) weights).length
    (Nat.zero_le ((accumulate fl (.finite 0) weights).length - 1)) (by omega)
  have hbound := bisectRight_le (accumulate fl (.finite 0) weights) (fl (.finite (draw * q)))
    (accumulate fl (.finite 0) weights).length
    (Nat.zero_le ((accumulate fl (.finite 0) weights).length - 1))
  generalize hindex : bisectRight (accumulate fl (.finite 0) weights) (fl (.finite (draw * q)))
    (accumulate fl (.finite 0) weights).length 0
    ((accumulate fl (.finite 0) weights).length - 1) = k at hbefore hfound hbound
  have hk : k < population.length := by omega
  refine ⟨k, hk, ?_, fun hkpos => ?_, fun hlt => ?_⟩
  · unfold choices
    simp only [hlast, hsum, not_le.mpr hpos, if_false, hindex, List.getElem?_eq_getElem hk]
  · have hprevious := hbefore hkpos
    rwa [getD_accumulate _ (by omega), Nat.sub_add_cancel hkpos] at hprevious
  · have habove := hfound (by omega)
    rwa [getD_accumulate _ (by omega)] at habove


/-! ### Equal weights -/

section Ones

variable {α : Type} {population : List α}

theorem total_ones {n : ℕ} (hfl : ∀ j : ℕ, j ≤ n → fl (.finite j) = .finite j) {m : ℕ}
    (hm : m ≤ n) : total fl (.finite 0) (List.replicate m (.finite 1)) = .finite (m : ℚ) := by
  induction m with
  | zero => simp [total]
  | succ m ih =>
    have hrest := ih (Nat.le_of_succ_le hm)
    rw [total] at hrest
    rw [List.replicate_succ', total, List.foldl_append, hrest, List.foldl_cons, List.foldl_nil,
      Number.add, ← hfl _ hm]
    push_cast
    rfl

theorem choices_ones
    (hfl : ∀ j : ℕ, j ≤ population.length → fl (.finite j) = .finite j) {k : ℕ}
    (hk : k < population.length) {draw x : ℚ}
    (hpoint : fl (.finite (draw * population.length)) = .finite x) (hlo : k ≤ x)
    (hhi : x < k + 1) :
    choices fl population (List.replicate population.length (.finite 1)) draw =
      .ok population[k] := by
  have hpos : (0 : ℚ) < population.length := by
    exact_mod_cast Nat.zero_lt_of_lt hk
  have hlen : (List.replicate population.length (Number.finite 1)).length = population.length :=
    List.length_replicate
  obtain ⟨i, hi, hchoice, hbefore, hfound⟩ :=
    choices_found hlen (total_ones hfl le_rfl) hpos draw
  rw [hpoint, List.take_replicate, total_ones hfl (Nat.min_le_right _ _), Nat.min_eq_left hi.le,
    Number.lt, decide_eq_false_iff_not, not_lt] at hbefore
  rw [hpoint, List.take_replicate, total_ones hfl (Nat.min_le_right _ _), Nat.min_eq_left hi,
    Number.lt, decide_eq_true_iff] at hfound
  have hik : i = k := by
    rcases lt_trichotomy i k with hlt | heq | hgt
    · have hbelow := hfound (by omega)
      have hcast : ((i + 1 : ℕ) : ℚ) ≤ k := by exact_mod_cast hlt
      linarith
    · exact heq
    · have habove := hbefore (by omega)
      have hcast : (k : ℚ) + 1 ≤ i := by exact_mod_cast hgt
      linarith
  subst hik
  exact hchoice

/-- Among equal weights every index has its draw. -/
def DrawsEach (fl : Number → Number) (drawn : ℚ → Prop) (population : List α) : Prop :=
  ∀ k (hk : k < population.length), ∃ draw, drawn draw ∧
    choices fl population (List.replicate population.length (.finite 1)) draw = .ok population[k]

theorem drawsEach_exact (population : List α) :
    DrawsEach id (fun draw => 0 ≤ draw ∧ draw < 1) population := by
  intro k hk
  have hpos : (0 : ℚ) < population.length := by
    exact_mod_cast Nat.zero_lt_of_lt hk
  refine ⟨(k : ℚ) / population.length, ⟨by positivity, ?_⟩, ?_⟩
  · rw [div_lt_one hpos]
    exact_mod_cast hk
  · refine choices_ones (fun _ _ => rfl) hk ?_ le_rfl (lt_add_one _)
    rw [div_mul_cancel₀ _ hpos.ne', id]

open Binary64 in
/-- In floats too, unless there are more of them than half the draws. -/
theorem drawsEach_rounded (hle : population.length ≤ 2 ^ 52) :
    DrawsEach rounded Drawn population := by
  intro k hk
  have hpos : (0 : ℚ) < population.length := by
    exact_mod_cast Nat.zero_lt_of_lt hk
  have hlen : (population.length : ℚ) ≤ 2 ^ 52 := by exact_mod_cast hle
  have hnext : (k : ℚ) + 1 ≤ population.length := by exact_mod_cast hk
  have hexact : ∀ j : ℕ, j ≤ population.length → rounded (.finite j) = .finite j := by
    intro j hj
    have hj' : (j : ℚ) ≤ 2 ^ 52 := (Nat.cast_le.mpr hj).trans hlen
    have hfloat : IsFloat ((j : ℤ) : ℚ) := isFloat_int (by
      rw [abs_of_nonneg (Int.natCast_nonneg j)]
      exact_mod_cast hj.trans (hle.trans (by norm_num)))
    rw [Int.cast_natCast] at hfloat
    rw [rounded_small (Nat.cast_nonneg j) (by linarith), nearest_eq hfloat]
  -- the first draw whose point is not below `k`
  have hceil := Nat.le_ceil ((k : ℚ) * 2 ^ 53 / population.length)
  have hceil' := Nat.ceil_lt_add_one (a := (k : ℚ) * 2 ^ 53 / population.length) (by positivity)
  generalize ⌈(k : ℚ) * 2 ^ 53 / population.length⌉₊ = n at hceil hceil'
  rw [div_le_iff₀ hpos] at hceil
  have habove : (n : ℚ) * population.length < k * 2 ^ 53 + population.length := by
    have hscaled := mul_lt_mul_of_pos_right hceil' hpos
    rwa [add_mul, div_mul_cancel₀ _ hpos.ne', one_mul] at hscaled
  have hn : n < 2 ^ 53 := by
    have hbelow : (n : ℚ) * population.length < 2 ^ 53 * population.length := by
      have hscaled := mul_le_mul_of_nonneg_right hnext (by norm_num : (0 : ℚ) ≤ 2 ^ 53)
      linarith
    exact_mod_cast lt_of_mul_lt_mul_right hbelow hpos.le
  have hpoint : (n : ℚ) / 2 ^ 53 * population.length = n * population.length / 2 ^ 53 := by ring
  have hlo : (k : ℚ) ≤ n / 2 ^ 53 * population.length := by
    rw [hpoint, le_div_iff₀ (by norm_num)]
    exact hceil
  have hhi : (n : ℚ) / 2 ^ 53 * population.length ≤ k + 1 / 2 := by
    rw [hpoint, div_le_iff₀ (by norm_num)]
    linarith
  have hk' : (k : ℚ) + 1 ≤ 2 ^ 52 := hnext.trans hlen
  have hfloat : IsFloat ((k : ℤ) : ℚ) := isFloat_int (by
    rw [abs_of_nonneg (Int.natCast_nonneg k)]
    exact_mod_cast hk.le.trans (hle.trans (by norm_num)))
  have hhalf : IsFloat ((k : ℚ) + 1 / 2) := by
    refine ⟨2 * k + 1, -1, ?_, by norm_num, ?_⟩
    · rw [abs_of_nonneg (by positivity)]
      have hbound : k + 1 ≤ 2 ^ 52 := by exact_mod_cast hk'
      omega
    · push_cast
      ring
  refine ⟨n / 2 ^ 53, ⟨n, hn, rfl⟩, choices_ones hexact hk
    (rounded_small ((Nat.cast_nonneg k).trans hlo) (by linarith)) ?_ ?_⟩
  · exact_mod_cast le_nearest hfloat (by exact_mod_cast hlo)
  · have hdown := nearest_le hhalf hhi
    linarith

end Ones

end Choices

/-! ### Floats -/

section Floats

open Binary64

variable {α : Type} {population : List α} {weights : List Number}

/-- Where the total is positive, so is some weight. -/
theorem PositiveTotal.exists_positive (h : PositiveTotal rounded weights) :
    ∃ v : ℚ, .finite v ∈ weights ∧ 0 < v := by
  obtain ⟨q, hsum, hpos⟩ := h
  by_contra hnone
  have hle : ∀ i, ∀ s : ℚ, total rounded (.finite 0) (weights.take i) = .finite s →
      s ≤ 0 := by
    intro i
    induction i with
    | zero =>
      intro s hs
      exact (Number.finite.inj hs).symm.le
    | succ i ih =>
      intro s hs
      rcases Nat.lt_or_ge i weights.length with hi | hi
      · obtain ⟨a, ha⟩ := total_take_finite hsum i
        have ha0 := ih a ha
        by_contra hspos
        rw [total_take_succ _ _ hi, ha] at hs
        obtain ⟨v, hv, hvpos⟩ := positive_of_growth (total_isFloat ha).1 hs (by linarith)
        exact hnone ⟨v, hv ▸ List.getElem_mem hi, hvpos⟩
      · rw [List.take_of_length_le (by omega), ← List.take_of_length_le hi] at hs
        exact ih s hs
  have hq := hle weights.length q (by rwa [List.take_length])
  linarith

/-- Whoever is drawn has a positive weight, but for the last, which the point falls on too if it is
rounded up to the total. -/
theorem choices_drawn {weight : α → Number} {q : ℚ}
    (hsum : total rounded (.finite 0) (population.map weight) = .finite q) (hpos : 0 < q)
    {draw : ℚ} (hdraw : Drawn draw) :
    ∃ a ∈ population, choices rounded population (population.map weight) draw = .ok a ∧
      ((∃ v : ℚ, weight a = .finite v ∧ 0 < v) ∨
        population.getLast? = some a ∧ q ≤ smallestNormal) := by
  obtain ⟨hfloat, hlimit⟩ := total_isFloat hsum
  obtain ⟨hlo, hhi⟩ := hdraw.bounds
  have hhi' : draw * q ≤ q := mul_le_of_le_one_left hpos.le (hhi.trans (by norm_num))
  have hpoint : rounded (.finite (draw * q)) = .finite (nearest (draw * q)) := by
    refine rounded_finite ?_
    rw [abs_of_nonneg (mul_nonneg hlo hpos.le)]
    exact lt_of_le_of_lt hhi' hlimit
  have hlen : (population.map weight).length = population.length := List.length_map _
  obtain ⟨k, hk, hchoice, hbefore, hfound⟩ := choices_found hlen hsum hpos draw
  rw [hpoint] at hbefore hfound
  have hk' : k < (population.map weight).length := by simpa using hk
  obtain ⟨a, ha⟩ := total_take_finite hsum k
  obtain ⟨b, hb⟩ := total_take_finite hsum (k + 1)
  have hle : a ≤ nearest (draw * q) := by
    rcases Nat.eq_zero_or_pos k with rfl | hkpos
    · rw [← Number.finite.inj ha]
      exact le_nearest isFloat_zero (mul_nonneg hlo hpos.le)
    · have hbelow := hbefore hkpos
      rw [ha, Number.lt, decide_eq_false_iff_not, not_lt] at hbelow
      exact hbelow
  have hgrows : a < b → ∃ v : ℚ, weight population[k] = .finite v ∧ 0 < v := by
    intro hlt
    rw [total_take_succ _ _ hk', ha] at hb
    obtain ⟨v, hv, hvpos⟩ := positive_of_growth (total_isFloat ha).1 hb hlt
    exact ⟨v, by simpa using hv, hvpos⟩
  refine ⟨population[k], List.getElem_mem hk, hchoice, ?_⟩
  rcases Nat.lt_or_ge (k + 1) population.length with hin | hlast
  · have habove := hfound hin
    rw [hb, Number.lt, decide_eq_true_iff] at habove
    exact Or.inl (hgrows (lt_of_le_of_lt hle habove))
  · -- the last one: its running sum is the total
    have hbq : b = q := by
      rw [List.take_of_length_le (by simpa using hlast), hsum] at hb
      exact (Number.finite.inj hb).symm
    rcases lt_or_ge smallestNormal q with hnormal | hsmall
    · exact Or.inl (hgrows (hbq ▸ lt_of_le_of_lt hle (nearest_mul_lt hfloat hnormal hhi)))
    · refine Or.inr ⟨?_, hsmall⟩
      rw [List.getLast?_eq_getElem?, List.getElem?_eq_getElem (by omega)]
      congr 2
      omega

/-- Weights of at most 1 that are not too small have a total, however many they are. -/
theorem positiveTotal_of_weights {lo : ℚ} (hlo : IsFloat lo) (hlopos : 0 < lo)
    (hne : weights ≠ [])
    (h : ∀ w ∈ weights, ∃ v : ℚ, w = .finite v ∧ lo ≤ v ∧ v ≤ 1) :
    PositiveTotal rounded weights := by
  have hunit : ∀ w ∈ weights, ∃ v : ℚ, w = .finite v ∧ 0 ≤ v ∧ v ≤ 1 := by
    intro w hw
    obtain ⟨v, hv, hvlo, hvhi⟩ := h w hw
    exact ⟨v, hv, hlopos.le.trans hvlo, hvhi⟩
  cases weights with
  | nil => exact absurd rfl hne
  | cons w ws =>
    obtain ⟨v, rfl, hvlo, hvhi⟩ := h _ List.mem_cons_self
    have hfirst : rounded ((Number.finite 0).add (.finite v)) = .finite (nearest v) := by
      rw [Number.add, zero_add]
      exact rounded_small (hlopos.le.trans hvlo) (by linarith)
    have hlow : lo ≤ nearest v := le_nearest hlo hvlo
    have hone : nearest v ≤ (1 : ℕ) := by
      have hfloat := isFloat_int (m := 1) (by norm_num)
      exact_mod_cast nearest_le hfloat (by exact_mod_cast hvhi)
    obtain ⟨s, hs, hgrows, -⟩ := total_unit (fun w hw => hunit w (List.mem_cons_of_mem _ hw))
      (isFloat_nearest v) (hlopos.le.trans hlow) hone (hone.trans (by norm_num))
    refine ⟨s, ?_, hlopos.trans_le (hlow.trans hgrows)⟩
    rw [total, List.foldl_cons, hfirst]
    exact hs

end Floats

-- large weights run over, and cancel a small one
example : total Binary64.rounded (.finite 0) [.finite (10 ^ 308), .finite (10 ^ 308)] =
    .nonfinite .posInf := by decide +kernel

example : total Binary64.rounded (.finite 0) [.finite (10 ^ 16), .finite 1, .finite (-10 ^ 16)] =
    .finite 0 := by decide +kernel

end AdaptiveAdvertisement.Library
