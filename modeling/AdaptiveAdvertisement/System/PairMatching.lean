import AdaptiveAdvertisement.Dashboard.PairRules
import AdaptiveAdvertisement.DecisionOptimizer.ConditionLanguage
import AdaptiveAdvertisement.System.GeneratedPolicy

/-!
# Pair rules are conjunctions

The conditions of a pair are the merged conditions of its tags. A key that both tags have keeps
the larger value, and all such keys are lower bounds, so that the merged condition is met exactly
where both are (`rule_generator.py:343-364`, `484-537`).
-/

namespace AdaptiveAdvertisement.System
open Library Contracts Dashboard DecisionOptimizer

/-! ### Merged conditions -/

theorem get_foldl_merge (es : List (String × ℚ)) (hn : (es.map Prod.fst).Nodup)
    (merged : Dashboard.Conditions) (key : String) :
    (es.foldl (fun merged e => merged.set e.1 ((merged.get e.1).elim e.2 fun v => max v e.2))
      merged).get key =
      (Dict.find key es).elim (merged.get key) fun q =>
        some ((merged.get key).elim q fun v => max v q) := by
  induction es generalizing merged with
  | nil => rfl
  | cons e es ih =>
    obtain ⟨hnew, hrest⟩ := List.nodup_cons.mp hn
    rw [List.foldl_cons, ih hrest]
    by_cases hkey : e.1 = key
    · subst hkey
      have hnone : Dict.find e.1 es = none := by
        rw [← Option.not_isSome_iff_eq_none, Dict.find_isSome_iff]
        exact hnew
      simp [hnone, Dict.find]
    · rw [Dict.get_set_ne _ _ (Ne.symm hkey)]
      simp [Dict.find, hkey]

theorem get_mergeConditions (a b : Dashboard.Conditions) (key : String) :
    (mergeConditions a b).get key = (b.get key).elim (a.get key) fun q =>
      some ((a.get key).elim q fun v => max v q) :=
  get_foldl_merge b.entries b.nodup a key

/-- What the attention gate and the slot set, whatever the tag's own conditions are. -/
def imposed (slot : Option HourSlot) (key : String) : Option ℚ :=
  (slot.bind fun h => if key = "time_hour_lte" then some (h.lte : ℚ)
    else if key = "time_hour_gte" then some (h.gte : ℚ) else none).or
  (if key = "attention_engaged_gte" then some attentionGateThreshold else none)

def gated (c : Dashboard.Conditions) (slot : Option HourSlot) : Dashboard.Conditions :=
  withSlot (c.set "attention_engaged_gte" attentionGateThreshold) slot

theorem get_gated (c : Dashboard.Conditions) (slot : Option HourSlot) (key : String) :
    (gated c slot).get key = (imposed slot key).or (c.get key) := by
  cases slot with
  | none =>
    rw [gated, withSlot, Dict.get_set, imposed]
    split_ifs <;> simp
  | some h =>
    rw [gated, withSlot, Dict.get_set, Dict.get_set, Dict.get_set, imposed]
    split_ifs <;> simp_all

/-! ### Meeting the conditions of a generated rule -/

section Meets

variable {s : Signal} {hour : ℕ}

def Meets (c : Dashboard.Conditions) (s : Signal) (hour : ℕ) (d : Documented) : Prop :=
  ∀ q, c.get d.key = some q → d.Holds s hour (.finite q)

theorem condition_loadedRule (g : GeneratedRule) (key : String) :
    (loadedRule g).condition key = (g.conditions.get key).map Json.num := by
  unfold Rule.condition loadedRule
  rw [Dict.find_map Json.num]
  change _ = (Dict.find key g.conditions.entries).map Json.num
  cases Dict.find key g.conditions.entries <;> rfl

theorem loadedRule_matches_iff (g : GeneratedRule) :
    (loadedRule g).matchesSignal s hour = .ok true ↔
      ∀ d ∈ conditionLanguage, Meets g.conditions s hour d := by
  have hnumeric : ∀ v, (loadedRule g).condition "attention_engaged_gte" = some v →
      ∃ x : Number, v.asNumeric? = some x := fun v hv => loadedRule_comparable g _ v hv
  rw [matchesSignal_iff hnumeric]
  refine forall₂_congr fun d _ => ?_
  unfold Documented.Met Meets
  rw [condition_loadedRule]
  cases g.conditions.get d.key with
  | none => simp
  | some q =>
    simp only [Option.map_some, Option.some.injEq, forall_eq']
    refine ⟨fun h => ?_, fun h => ⟨.finite q, rfl, h⟩⟩
    obtain ⟨x, hx, hholds⟩ := h
    cases hx
    exact hholds

theorem gte_max (x : Number) (p q : ℚ) : Comparison.gte.Holds x (.finite (max p q)) ↔
    Comparison.gte.Holds x (.finite p) ∧ Comparison.gte.Holds x (.finite q) := by
  cases x with
  | finite r => simp [Comparison.Holds, Number.lt]
  | nonfinite y => simp [Comparison.Holds, Number.lt]

theorem holds_max {d : Documented} (hd : d.comparison = .gte) (p q : ℚ) :
    d.Holds s hour (.finite (max p q)) ↔
      d.Holds s hour (.finite p) ∧ d.Holds s hour (.finite q) := by
  unfold Documented.Holds
  rw [hd]
  cases d.subject with
  | presence field =>
    simp only [gte_max]
    refine ⟨fun h => ?_, fun h => ?_⟩
    · obtain ⟨x, hx, hp, hq⟩ := h
      exact ⟨⟨x, hx, hp⟩, x, hx, hq⟩
    · obtain ⟨⟨x, hx, hp⟩, y, hy, hq⟩ := h
      rw [hx, Option.some.injEq] at hy
      exact ⟨x, hx, hp, hy ▸ hq⟩
  | demographic block bin =>
    simp only [gte_max]
    tauto
  | suppression => exact gte_max _ p q
  | attention field =>
    simp only [gte_max]
    exact ⟨fun h => ⟨fun x hx => (h x hx).1, fun x hx => (h x hx).2⟩,
      fun h x hx => ⟨h.1 x hx, h.2 x hx⟩⟩
  | hour => exact gte_max _ p q

theorem meets_merge {a b : Dashboard.Conditions} {d : Documented}
    (hboth : ∀ p q, a.get d.key = some p → b.get d.key = some q → d.comparison = .gte) :
    Meets (mergeConditions a b) s hour d ↔ Meets a s hour d ∧ Meets b s hour d := by
  unfold Meets
  rw [get_mergeConditions]
  cases ha : a.get d.key with
  | none => cases b.get d.key <;> simp
  | some p =>
    cases hb : b.get d.key with
    | none => simp
    | some q => simpa using holds_max (hboth p q ha hb) p q

theorem meets_gated (c : Dashboard.Conditions) (slot : Option HourSlot) (d : Documented) :
    Meets (gated c slot) s hour d ↔ (∀ q, imposed slot d.key = some q →
      d.Holds s hour (.finite q)) ∧ (imposed slot d.key = none → Meets c s hour d) := by
  unfold Meets
  rw [get_gated]
  cases imposed slot d.key <;> simp

theorem shared_keys : ∀ e ∈ dimensionGroups, ∀ e' ∈ dimensionGroups, e.2 ≠ e'.2 →
    ∀ key ∈ (Dashboard.conditionsOf e.1).keys, key ∈ (Dashboard.conditionsOf e'.1).keys →
      key ∈ ["presence_count_gte", "presence_confidence_gte"] := by
  decide +kernel

theorem shared_comparison : ∀ d ∈ conditionLanguage,
    d.key ∈ ["presence_count_gte", "presence_confidence_gte"] → d.comparison = .gte := by
  decide

theorem dimensioned_gated : ∀ e ∈ dimensionGroups, e.1 ∉ attentionGateExcluded := by decide

section Pair

variable {manifestId : String} {occasionBonus : ℤ} {t : Option TimeSlot} {a b : String}

theorem crossDimRule_conditions : (crossDimRule manifestId occasionBonus t a b).conditions =
    gated (mergeConditions (conditionsOf a) (conditionsOf b)) (t.bind TimeSlot.slot) := rfl

theorem audienceRule_conditions {dim : String} (h : Dict.find a dimensionGroups = some dim) :
    (audienceRule manifestId occasionBonus t a).conditions =
      gated (conditionsOf a) (t.bind TimeSlot.slot) := by
  have hgate := dimensioned_gated _ (Dict.find_eq_some_mem h)
  simp only [audienceRule, injectAttentionGate, hgate, if_false, gated]

/-- The rule of a pair matches exactly where the rules of both tags do. -/
theorem crossDimRule_matches_iff (h : OtherDimensions a b) :
    (loadedRule (crossDimRule manifestId occasionBonus t a b)).matchesSignal s hour = .ok true ↔
      (loadedRule (audienceRule manifestId occasionBonus t a)).matchesSignal s hour = .ok true ∧
      (loadedRule (audienceRule manifestId occasionBonus t b)).matchesSignal s hour = .ok true := by
  obtain ⟨dimA, dimB, hdimA, hdimB, hne⟩ := h
  simp only [loadedRule_matches_iff, crossDimRule_conditions, audienceRule_conditions hdimA,
    audienceRule_conditions hdimB, ← forall₂_and]
  refine forall₂_congr fun d hd => ?_
  have hmerge : Meets (mergeConditions (conditionsOf a) (conditionsOf b)) s hour d ↔
      Meets (conditionsOf a) s hour d ∧ Meets (conditionsOf b) s hour d := by
    refine meets_merge fun p q hp hq => shared_comparison d hd ?_
    exact shared_keys _ (Dict.find_eq_some_mem hdimA) _ (Dict.find_eq_some_mem hdimB) hne d.key
      ((Dict.get_isSome_iff _ _).mp (by simp [hp])) ((Dict.get_isSome_iff _ _).mp (by simp [hq]))
  rw [meets_gated, meets_gated, meets_gated, hmerge]
  tauto

end Pair

end Meets

/-! ### The law -/

def singleRule (m : Manifest) (t : Option TimeSlot) (tag : String) : GeneratedRule :=
  audienceRule m.manifestId (occasionBonusOf m.audienceTags) t tag

/-- The rules of a manifest, once loaded: each pair rule matches exactly where the two rules of its
tags do that the manifest has in the same slot. -/
structure CrossDimensionLaw (texts : Number.Texts) (m : Manifest) : Prop where
  pairs : PairLaw m
  singles : ∀ t ∈ slotsOf m, ∀ a ∈ audienceOf m,
    singleRule m t a ∈ generateRulesForManifest m
  conjunction : ∀ t ∈ slotsOf m, ∀ a ∈ audienceOf m, ∀ b ∈ audienceOf m,
    ∀ g ∈ generateRulesForManifest m, isPairRule m.manifestId t a b g = true →
      ∃ r ra rb, loadRule texts g.toJson = .ok r ∧
        loadRule texts (singleRule m t a).toJson = .ok ra ∧
        loadRule texts (singleRule m t b).toJson = .ok rb ∧ ∀ (s : Signal) (hour : ℕ),
          r.matchesSignal s hour = .ok true ↔
            ra.matchesSignal s hour = .ok true ∧ rb.matchesSignal s hour = .ok true

theorem crossDimension_law (texts : Number.Texts) {m : Manifest}
    (h : validAudienceTags m.audienceTags = true) : CrossDimensionLaw texts m where
  pairs := pairLaw h
  singles := fun _ ht _ ha => audienceRule_mem ht ha
  conjunction := fun t ht a ha b hb g hg hpair => by
    obtain ⟨hdims, hrule⟩ := pairRule_eq ht ha hb hg hpair
    have hweight : ∀ r ∈ generateRulesForManifest m, 1 / 8 ≤ r.weight ∧ r.weight ≤ 1 :=
      fun r hr => ⟨(ruleOf_generated hr).weight, (ruleOf_generated hr).weight_le⟩
    refine ⟨_, _, _, loadRule_toJson texts (hweight g hg),
      loadRule_toJson texts (hweight _ (audienceRule_mem ht ha)),
      loadRule_toJson texts (hweight _ (audienceRule_mem ht hb)), fun s hour => ?_⟩
    rcases hrule with rfl | rfl
    · exact crossDimRule_matches_iff hdims
    · rw [crossDimRule_matches_iff hdims.symm, and_comm]
      rfl

def lateNightManifest : Manifest where
  manifestId := "m-night"
  title := "Night"
  schemaVersion := "1.0.0"
  manifestJson := .obj []
  audienceTags := ["solo_adult", "time_late_night", "attire_formal", "general"]

theorem lateNight_law :
    CrossDimensionLaw ⟨fun _ => none, fun _ => none⟩ lateNightManifest :=
  crossDimension_law _ (by decide)

end AdaptiveAdvertisement.System
