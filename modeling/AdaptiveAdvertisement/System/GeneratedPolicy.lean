import AdaptiveAdvertisement.Dashboard.RuleGenerator
import AdaptiveAdvertisement.DecisionOptimizer.DemographicsGate
import AdaptiveAdvertisement.DecisionOptimizer.TopTier

/-!
# From enabled manifests to decisions

`sync_rules` (`routers/manifests.py:415-440`) writes the generated rules file and the decision
optimizer loads it. The texts of the file are those of any JSON codec.
-/

namespace AdaptiveAdvertisement.System
open Library Contracts Dashboard DecisionOptimizer

/-! ### What the loader reads -/

/-- The tie-break index is among the keys that the loader drops. -/
def loadedRule (r : GeneratedRule) : Rule where
  ruleId := .str r.ruleId
  priority := r.priority
  manifestId := .str r.manifestId
  weight := Binary64.rounded (.finite r.weight)
  conditions := r.conditions.entries.map fun e => (e.1, .num e.2)

def loadedPolicy (ms : List Manifest) (minDwellMs cooldownMs : ℤ) : PolicyConfig :=
  ⟨(allRules ms).map loadedRule, minDwellMs, cooldownMs⟩

/-- `load_policy` on the file that `sync_rules` has written. -/
def generatedPolicy {τ : Type} (texts : Number.Texts) (cd : Codec τ) (ms : List Manifest)
    (minDwellMs cooldownMs : ℤ) : Except Raised PolicyConfig :=
  match cd.loads (cd.dumps (buildRulesFile ms minDwellMs cooldownMs)) with
  | .value data => loadPolicy texts data
  | _ => .error .loadError

theorem loadRule_toJson (texts : Number.Texts) {r : GeneratedRule}
    (h : 1 / 8 ≤ r.weight ∧ r.weight ≤ 1) : loadRule texts r.toJson = .ok (loadedRule r) := by
  have hpriority := Number.toInt_int texts r.priority
  have hweight := Number.toFloat_unit texts ⟨le_trans (by norm_num) h.1, h.2⟩
  simp [loadRule, GeneratedRule.toJson, memberOr, index, membersOf, Dict.find, hpriority,
    hweight, loadedRule, bind, Except.bind, pure, Except.pure]

theorem mapM_loadRule (texts : Number.Texts) {rs : List GeneratedRule}
    (h : ∀ r ∈ rs, 1 / 8 ≤ r.weight ∧ r.weight ≤ 1) :
    (rs.map GeneratedRule.toJson).mapM (loadRule texts) = .ok (rs.map loadedRule) := by
  induction rs with
  | nil => rfl
  | cons r rs ih =>
    obtain ⟨hr, hrs⟩ := List.forall_mem_cons.mp h
    rw [List.map_cons, List.mapM_cons, loadRule_toJson texts hr, ih hrs]
    rfl

theorem loadPolicy_buildRulesFile (texts : Number.Texts) (ms : List Manifest)
    (minDwellMs cooldownMs : ℤ) : loadPolicy texts (buildRulesFile ms minDwellMs cooldownMs) =
      .ok (loadedPolicy ms minDwellMs cooldownMs) := by
  obtain ⟨r, hr, -⟩ := allRules_catchAll ms
  have hne : allRules ms ≠ [] := List.ne_nil_of_mem hr
  have hrules := mapM_loadRule texts fun r (hr : r ∈ allRules ms) => allRules_weight hr
  have hdwell := Number.toInt_int texts minDwellMs
  have hcooldown := Number.toInt_int texts cooldownMs
  simp [loadPolicy, buildRulesFile, memberOr, Dict.find, Schema.constStr, Json.truthy, hne,
    elementsOf, hrules, hdwell, hcooldown, loadedPolicy, bind, Except.bind, pure, Except.pure]

section Generated

variable {τ : Type} (texts : Number.Texts) (cd : Codec τ) (ms : List Manifest)
  (minDwellMs cooldownMs : ℤ)

theorem generatedPolicy_eq : generatedPolicy texts cd ms minDwellMs cooldownMs =
    .ok (loadedPolicy ms minDwellMs cooldownMs) := by
  simp only [generatedPolicy, cd.loads_dumps, loadPolicy_buildRulesFile]

theorem loadedRule_comparable (r : GeneratedRule) : (loadedRule r).Comparable := by
  intro key v hv
  unfold Rule.condition loadedRule at hv
  rw [Dict.find_map Json.num] at hv
  cases hfind : Dict.find key r.conditions.entries with
  | none => simp [hfind] at hv
  | some q =>
    simp only [hfind, Option.map_some, Option.some.injEq] at hv
    rw [← hv]
    exact ⟨.finite q, rfl⟩

theorem loadedPolicy_comparable :
    ∀ r ∈ (loadedPolicy ms minDwellMs cooldownMs).rules, r.Comparable := by
  intro r hr
  obtain ⟨g, -, rfl⟩ := List.mem_map.mp hr
  exact loadedRule_comparable g

/-! ### Always something playable -/

/-- An enabled manifest, or the attract stub where there is none. -/
def Playable (id : String) : Prop :=
  (∃ m ∈ ms, m.manifestId = id) ∨ ms = [] ∧ id = "manifest-attract"

theorem safetyFallback_playable : Playable ms (safetyFallback ms).manifestId := by
  cases ms with
  | nil => exact Or.inr ⟨rfl, rfl⟩
  | cons m ms => exact Or.inl ⟨m, List.mem_cons_self, rfl⟩

theorem allRules_playable {g : GeneratedRule} (hg : g ∈ allRules ms) :
    Playable ms g.manifestId := by
  rcases mem_allRules hg with ⟨m, hm, hrule⟩ | rfl
  · exact Or.inl ⟨m, hm, hrule.owner.symm⟩
  · exact safetyFallback_playable ms

theorem loadedPolicy_weights : ∀ r ∈ (loadedPolicy ms minDwellMs cooldownMs).rules,
    ∃ w : ℚ, r.weight = .finite w ∧ 1 / 8 ≤ w ∧ w ≤ 1 := by
  intro r hr
  obtain ⟨g, hg, rfl⟩ := List.mem_map.mp hr
  obtain ⟨hlo, hhi⟩ := allRules_weight hg
  have heighth : Binary64.IsFloat (1 / 8) := ⟨1, -3, by norm_num, by norm_num, by norm_num⟩
  have hone : Binary64.IsFloat 1 := ⟨1, 0, by norm_num, by norm_num, by norm_num⟩
  refine ⟨Binary64.nearest g.weight, Binary64.rounded_small ?_ ?_,
    Binary64.le_nearest heighth hlo,
    Binary64.nearest_le hone hhi⟩ <;> linarith

theorem loadedPolicy_matched (s : Signal) (hour : ℕ) :
    ∃ r ∈ (loadedPolicy ms minDwellMs cooldownMs).rules, r.matched s hour = true := by
  obtain ⟨g, hg, hcatch⟩ := allRules_catchAll ms
  have hnone : (loadedRule g).conditions = [] := by
    have hempty : g.conditions.entries = [] := List.isEmpty_iff.mp hcatch
    simp [loadedRule, hempty]
  exact ⟨_, List.mem_map_of_mem hg, Rule.matched_of_no_conditions hnone s hour⟩

/-- Whatever is enabled, whoever is there and whatever is drawn. -/
theorem generatedPolicy_selects (s : Signal) (hour : ℕ) (draw : ℚ) :
    ∃ policy id, generatedPolicy texts cd ms minDwellMs cooldownMs = .ok policy ∧
      policy.evaluate s hour draw = .ok (some (.str id)) ∧ Playable ms id := by
  obtain ⟨r, hr, hm⟩ := loadedPolicy_matched ms minDwellMs cooldownMs s hour
  obtain ⟨top, htop, heval⟩ := PolicyConfig.evaluate_isTop s hour
    (loadedPolicy_comparable ms minDwellMs cooldownMs)
    (loadedPolicy_weights ms minDwellMs cooldownMs) hr hm draw
  obtain ⟨g, hg, rfl⟩ := List.mem_map.mp htop.1.1
  exact ⟨_, g.manifestId, generatedPolicy_eq texts cd ms minDwellMs cooldownMs, heval,
    allRules_playable ms hg⟩

/-! ### Ties -/

/-- The matching rules of the top priority all have weight 1, and several manifests are theirs. -/
structure Tied (policy : PolicyConfig) (s : Signal) (hour : ℕ) : Prop where
  weight : ∀ r, policy.IsTop s hour r → r.weight = .finite 1
  several : ∃ r r', policy.IsTop s hour r ∧ policy.IsTop s hour r' ∧
    r.manifestId ≠ r'.manifestId

/-- The first of the list with a matching rule of the top priority. -/
def IsEarliest (policy : PolicyConfig) (s : Signal) (hour : ℕ) (m : Manifest) : Prop :=
  ∃ before after, ms = before ++ m :: after ∧
    (∃ r, policy.IsTop s hour r ∧ r.manifestId = .str m.manifestId) ∧
    ∀ m' ∈ before, ∀ r, policy.IsTop s hour r → r.manifestId ≠ .str m'.manifestId

/-- In a tie the earliest manifest is selected on every draw. -/
def EarliestWins (fl : Number → Number) (drawn : ℚ → Prop) (s : Signal) (hour : ℕ) : Prop :=
  ∀ policy, generatedPolicy texts cd ms minDwellMs cooldownMs = .ok policy →
    Tied policy s hour →
    ∃ m, IsEarliest ms policy s hour m ∧ ∀ draw, drawn draw →
      policy.evaluateWith fl s hour draw = .ok (some (.str m.manifestId))

section Ties

variable {fl : Number → Number} {drawn : ℚ → Prop} {s : Signal} {hour : ℕ}

/-- In a tie every tied rule is selected by some draw, so that no manifest is on every draw. -/
theorem tied_undecided {policy : PolicyConfig} (hdraws : DrawsEach fl drawn (policy.topTier s hour))
    (hcomparable : ∀ r ∈ policy.rules, r.Comparable) (htied : Tied policy s hour) (m : Json) :
    ∃ draw, drawn draw ∧ policy.evaluateWith fl s hour draw ≠ .ok (some m) := by
  obtain ⟨r, r', hr, hr', hne⟩ := htied.several
  have hother : ∃ top, policy.IsTop s hour top ∧ top.manifestId ≠ m := by
    by_cases hid : r.manifestId = m
    · exact ⟨r', hr', fun h => hne (hid.trans h.symm)⟩
    · exact ⟨r, hr, hid⟩
  obtain ⟨top, htop, hid⟩ := hother
  obtain ⟨draw, hdrawn, heval⟩ :=
    PolicyConfig.evaluate_draws s hour hcomparable hdraws htied.weight htop
  refine ⟨draw, hdrawn, fun h => ?_⟩
  rw [heval, Except.ok.injEq, Option.some.injEq] at h
  exact hid h

theorem untied_iff
    (hdraws : DrawsEach fl drawn ((loadedPolicy ms minDwellMs cooldownMs).topTier s hour)) :
    EarliestWins texts cd ms minDwellMs cooldownMs fl drawn s hour ↔
      ¬ Tied (loadedPolicy ms minDwellMs cooldownMs) s hour := by
  refine ⟨fun h htied => ?_, fun h policy hpolicy htied => ?_⟩
  · obtain ⟨m, -, hwins⟩ := h _ (generatedPolicy_eq texts cd ms minDwellMs cooldownMs) htied
    obtain ⟨draw, hdrawn, hne⟩ := tied_undecided hdraws
      (loadedPolicy_comparable ms minDwellMs cooldownMs) htied (.str m.manifestId)
    exact hne (hwins draw hdrawn)
  · rw [generatedPolicy_eq, Except.ok.injEq] at hpolicy
    exact absurd (hpolicy ▸ htied) h

end Ties

/-- The loader drops the tie-break index, so that the earliest manifest wins no tie: none at all
with exact sums, and none of up to `2 ^ 52` rules in floats. -/
theorem earliestWins_iff (s : Signal) (hour : ℕ) :
    (EarliestWins texts cd ms minDwellMs cooldownMs id
      (fun draw => 0 ≤ draw ∧ draw < 1) s hour ↔
      ¬ Tied (loadedPolicy ms minDwellMs cooldownMs) s hour) ∧
    (((loadedPolicy ms minDwellMs cooldownMs).topTier s hour).length ≤ 2 ^ 52 →
      (EarliestWins texts cd ms minDwellMs cooldownMs Binary64.rounded Drawn s hour ↔
        ¬ Tied (loadedPolicy ms minDwellMs cooldownMs) s hour)) :=
  ⟨untied_iff texts cd ms minDwellMs cooldownMs (drawsEach_exact _), fun hle =>
    untied_iff texts cd ms minDwellMs cooldownMs (drawsEach_rounded hle)⟩

end Generated

/-! ### Two attract manifests -/

def attractManifest (id : String) : Manifest where
  manifestId := id
  title := id
  status := .enabled
  schemaVersion := "1.0.0"
  manifestJson := .obj []
  audienceTags := ["attract"]

/-- The newer one first. -/
def twoAttract : List Manifest := [attractManifest "m-new", attractManifest "m-old"]

theorem twoAttract_rules : ∀ g ∈ allRules twoAttract,
    g.conditions.entries = [] ∧ g.priority = 0 ∧ g.weight = 1 := by
  decide +kernel

theorem twoAttract_isTop (s : Signal) (hour : ℕ) {g : GeneratedRule}
    (hg : g ∈ allRules twoAttract) :
    (loadedPolicy twoAttract 10000 5000).IsTop s hour (loadedRule g) := by
  obtain ⟨hnone, hpriority, -⟩ := twoAttract_rules g hg
  have hconditions : (loadedRule g).conditions = [] := by simp [loadedRule, hnone]
  refine ⟨⟨List.mem_map_of_mem hg, Rule.matched_of_no_conditions hconditions s hour⟩, ?_⟩
  rintro r hr -
  obtain ⟨g', hg', rfl⟩ := List.mem_map.mp hr
  obtain ⟨-, hpriority', -⟩ := twoAttract_rules g' hg'
  exact (hpriority'.trans hpriority.symm).le

theorem twoAttract_tied (s : Signal) (hour : ℕ) :
    Tied (loadedPolicy twoAttract 10000 5000) s hour := by
  have hnew : ∃ g ∈ allRules twoAttract, g.manifestId = "m-new" := by decide +kernel
  have hold : ∃ g ∈ allRules twoAttract, g.manifestId = "m-old" := by decide +kernel
  obtain ⟨g, hg, hid⟩ := hnew
  obtain ⟨g', hg', hid'⟩ := hold
  refine ⟨fun r hr => ?_, _, _, twoAttract_isTop s hour hg, twoAttract_isTop s hour hg', ?_⟩
  · obtain ⟨g, hg, rfl⟩ := List.mem_map.mp hr.1.1
    rw [loadedRule, (twoAttract_rules g hg).2.2, Binary64.rounded_one]
  · simp [loadedRule, hid, hid']

def selectedId : Except Raised (Option Json) → String
  | .ok (some (.str id)) => id
  | _ => ""

/-- The first half of the draws selects the newer one, and the second half the older. -/
theorem twoAttract_undecided : ¬ ∀ (ms : List Manifest) (s : Signal) (hour : ℕ),
    EarliestWins ⟨fun _ => none, fun _ => none⟩ jsonCodec ms 10000 5000 Binary64.rounded Drawn s
      hour := by
  intro h
  obtain ⟨m, -, hwins⟩ := h twoAttract disagreeing 12 _ (generatedPolicy_eq ..)
    (twoAttract_tied disagreeing 12)
  have hhalf : Drawn (1 / 2) := ⟨2 ^ 52, by norm_num, by norm_num⟩
  have hnew : selectedId ((loadedPolicy twoAttract 10000 5000).evaluate disagreeing 12 0) =
      "m-new" := by decide +kernel
  have hold : selectedId ((loadedPolicy twoAttract 10000 5000).evaluate disagreeing 12 (1 / 2)) =
      "m-old" := by decide +kernel
  rw [PolicyConfig.evaluate, hwins 0 drawn_zero] at hnew
  rw [PolicyConfig.evaluate, hwins (1 / 2) hhalf, hnew] at hold
  exact absurd hold (by decide)

end AdaptiveAdvertisement.System
