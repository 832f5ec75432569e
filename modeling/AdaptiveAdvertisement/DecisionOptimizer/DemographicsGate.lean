import AdaptiveAdvertisement.DecisionOptimizer.Policy

/-!
# Suppressed demographics and the decision

A signal says twice whether its demographics are suppressed: in the demographics block, which the
rules read, and in the stability block, which they do not.
-/

namespace AdaptiveAdvertisement.DecisionOptimizer
open Library Contracts

def StabilitySuppresses (s : Signal) : Prop :=
  s.1.at? ["state", "stability", "demographics_suppressed"] = some (.bool true)

/-- The demographics block is there and says that it is not suppressed. -/
def BlockReleases (s : Signal) : Prop :=
  s.1.at? ["state", "demographics", "suppressed"] = some (.bool false)

def SaysSuppressed (s : Signal) : Prop := StabilitySuppresses s ∨ ¬ BlockReleases s

/-- The signals differ in nothing but the values of demographic bins. -/
structure SameButBins (s s' : Signal) : Prop where
  top : ∀ k, k ≠ "state" → s.1.get? k = s'.1.get? k
  state : ∀ k, k ≠ "demographics" → s.1.at? ["state", k] = s'.1.at? ["state", k]
  block : (s.1.at? ["state", "demographics"]).isSome = (s'.1.at? ["state", "demographics"]).isSome
  members : ∀ k, k ∉ ["age_group", "gender", "attire"] →
    s.1.at? ["state", "demographics", k] = s'.1.at? ["state", "demographics", k]

/-- No rule with a demographic condition matches, and the bins do not change what an evaluation
may come to. -/
structure Uninfluenced (s : Signal) : Prop where
  noMatch : ∀ (texts : Number.Texts) (data : Json) (c : PolicyConfig),
    loadPolicy texts data = .ok c → ∀ r ∈ c.rules, r.hasDemographicCondition = true →
      ∀ hour, r.matchesSignal s hour ≠ .ok true
  sameResults : ∀ (texts : Number.Texts) (data : Json) (c : PolicyConfig),
    loadPolicy texts data = .ok c → ∀ s', SaysSuppressed s' → SameButBins s s' →
      ∀ hour, c.possibleResults s hour = c.possibleResults s' hour

/-! ### Reading a signal -/

namespace Signal

variable (s s' : Signal)

theorem at?_state (keys : List String) : s.1.at? ("state" :: keys) = s.state.1.at? keys := by
  have hstate : s.1.get? "state" = some s.state.1 := Valid.get?_get s _ _
  exact Json.at?_of_get? hstate keys

theorem flag_eq (v : Valid Schema.boolean) : v.1 = .bool (flagValue v) := by
  obtain ⟨b, hb⟩ := Schema.boolean_iff.mp v.2
  simp [flagValue, hb]

theorem at?_suppressed : s.1.at? ["state", "demographics", "suppressed"] =
    (s.demographics.bind suppressedFlag).map Json.bool := by
  have hdemographics : s.state.1.get? "demographics" = s.demographics.map (·.1) :=
    Valid.map_get? s.state _
  rw [at?_state]
  cases hd : s.demographics with
  | none => simp [Json.at?, hdemographics, hd]
  | some d =>
    have hflag : d.1.get? "suppressed" = (d.get? "suppressed" (s := Schema.boolean) (by simp)).map
        (·.1) := Valid.map_get? d _
    cases hv : d.get? "suppressed" (s := Schema.boolean) (by simp) with
    | none => simp [Json.at?, hdemographics, hd, hflag, hv, suppressedFlag]
    | some v => simp [Json.at?, hdemographics, hd, hflag, hv, suppressedFlag, flag_eq v]

theorem suppressed_false_iff : s.suppressed = false ↔ BlockReleases s := by
  rw [BlockReleases, at?_suppressed, suppressed]
  cases s.demographics.bind suppressedFlag <;> simp

section Same

variable {s s'} (h : SameButBins s s')
include h

theorem presence_congr : s.presence = s'.presence := by
  have hsame := h.state "presence" (by decide)
  rw [at?_state, at?_state] at hsame
  have hpresence : s.state.1.get? "presence" = some s.presence.1 := Valid.get?_get s.state _ _
  have hpresence' : s'.state.1.get? "presence" = some s'.presence.1 := Valid.get?_get s'.state _ _
  simp only [Json.at?, hpresence, hpresence', Option.bind_some, Option.some.injEq] at hsame
  exact Valid.ext hsame

theorem attention_congr : s.attention = s'.attention := by
  have hsame := h.state "attention" (by decide)
  rw [at?_state, at?_state] at hsame
  have hattention : s.state.1.get? "attention" = s.attention.map (·.1) := Valid.map_get? s.state _
  have hattention' : s'.state.1.get? "attention" = s'.attention.map (·.1) :=
    Valid.map_get? s'.state _
  simp only [Json.at?, hattention, hattention', Option.bind_fun_some] at hsame
  exact Option.map_injective (fun _ _ => Valid.ext) hsame

theorem suppressed_congr : s.suppressed = s'.suppressed := by
  have hsame : BlockReleases s ↔ BlockReleases s' := by
    unfold BlockReleases
    rw [h.members "suppressed" (by decide)]
  rw [← suppressed_false_iff, ← suppressed_false_iff] at hsame
  cases hs : s.suppressed <;> cases hs' : s'.suppressed <;> simp [hs, hs'] at hsame ⊢

end Same

end Signal

/-! ### Matching -/

namespace Rule

variable {r : Rule} {s s' : Signal}

/-- The privacy guard. -/
theorem matchesSignal_suppressed (hs : s.suppressed = true) (hr : r.hasDemographicCondition = true)
    (hour : ℕ) : r.matchesSignal s hour ≠ .ok true := by
  intro hmatch
  have hall := (checkAll_true_iff _).mp hmatch
  have hguard : (.ok false : Except Raised Bool) ∈ r.demographicChecks s := by
    simp [demographicChecks, hr, hs]
  have htrue := hall _ (List.mem_append_left _ (List.mem_append_right _ hguard))
  cases htrue

theorem matchesSignal_congr (hs : s.suppressed = true) (h : SameButBins s s') (r : Rule)
    (hour : ℕ) : r.matchesSignal s hour = r.matchesSignal s' hour := by
  have hs' : s'.suppressed = true := (Signal.suppressed_congr h).symm.trans hs
  have hpresence := Signal.presence_congr h
  have hcount : s.count = s'.count := by rw [Signal.count, Signal.count, hpresence]
  have hconfidence : s.confidence = s'.confidence := by
    rw [Signal.confidence, Signal.confidence, hpresence]
  simp only [matchesSignal, presenceChecks, attentionCheck, suppressedCheck, demographicChecks,
    hcount, hconfidence, Signal.attention_congr h, hs, hs', if_true]

end Rule

theorem matchingRules_congr {s s' : Signal} (hs : s.suppressed = true) (h : SameButBins s s')
    (hour : ℕ) (rules : List Rule) :
    matchingRules s hour rules = matchingRules s' hour rules := by
  induction rules with
  | nil => rfl
  | cons r rules ih => rw [matchingRules, matchingRules, Rule.matchesSignal_congr hs h r hour, ih]

/-- The block's own flag closes the gate, whatever the rules are. -/
theorem uninfluenced_of_suppressed {s : Signal} (hs : s.suppressed = true) : Uninfluenced s where
  noMatch := fun _ _ _ _ _ _ hr hour => Rule.matchesSignal_suppressed hs hr hour
  sameResults := fun _ _ c _ s' _ h hour => by
    have heval : ∀ draw, c.evaluate s hour draw = c.evaluate s' hour draw := by
      intro draw
      rw [PolicyConfig.evaluate, PolicyConfig.evaluateWith, matchingRules_congr hs h hour]
      rfl
    simp only [PolicyConfig.possibleResults, heval]

/-! ### A block that is released -/

/-- One rule with a demographic condition that every bin meets. -/
def anyAudienceFile : Json :=
  .obj [("schema_version", .str "1.0.0"), ("rules", .arr [.obj [("rule_id", .str "any-audience"),
    ("manifest_id", .str "m-1"), ("conditions", .obj [("age_group_child_gte", .int 0)])]])]

def anyAudienceRule : Rule where
  ruleId := .str "any-audience"
  priority := 0
  manifestId := .str "m-1"
  weight := .finite 1
  conditions := [("age_group_child_gte", .int 0)]

theorem loadPolicy_anyAudience (texts : Number.Texts) :
    loadPolicy texts anyAudienceFile = .ok ⟨[anyAudienceRule], 10000, 5000⟩ := by
  rw [anyAudienceRule, ← Binary64.rounded_one]
  rfl

theorem demographicBin_age (s : Signal) (name : String) : s.demographicBin "age_group" name =
    ((s.demographics.bind ageGroup).bind fun b => bin b name).getD (.finite 0) := by
  have hdemographics : s.state.1.get? "demographics" = s.demographics.map (·.1) :=
    Valid.map_get? s.state _
  unfold Signal.demographicBin
  rw [Signal.at?_state]
  cases hd : s.demographics with
  | none => simp [Json.at?, hdemographics, hd]
  | some d =>
    have hages : d.1.get? "age_group" = (ageGroup d).map (·.1) := Valid.map_get? d _
    cases hb : ageGroup d with
    | none => simp [Json.at?, hdemographics, hd, hages, hb]
    | some b =>
      cases hv : b.1.get? name <;> simp [Json.at?, hdemographics, hd, hages, hb, bin, hv]

theorem demographicBin_nonneg (s : Signal) (name : String) :
    (s.demographicBin "age_group" name).lt (.finite 0) = false := by
  rw [demographicBin_age]
  cases hb : (s.demographics.bind ageGroup).bind fun b => bin b name with
  | none => simp [Number.lt]
  | some x =>
    obtain ⟨b, -, hx⟩ := Option.bind_eq_some_iff.mp hb
    have hwithin := bin_within b hx
    cases x with
    | finite q => simpa [Number.lt] using hwithin.1
    | nonfinite y =>
      obtain rfl : y = .nan := hwithin
      rfl

theorem anyAudience_condition {key : String} (h : key ≠ "age_group_child_gte") :
    anyAudienceRule.condition key = none := by
  simp [Rule.condition, anyAudienceRule, Dict.find, h.symm]

theorem childField : ∀ f ∈ demographicConditionFields, f.key = "age_group_child_gte" →
    f.block = "age_group" ∧ f.bin = "child" := by
  decide

theorem anyAudience_matches {s : Signal} (hs : s.suppressed = false) (hour : ℕ) :
    anyAudienceRule.matchesSignal s hour = .ok true := by
  have hchild : atLeast (s.demographicBin "age_group" "child")
      (anyAudienceRule.condition "age_group_child_gte") = .ok true := by
    have hcondition : anyAudienceRule.condition "age_group_child_gte" = some (.int 0) := rfl
    have hnonneg := demographicBin_nonneg s "child"
    simp [hcondition, atLeast, Number.less, Json.asNumeric?, Json.asNumber?, Json.int, hnonneg,
      Except.map]
  have hdemographic : anyAudienceRule.hasDemographicCondition = true := rfl
  rw [Rule.matchesSignal, checkAll_true_iff]
  intro check hcheck
  simp only [List.mem_append, List.mem_cons, List.not_mem_nil, or_false] at hcheck
  rcases hcheck with ((hcheck | rfl | rfl) | hcheck) | hcheck
  · simpa [Rule.presenceChecks, anyAudience_condition, atLeast, atMost, equalTo] using hcheck
  · cases hengaged : s.attention.bind fun a => bin a "engaged" <;>
      simp [Rule.attentionCheck, hengaged, anyAudience_condition, atLeast]
  · simp [Rule.suppressedCheck, anyAudience_condition, equalTo]
  · simp only [Rule.demographicChecks, hdemographic, hs, if_true, Bool.false_eq_true, if_false,
      List.mem_map] at hcheck
    obtain ⟨f, hf, rfl⟩ := hcheck
    by_cases hkey : f.key = "age_group_child_gte"
    · obtain ⟨hblock, hbin⟩ := childField f hf hkey
      rw [hkey, hblock, hbin]
      exact hchild
    · simp [anyAudience_condition hkey, atLeast]
  · simpa [Rule.timeChecks, anyAudience_condition, atLeast, atMost] using hcheck

/-! ### The law -/

/-- For every signal: where it is suppressed, its demographics influence no decision of any policy,
exactly unless its two flags disagree in that only the block is released. -/
theorem uninfluenced_iff (s : Signal) :
    (SaysSuppressed s → Uninfluenced s) ↔ ¬ (StabilitySuppresses s ∧ BlockReleases s) := by
  refine ⟨fun h hboth => ?_, fun h hsays => ?_⟩
  · obtain ⟨hstability, hblock⟩ := hboth
    have hnone :=
      (h (Or.inl hstability)).noMatch ⟨fun _ => none, fun _ => none⟩ anyAudienceFile _
      (loadPolicy_anyAudience _) anyAudienceRule List.mem_cons_self rfl 0
    exact hnone (anyAudience_matches ((Signal.suppressed_false_iff s).mpr hblock) 0)
  · refine uninfluenced_of_suppressed ?_
    rw [← Bool.not_eq_false, Signal.suppressed_false_iff]
    intro hblock
    rcases hsays with hstability | hwithheld
    · exact h ⟨hstability, hblock⟩
    · exact hwithheld hblock

/-! ### Flags that disagree -/

def disagreeingJson : Json :=
  .obj [("schema_version", .str "1.0.0"), ("message_type", .str "audience_state_signal"),
    ("message_id", .str "signal-1"), ("produced_at", .str "2026-01-01T00:00:00Z"),
    ("tenant_id", .str "default-tenant"), ("site_id", .str "site-01"), ("camera_id", .str "cam-01"),
    ("state", .obj [("presence", .obj [("count", .int 1), ("confidence", .num (9 / 10))]),
      ("stability", .obj [("state_stable", .bool true), ("freeze_decision", .bool false),
        ("demographics_suppressed", .bool true)]),
      ("demographics", .obj [("age_group", .obj [("child", .num (9 / 10))]),
        ("suppressed", .bool false)])]),
    ("source_quality", .obj [("signal_age_ms", .int 100), ("pipeline_degraded", .bool false)]),
    ("privacy", .obj [("contains_images", .bool false), ("contains_frame_urls", .bool false),
      ("contains_face_embeddings", .bool false)])]

def disagreeing : Signal := Valid.of disagreeingJson (by decide +kernel)

theorem disagreeing_influences : ¬ ∀ s, SaysSuppressed s → Uninfluenced s := by
  intro h
  have hstability : StabilitySuppresses disagreeing := rfl
  have hblock : BlockReleases disagreeing := rfl
  have hnone := (h disagreeing (Or.inl hstability)).noMatch ⟨fun _ => none, fun _ => none⟩
    anyAudienceFile _ (loadPolicy_anyAudience _) anyAudienceRule List.mem_cons_self rfl 0
  exact hnone (anyAudience_matches ((Signal.suppressed_false_iff disagreeing).mpr hblock) 0)

end AdaptiveAdvertisement.DecisionOptimizer
