import AdaptiveAdvertisement.DecisionOptimizer.DemographicsGate
import AdaptiveAdvertisement.DecisionOptimizer.TopTier
import Mathlib.Data.List.Forall2

/-!
# The condition language (`decision_optimizer/policy.py`)

The rule of the source, condition by condition: the loader takes each of them by its name, and
`matches` tests one after the other. The language is stated as its documentation has it, a table
of the keys with the field of the signal that each compares.

Source lines: the table 36-73, the conditions of `Rule` 128-157, `matches` 164-257, the loader
370-396.
-/

namespace AdaptiveAdvertisement.DecisionOptimizer
open Library Contracts

/-! ### The conditions of a rule -/

structure RuleConditions where
  presenceCountGte : Option Json
  presenceCountLte : Option Json
  presenceCountEq : Option Json
  presenceConfidenceGte : Option Json
  ageGroupChildGte : Option Json
  ageGroupYoungAdultGte : Option Json
  ageGroupAdultGte : Option Json
  ageGroupSeniorGte : Option Json
  genderMaleGte : Option Json
  genderFemaleGte : Option Json
  attireFormalGte : Option Json
  attireBusinessCasualGte : Option Json
  attireCasualGte : Option Json
  attireAthleticGte : Option Json
  attireOutdoorTechnicalGte : Option Json
  attireWorkwearUniformGte : Option Json
  attireStreetwearGte : Option Json
  attireLuxuryPremiumGte : Option Json
  attireLoungeComfortGte : Option Json
  attireSmartOccasionGte : Option Json
  demographicsSuppressedEq : Option Json
  attentionEngagedGte : Option Json
  timeHourGte : Option Json
  timeHourLte : Option Json

namespace RuleConditions

/-- The `cond.get` of each condition; a `null` is no condition. -/
def load (get : String → Option Json) : RuleConditions where
  presenceCountGte := get "presence_count_gte"
  presenceCountLte := get "presence_count_lte"
  presenceCountEq := get "presence_count_eq"
  presenceConfidenceGte := get "presence_confidence_gte"
  ageGroupChildGte := get "age_group_child_gte"
  ageGroupYoungAdultGte := get "age_group_young_adult_gte"
  ageGroupAdultGte := get "age_group_adult_gte"
  ageGroupSeniorGte := get "age_group_senior_gte"
  genderMaleGte := get "gender_male_gte"
  genderFemaleGte := get "gender_female_gte"
  attireFormalGte := get "attire_formal_gte"
  attireBusinessCasualGte := get "attire_business_casual_gte"
  attireCasualGte := get "attire_casual_gte"
  attireAthleticGte := get "attire_athletic_gte"
  attireOutdoorTechnicalGte := get "attire_outdoor_technical_gte"
  attireWorkwearUniformGte := get "attire_workwear_uniform_gte"
  attireStreetwearGte := get "attire_streetwear_gte"
  attireLuxuryPremiumGte := get "attire_luxury_premium_gte"
  attireLoungeComfortGte := get "attire_lounge_comfort_gte"
  attireSmartOccasionGte := get "attire_smart_occasion_gte"
  demographicsSuppressedEq := get "demographics_suppressed_eq"
  attentionEngagedGte := get "attention_engaged_gte"
  timeHourGte := get "time_hour_gte"
  timeHourLte := get "time_hour_lte"

variable (c : RuleConditions) (s : Signal)

/-- The fields of `_DEMOGRAPHIC_CONDITION_FIELDS`. -/
def demographicConditions : List (Option Json) :=
  [c.ageGroupChildGte, c.ageGroupYoungAdultGte, c.ageGroupAdultGte, c.ageGroupSeniorGte,
    c.genderMaleGte, c.genderFemaleGte, c.attireFormalGte, c.attireBusinessCasualGte,
    c.attireCasualGte, c.attireAthleticGte, c.attireOutdoorTechnicalGte,
    c.attireWorkwearUniformGte, c.attireStreetwearGte, c.attireLuxuryPremiumGte,
    c.attireLoungeComfortGte, c.attireSmartOccasionGte]

def hasDemographicCondition : Bool := c.demographicConditions.any Option.isSome

def presenceTests : List (Except Raised Bool) :=
  [atLeast (.finite s.count) c.presenceCountGte, atMost (.finite s.count) c.presenceCountLte,
    equalTo (.finite s.count) c.presenceCountEq, atLeast s.confidence c.presenceConfidenceGte]

def attentionTest : Except Raised Bool :=
  match s.attention.bind fun a => bin a "engaged" with
  | some engaged => atLeast engaged c.attentionEngagedGte
  | none => .ok true

def suppressedTest : Except Raised Bool :=
  equalTo (.finite (if s.suppressed then 1 else 0)) c.demographicsSuppressedEq

def ageGroupTests : List (Except Raised Bool) :=
  [atLeast (s.demographicBin "age_group" "child") c.ageGroupChildGte,
    atLeast (s.demographicBin "age_group" "young_adult") c.ageGroupYoungAdultGte,
    atLeast (s.demographicBin "age_group" "adult") c.ageGroupAdultGte,
    atLeast (s.demographicBin "age_group" "senior") c.ageGroupSeniorGte]

def genderTests : List (Except Raised Bool) :=
  [atLeast (s.demographicBin "gender" "male") c.genderMaleGte,
    atLeast (s.demographicBin "gender" "female") c.genderFemaleGte]

def attireTests : List (Except Raised Bool) :=
  [atLeast (s.demographicBin "attire" "formal") c.attireFormalGte,
    atLeast (s.demographicBin "attire" "business_casual") c.attireBusinessCasualGte,
    atLeast (s.demographicBin "attire" "casual") c.attireCasualGte,
    atLeast (s.demographicBin "attire" "athletic") c.attireAthleticGte,
    atLeast (s.demographicBin "attire" "outdoor_technical") c.attireOutdoorTechnicalGte,
    atLeast (s.demographicBin "attire" "workwear_uniform") c.attireWorkwearUniformGte,
    atLeast (s.demographicBin "attire" "streetwear") c.attireStreetwearGte,
    atLeast (s.demographicBin "attire" "luxury_premium") c.attireLuxuryPremiumGte,
    atLeast (s.demographicBin "attire" "lounge_comfort") c.attireLoungeComfortGte,
    atLeast (s.demographicBin "attire" "smart_occasion") c.attireSmartOccasionGte]

/-- A suppressed signal fails any demographic condition. -/
def demographicTests : List (Except Raised Bool) :=
  if c.hasDemographicCondition then
    if s.suppressed then [.ok false] else c.ageGroupTests s ++ c.genderTests s ++ c.attireTests s
  else []

def timeTests (hour : ℕ) : List (Except Raised Bool) :=
  [atLeast (.finite hour) c.timeHourGte, atMost (.finite hour) c.timeHourLte]

/-- `matches`. -/
def matchesSignal (hour : ℕ) : Except Raised Bool :=
  checkAll (c.presenceTests s ++ [c.attentionTest s, c.suppressedTest s] ++
    c.demographicTests s ++ c.timeTests hour)

end RuleConditions

def Rule.fields (r : Rule) : RuleConditions := .load r.condition

/-! ### The documented language -/

inductive Comparison where
  | gte
  | lte
  | eq
  deriving DecidableEq

/-- The opposite order does not hold; of two rationals this is the order itself. -/
def Comparison.Holds (x bound : Number) : Comparison → Prop
  | .gte => x.lt bound = false
  | .lte => bound.lt x = false
  | .eq => x = bound

theorem holds_finite (q bound : ℚ) :
    (Comparison.gte.Holds (.finite q) (.finite bound) ↔ bound ≤ q) ∧
    (Comparison.lte.Holds (.finite q) (.finite bound) ↔ q ≤ bound) ∧
    (Comparison.eq.Holds (.finite q) (.finite bound) ↔ q = bound) := by
  simp [Comparison.Holds, Number.lt]

inductive Subject where
  | presence (field : String)
  | demographic (block bin : String)
  | suppression
  | attention (field : String)
  | hour

structure Documented where
  key : String
  comparison : Comparison
  subject : Subject

def conditionLanguage : List Documented :=
  [⟨"presence_count_gte", .gte, .presence "count"⟩,
    ⟨"presence_count_lte", .lte, .presence "count"⟩,
    ⟨"presence_count_eq", .eq, .presence "count"⟩,
    ⟨"presence_confidence_gte", .gte, .presence "confidence"⟩,
    ⟨"age_group_child_gte", .gte, .demographic "age_group" "child"⟩,
    ⟨"age_group_young_adult_gte", .gte, .demographic "age_group" "young_adult"⟩,
    ⟨"age_group_adult_gte", .gte, .demographic "age_group" "adult"⟩,
    ⟨"age_group_senior_gte", .gte, .demographic "age_group" "senior"⟩,
    ⟨"gender_male_gte", .gte, .demographic "gender" "male"⟩,
    ⟨"gender_female_gte", .gte, .demographic "gender" "female"⟩,
    ⟨"attire_formal_gte", .gte, .demographic "attire" "formal"⟩,
    ⟨"attire_business_casual_gte", .gte, .demographic "attire" "business_casual"⟩,
    ⟨"attire_casual_gte", .gte, .demographic "attire" "casual"⟩,
    ⟨"attire_athletic_gte", .gte, .demographic "attire" "athletic"⟩,
    ⟨"attire_outdoor_technical_gte", .gte, .demographic "attire" "outdoor_technical"⟩,
    ⟨"attire_workwear_uniform_gte", .gte, .demographic "attire" "workwear_uniform"⟩,
    ⟨"attire_streetwear_gte", .gte, .demographic "attire" "streetwear"⟩,
    ⟨"attire_luxury_premium_gte", .gte, .demographic "attire" "luxury_premium"⟩,
    ⟨"attire_lounge_comfort_gte", .gte, .demographic "attire" "lounge_comfort"⟩,
    ⟨"attire_smart_occasion_gte", .gte, .demographic "attire" "smart_occasion"⟩,
    ⟨"demographics_suppressed_eq", .eq, .suppression⟩,
    ⟨"attention_engaged_gte", .gte, .attention "engaged"⟩,
    ⟨"time_hour_gte", .gte, .hour⟩,
    ⟨"time_hour_lte", .lte, .hour⟩]

def numberAt (s : Signal) (path : List String) : Option Number :=
  (s.1.at? path).bind Json.asNumber?

/-- The flag of the demographics block; without one the signal is suppressed. -/
def effectivelySuppressed (s : Signal) : Bool :=
  ((s.1.at? ["state", "demographics", "suppressed"]).bind Json.asBool?).getD true

/-- The condition is met with this bound. A bin that is missing is 0, and an attention that is
missing passes. -/
def Documented.Holds (d : Documented) (s : Signal) (hour : ℕ) (bound : Number) : Prop :=
  match d.subject with
  | .presence field =>
    ∃ x, numberAt s ["state", "presence", field] = some x ∧ d.comparison.Holds x bound
  | .demographic block bin => effectivelySuppressed s = false ∧
    d.comparison.Holds ((numberAt s ["state", "demographics", block, bin]).getD (.finite 0)) bound
  | .suppression =>
    d.comparison.Holds (.finite (if effectivelySuppressed s then 1 else 0)) bound
  | .attention field =>
    ∀ x, numberAt s ["state", "attention", field] = some x → d.comparison.Holds x bound
  | .hour => d.comparison.Holds (.finite hour) bound

def fileConditions (j : Json) : List (String × Json) :=
  match j.get? "conditions" with
  | some (.obj ms) => ms
  | _ => []

/-- The bounds are numbers; a flag counts as 0 or 1. -/
def NumericConditions (cond : List (String × Json)) : Prop :=
  ∀ d ∈ conditionLanguage, ∀ v, Dict.find d.key cond = some v →
    ∃ x : Number, v.asNumeric? = some x

/-- Every documented condition that the rule has is met. -/
def AllHold (cond : List (String × Json)) (s : Signal) (hour : ℕ) : Prop :=
  ∀ d ∈ conditionLanguage, ∀ v, Dict.find d.key cond = some v →
    ∃ x : Number, v.asNumeric? = some x ∧ d.Holds s hour x

/-- Matching does not raise, and the rule matches exactly where its conditions in the file are
met. -/
def Implements (r : Rule) (cond : List (String × Json)) : Prop :=
  ∀ (s : Signal) (hour : ℕ), ∃ b, r.fields.matchesSignal s hour = .ok b ∧
    (b = true ↔ AllHold cond s hour)

/-! ### Single tests -/

theorem atLeast_iff (x : Number) (v : Option Json) : atLeast x v = .ok true ↔
    ∀ w, v = some w → ∃ y : Number, w.asNumeric? = some y ∧ Comparison.gte.Holds x y := by
  cases v with
  | none => simp [atLeast]
  | some w =>
    cases hw : w.asNumeric? <;> simp [atLeast, Number.less, hw, Except.map, Comparison.Holds]

theorem atMost_iff (x : Number) (v : Option Json) : atMost x v = .ok true ↔
    ∀ w, v = some w → ∃ y : Number, w.asNumeric? = some y ∧ Comparison.lte.Holds x y := by
  cases v with
  | none => simp [atMost]
  | some w =>
    cases hw : w.asNumeric? <;> simp [atMost, Number.greater, hw, Except.map, Comparison.Holds]

theorem equalTo_iff (x : Number) (v : Option Json) : equalTo x v = .ok true ↔
    ∀ w, v = some w → ∃ y : Number, w.asNumeric? = some y ∧ Comparison.eq.Holds x y := by
  cases v with
  | none => simp [equalTo]
  | some w =>
    simp only [equalTo, Except.ok.injEq, decide_eq_true_iff, Option.some.injEq, forall_eq',
      Comparison.Holds]
    refine ⟨fun h => ⟨x, h, rfl⟩, ?_⟩
    rintro ⟨y, hy, rfl⟩
    exact hy

/-! ### What the tests read -/

section Reading

variable (s : Signal)

theorem at?_presence (key : String) :
    s.1.at? ["state", "presence", key] = s.presence.1.get? key := by
  have hpresence : s.state.1.get? "presence" = some s.presence.1 := Valid.get?_get s.state _ _
  rw [Signal.at?_state]
  simp [Json.at?, hpresence]

theorem numberAt_count : numberAt s ["state", "presence", "count"] = some (.finite s.count) := by
  have hcount : s.presence.1.get? "count" = some (.int s.count) :=
    (Valid.get?_get s.presence _ _).trans (congrArg some (countValue_eq _).1)
  rw [numberAt, at?_presence, hcount]
  rfl

theorem numberAt_confidence :
    numberAt s ["state", "presence", "confidence"] = some s.confidence := by
  have hconfidence : s.presence.1.get? "confidence" =
      some (s.presence.get "confidence" (s := fraction) (by simp) (by simp)).1 :=
    Valid.get?_get s.presence _ _
  obtain ⟨x, hx, -⟩ := fraction_number
    (s.presence.get "confidence" (s := fraction) (by simp) (by simp)).2
  rw [numberAt, at?_presence, hconfidence, Option.bind_some, Signal.confidence, fractionValue, hx]
  rfl

theorem numberAt_engaged : numberAt s ["state", "attention", "engaged"] =
    s.attention.bind fun a => bin a "engaged" := by
  have hattention : s.state.1.get? "attention" = s.attention.map (·.1) := Valid.map_get? s.state _
  rw [numberAt, Signal.at?_state]
  cases ha : s.attention with
  | none => simp [Json.at?, hattention, ha]
  | some a => simp [Json.at?, hattention, ha, bin]

theorem effectivelySuppressed_eq : effectivelySuppressed s = s.suppressed := by
  rw [effectivelySuppressed, Signal.at?_suppressed, Signal.suppressed]
  cases s.demographics.bind suppressedFlag <;> rfl

end Reading

/-! ### Matching is the language -/

section Matching

variable {r : Rule} {s : Signal} {hour : ℕ}

def Documented.Met (d : Documented) (r : Rule) (s : Signal) (hour : ℕ) : Prop :=
  ∀ v, r.condition d.key = some v → ∃ x : Number, v.asNumeric? = some x ∧ d.Holds s hour x

theorem presenceChecks_iff (hour : ℕ) : (∀ c ∈ r.presenceChecks s, c = .ok true) ↔
    ∀ d ∈ conditionLanguage.take 4, d.Met r s hour := by
  simp [Rule.presenceChecks, conditionLanguage, atLeast_iff, atMost_iff, equalTo_iff,
    Documented.Met, Documented.Holds, numberAt_count, numberAt_confidence]

theorem attentionCheck_iff (hour : ℕ)
    (hnumeric : ∀ v, r.condition "attention_engaged_gte" = some v →
      ∃ x : Number, v.asNumeric? = some x) : r.attentionCheck s = .ok true ↔
    Documented.Met ⟨"attention_engaged_gte", .gte, .attention "engaged"⟩ r s hour := by
  unfold Rule.attentionCheck Documented.Met Documented.Holds
  simp only [numberAt_engaged]
  cases s.attention.bind fun a => bin a "engaged" with
  | none => simpa using hnumeric
  | some engaged => simp [atLeast_iff]

theorem suppressedCheck_iff (hour : ℕ) : r.suppressedCheck s = .ok true ↔
    Documented.Met ⟨"demographics_suppressed_eq", .eq, .suppression⟩ r s hour := by
  simp only [Rule.suppressedCheck, equalTo_iff, Documented.Met, Documented.Holds,
    effectivelySuppressed_eq]

theorem timeChecks_iff (s : Signal) : (∀ c ∈ r.timeChecks hour, c = .ok true) ↔
    Documented.Met ⟨"time_hour_gte", .gte, .hour⟩ r s hour ∧
      Documented.Met ⟨"time_hour_lte", .lte, .hour⟩ r s hour := by
  simp [Rule.timeChecks, atLeast_iff, atMost_iff, Documented.Met, Documented.Holds]

def DemographicField.documented (f : DemographicField) : Documented :=
  ⟨f.key, .gte, .demographic f.block f.bin⟩

theorem demographicChecks_iff (hour : ℕ) : (∀ c ∈ r.demographicChecks s, c = .ok true) ↔
    ∀ f ∈ demographicConditionFields, f.documented.Met r s hour := by
  unfold Rule.demographicChecks
  cases hany : r.hasDemographicCondition with
  | false =>
    have hnone : ∀ f ∈ demographicConditionFields, r.condition f.key = none := by
      simpa [Rule.hasDemographicCondition] using hany
    refine iff_of_true (by simp) fun f hf v hv => ?_
    rw [DemographicField.documented, hnone f hf] at hv
    cases hv
  | true =>
    cases hs : s.suppressed with
    | true =>
      obtain ⟨f, hf, hsome⟩ := List.any_eq_true.mp hany
      obtain ⟨v, hv⟩ := Option.isSome_iff_exists.mp hsome
      refine iff_of_false (by simp) fun h => ?_
      obtain ⟨x, -, hgate, -⟩ := h f hf v hv
      rw [effectivelySuppressed_eq, hs] at hgate
      cases hgate
    | false =>
      simp only [if_true, Bool.false_eq_true, if_false, List.forall_mem_map, atLeast_iff,
        Documented.Met, Documented.Holds, DemographicField.documented, effectivelySuppressed_eq,
        hs, true_and]
      rfl

theorem conditionLanguage_eq : conditionLanguage = conditionLanguage.take 4 ++
    demographicConditionFields.map DemographicField.documented ++
    [⟨"demographics_suppressed_eq", .eq, .suppression⟩,
      ⟨"attention_engaged_gte", .gte, .attention "engaged"⟩, ⟨"time_hour_gte", .gte, .hour⟩,
      ⟨"time_hour_lte", .lte, .hour⟩] := rfl

theorem matchesSignal_iff (hnumeric : ∀ v, r.condition "attention_engaged_gte" = some v →
      ∃ x : Number, v.asNumeric? = some x) :
    r.matchesSignal s hour = .ok true ↔ ∀ d ∈ conditionLanguage, d.Met r s hour := by
  rw [Rule.matchesSignal, checkAll_true_iff, conditionLanguage_eq]
  simp only [List.forall_mem_append, List.forall_mem_cons, List.forall_mem_map,
    List.not_mem_nil, false_implies, implies_true, and_true, presenceChecks_iff hour,
    attentionCheck_iff hour hnumeric, suppressedCheck_iff hour, demographicChecks_iff hour,
    timeChecks_iff s]
  tauto

end Matching

/-! ### Loaded rules -/

section Loaded

variable {texts : Number.Texts} {j : Json} {r : Rule}

theorem loadRule_conditions (h : loadRule texts j = .ok r) : r.conditions = fileConditions j := by
  obtain ⟨cond, hcond, h⟩ := bind_ok h
  obtain ⟨ruleId, -, h⟩ := bind_ok h
  obtain ⟨priority, -, h⟩ := bind_ok h
  obtain ⟨manifestId, -, h⟩ := bind_ok h
  obtain ⟨weight, -, h⟩ := bind_ok h
  obtain ⟨ms, hms, h⟩ := bind_ok h
  obtain rfl := Except.ok.inj h
  cases cond with
  | obj cs =>
    obtain rfl := Except.ok.inj hms
    cases j with
    | obj members =>
      have hfind := Except.ok.inj hcond
      unfold fileConditions
      rw [Json.get?_obj]
      cases hmember : Dict.find "conditions" members with
      | none =>
        rw [hmember] at hfind
        cases hfind
        rfl
      | some v =>
        rw [hmember, Option.getD_some] at hfind
        rw [hfind]
    | _ => cases hcond
  | _ => cases hms

theorem condition_eq_find (hload : loadRule texts j = .ok r)
    (hnumeric : NumericConditions (fileConditions j)) {d : Documented}
    (hd : d ∈ conditionLanguage) : r.condition d.key = Dict.find d.key (fileConditions j) := by
  rw [Rule.condition, loadRule_conditions hload]
  cases hv : Dict.find d.key (fileConditions j) with
  | none => rfl
  | some v =>
    obtain ⟨x, hx⟩ := hnumeric d hd v hv
    cases v with
    | null => cases hx
    | _ => rfl

theorem boundKeys_documented :
    ∀ key ∈ Rule.boundKeys, ∃ d ∈ conditionLanguage, d.key = key := by
  decide

theorem loadRule_implements (hload : loadRule texts j = .ok r)
    (hnumeric : NumericConditions (fileConditions j)) : Implements r (fileConditions j) := by
  intro s hour
  have hbound : ∀ d ∈ conditionLanguage, ∀ v, r.condition d.key = some v →
      ∃ x : Number, v.asNumeric? = some x := by
    intro d hd v hv
    rw [condition_eq_find hload hnumeric hd] at hv
    exact hnumeric d hd v hv
  have hbounds : r.NumericBounds := by
    intro key hkey v hv
    obtain ⟨d, hd, rfl⟩ := boundKeys_documented key hkey
    exact hbound d hd v hv
  have hattention : ∀ v, r.condition "attention_engaged_gte" = some v →
      ∃ x : Number, v.asNumeric? = some x :=
    hbound ⟨"attention_engaged_gte", .gte, .attention "engaged"⟩ (by simp [conditionLanguage])
  refine ⟨r.matched s hour, hbounds.matchesSignal_ok s hour, ?_⟩
  rw [Rule.matched_iff, matchesSignal_iff hattention]
  refine forall₂_congr fun d hd => ?_
  rw [Documented.Met, condition_eq_find hload hnumeric hd]

/-- For every rules file that is loaded: the rule made of an entry with numeric conditions matches
exactly the signals and hours that all of these are met by. -/
theorem loadPolicy_implements {data : Json} {js : List Json} {c : PolicyConfig}
    (hrules : data.get? "rules" = some (.arr js)) (hload : loadPolicy texts data = .ok c) :
    List.Forall₂
      (fun j r => NumericConditions (fileConditions j) → Implements r (fileConditions j))
      js c.rules := by
  obtain ⟨members, rfl, hfind⟩ := Json.obj_of_get? hrules
  unfold loadPolicy at hload
  obtain ⟨version, -, h⟩ := bind_ok hload
  dsimp only at h
  split at h
  · cases h
  obtain ⟨rawRules, hraw, h⟩ := bind_ok h
  split at h
  · cases h
  obtain ⟨elements, helements, h⟩ := bind_ok h
  obtain ⟨rules, hloaded, h⟩ := bind_ok h
  obtain ⟨minDwellMs, -, h⟩ := bind_ok h
  obtain ⟨cooldownMs, -, h⟩ := bind_ok h
  cases h
  rw [memberOr, hfind, Option.getD_some, Except.ok.injEq] at hraw
  rw [← hraw, elementsOf, Except.ok.injEq] at helements
  subst helements
  exact (forall₂_of_mapM hloaded).imp fun _ _ hr hnumeric => loadRule_implements hr hnumeric

end Loaded

/-! ### The file of the documentation -/

def busyRoomEntry : Json :=
  .obj [("rule_id", .str "busy-room"), ("priority", .int 20), ("manifest_id", .str "manifest-busy"),
    ("conditions", .obj [("presence_count_gte", .int 3), ("presence_confidence_gte",
      .num (7 / 10))])]

def attractEntry : Json :=
  .obj [("rule_id", .str "attract"), ("priority", .int 0), ("manifest_id", .str "manifest-attract"),
    ("conditions", .obj [])]

def documentedFile : Json :=
  .obj [("schema_version", .str "1.0.0"), ("min_dwell_ms", .int 10000), ("cooldown_ms", .int 5000),
    ("rules", .arr [busyRoomEntry, attractEntry])]

def documentedPolicy : PolicyConfig where
  rules := [⟨.str "busy-room", 20, .str "manifest-busy", .finite 1,
      [("presence_count_gte", .int 3), ("presence_confidence_gte", .num (7 / 10))]⟩,
    ⟨.str "attract", 0, .str "manifest-attract", .finite 1, []⟩]
  minDwellMs := 10000
  cooldownMs := 5000

theorem documentedPolicy_implements :
    loadPolicy ⟨fun _ => none, fun _ => none⟩ documentedFile = .ok documentedPolicy ∧
      List.Forall₂ (fun j r => NumericConditions (fileConditions j) →
        Implements r (fileConditions j)) [busyRoomEntry, attractEntry] documentedPolicy.rules := by
  have hload :
      loadPolicy ⟨fun _ => none, fun _ => none⟩ documentedFile = .ok documentedPolicy := by
    rw [documentedPolicy, ← Binary64.rounded_one]
    rfl
  exact ⟨hload, loadPolicy_implements rfl hload⟩

end AdaptiveAdvertisement.DecisionOptimizer
