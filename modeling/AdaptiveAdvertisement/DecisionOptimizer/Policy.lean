import AdaptiveAdvertisement.ContractValues
import AdaptiveAdvertisement.Library.WeightedChoice
import Mathlib.Data.List.Sort

/-!
# The policy (`decision_optimizer/policy.py`)

Rules over a validated signal. A rule keeps the conditions of the rules file as they were decoded,
so that a comparison with one may raise, and its weight as a float. `hour` is the UTC hour of the
evaluation, and `draw` is what `random.choices` draws.

Source lines: the condition keys 94-117, `Rule` 120-257, `PolicyConfig` and `PolicyEngine` 260-336,
`load_policy` 343-406.
-/

namespace AdaptiveAdvertisement.DecisionOptimizer
open Library Contracts

/-! ### What a rule reads of a signal -/

abbrev Signal := Valid audienceStateSignal

namespace Signal

variable (s : Signal)

def state : Valid audienceState := s.get "state" (by simp) (by simp [audienceState, stability])

def presence : Valid Contracts.presence := s.state.get "presence" (by simp) (by simp)

def count : ℤ := countValue (s.presence.get "count" (by simp) (by simp))

def confidence : Number := fractionValue (s.presence.get "confidence" (by simp) (by simp))

def attention : Option (Valid Contracts.attention) := s.state.get? "attention" (by simp)

def demographics : Option (Valid Contracts.demographics) := s.state.get? "demographics" (by simp)

/-- A signal that does not say otherwise is suppressed. -/
def suppressed : Bool := (s.demographics.bind suppressedFlag).getD true

/-- A bin of the demographics block, 0 where there is none. -/
def demographicBin (block bin : String) : Number :=
  ((s.1.at? ["state", "demographics", block, bin]).bind Json.asNumber?).getD (.finite 0)

end Signal

/-! ### Rules -/

structure DemographicField where
  key : String
  block : String
  bin : String

def demographicConditionFields : List DemographicField :=
  [⟨"age_group_child_gte", "age_group", "child"⟩,
    ⟨"age_group_young_adult_gte", "age_group", "young_adult"⟩,
    ⟨"age_group_adult_gte", "age_group", "adult"⟩,
    ⟨"age_group_senior_gte", "age_group", "senior"⟩,
    ⟨"gender_male_gte", "gender", "male"⟩,
    ⟨"gender_female_gte", "gender", "female"⟩,
    ⟨"attire_formal_gte", "attire", "formal"⟩,
    ⟨"attire_business_casual_gte", "attire", "business_casual"⟩,
    ⟨"attire_casual_gte", "attire", "casual"⟩,
    ⟨"attire_athletic_gte", "attire", "athletic"⟩,
    ⟨"attire_outdoor_technical_gte", "attire", "outdoor_technical"⟩,
    ⟨"attire_workwear_uniform_gte", "attire", "workwear_uniform"⟩,
    ⟨"attire_streetwear_gte", "attire", "streetwear"⟩,
    ⟨"attire_luxury_premium_gte", "attire", "luxury_premium"⟩,
    ⟨"attire_lounge_comfort_gte", "attire", "lounge_comfort"⟩,
    ⟨"attire_smart_occasion_gte", "attire", "smart_occasion"⟩]

structure Rule where
  ruleId : Json
  priority : ℤ
  manifestId : Json
  weight : Number
  conditions : List (String × Json)

def atLeast (x : Number) : Option Json → Except Raised Bool
  | some v => (x.less v).map not
  | none => .ok true

def atMost (x : Number) : Option Json → Except Raised Bool
  | some v => (x.greater v).map not
  | none => .ok true

def equalTo (x : Number) : Option Json → Except Raised Bool
  | some v => .ok (decide (v.asNumeric? = some x))
  | none => .ok true

/-- The checks one after the other, up to the first that fails or raises. -/
def checkAll : List (Except Raised Bool) → Except Raised Bool
  | [] => .ok true
  | .ok true :: checks => checkAll checks
  | .ok false :: _ => .ok false
  | .error e :: _ => .error e

theorem checkAll_true_iff (checks : List (Except Raised Bool)) :
    checkAll checks = .ok true ↔ ∀ c ∈ checks, c = .ok true := by
  induction checks with
  | nil => simp [checkAll]
  | cons c checks ih =>
    cases c with
    | error e => simp [checkAll]
    | ok b => cases b <;> simp [checkAll, ih]

namespace Rule

variable (r : Rule) (s : Signal)

def condition (key : String) : Option Json :=
  match Dict.find key r.conditions with
  | some .null => none
  | v => v

def hasDemographicCondition : Bool :=
  demographicConditionFields.any fun f => (r.condition f.key).isSome

def presenceChecks : List (Except Raised Bool) :=
  [atLeast (.finite s.count) (r.condition "presence_count_gte"),
    atMost (.finite s.count) (r.condition "presence_count_lte"),
    equalTo (.finite s.count) (r.condition "presence_count_eq"),
    atLeast s.confidence (r.condition "presence_confidence_gte")]

/-- Passed by a signal that has no such value. -/
def attentionCheck : Except Raised Bool :=
  match s.attention.bind fun a => bin a "engaged" with
  | some engaged => atLeast engaged (r.condition "attention_engaged_gte")
  | none => .ok true

def suppressedCheck : Except Raised Bool :=
  equalTo (.finite (if s.suppressed then 1 else 0)) (r.condition "demographics_suppressed_eq")

def demographicChecks : List (Except Raised Bool) :=
  if r.hasDemographicCondition then
    if s.suppressed then [.ok false]
    else demographicConditionFields.map fun f =>
      atLeast (s.demographicBin f.block f.bin) (r.condition f.key)
  else []

def timeChecks (hour : ℕ) : List (Except Raised Bool) :=
  [atLeast (.finite hour) (r.condition "time_hour_gte"),
    atMost (.finite hour) (r.condition "time_hour_lte")]

/-- `matches`. -/
def matchesSignal (hour : ℕ) : Except Raised Bool :=
  checkAll (r.presenceChecks s ++ [r.attentionCheck s, r.suppressedCheck s] ++
    r.demographicChecks s ++ r.timeChecks hour)

end Rule

/-! ### Evaluation -/

structure PolicyConfig where
  rules : List Rule
  minDwellMs : ℤ
  cooldownMs : ℤ

def matchingRules (s : Signal) (hour : ℕ) : List Rule → Except Raised (List Rule)
  | [] => .ok []
  | r :: rs => do
    let holds ← r.matchesSignal s hour
    let rest ← matchingRules s hour rs
    return if holds then r :: rest else rest

namespace PolicyConfig

variable (c : PolicyConfig)

/-- The order of `PolicyEngine.__init__`: descending priorities, the file's order in a tie. -/
def sortedRules : List Rule := c.rules.insertionSort fun a b => b.priority ≤ a.priority

/-- The choice among the matching rules, with a rounding of the sums of their weights. -/
def select (fl : Number → Number) (draw : ℚ) : List Rule → Except Raised (Option Json)
  | [] => .ok none
  | top :: rest =>
    match (top :: rest).filter fun r => decide (r.priority = top.priority) with
    | [chosen] => .ok (some chosen.manifestId)
    | tier => (choices fl tier (tier.map Rule.weight) draw).map fun r => some r.manifestId

def evaluateWith (fl : Number → Number) (s : Signal) (hour : ℕ) (draw : ℚ) :
    Except Raised (Option Json) :=
  (matchingRules s hour c.sortedRules).bind (select fl draw)

def evaluate (s : Signal) (hour : ℕ) (draw : ℚ) : Except Raised (Option Json) :=
  c.evaluateWith Binary64.rounded s hour draw

def possibleResults (s : Signal) (hour : ℕ) : Set (Except Raised (Option Json)) :=
  { result | ∃ draw : ℚ, Drawn draw ∧ c.evaluate s hour draw = result }

end PolicyConfig

/-! ### Loading -/

def memberOr (j : Json) (key : String) (default : Json) : Except Raised Json :=
  match j with
  | .obj ms => .ok ((Dict.find key ms).getD default)
  | _ => .error .attributeError

def membersOf : Json → Except Raised (List (String × Json))
  | .obj ms => .ok ms
  | _ => .error .attributeError

/-- What a `for` loop goes through. -/
def elementsOf : Json → Except Raised (List Json)
  | .arr xs => .ok xs
  | .obj ms => .ok (ms.map fun m => .str m.1)
  | .str s => .ok (s.toList.map fun c => .str c.toString)
  | _ => .error .typeError

def loadRule (texts : Number.Texts) (r : Json) : Except Raised Rule := do
  let cond ← memberOr r "conditions" (.obj [])
  let ruleId ← index r "rule_id"
  let priority ← (memberOr r "priority" (.int 0)).bind (Number.toInt texts)
  let manifestId ← index r "manifest_id"
  let weight ← (memberOr r "weight" (.int 1)).bind (Number.toFloat texts)
  let conditions ← membersOf cond
  return ⟨ruleId, priority, manifestId, Binary64.rounded weight, conditions⟩

/-- `load_policy` on the decoded rules file. -/
def loadPolicy (texts : Number.Texts) (data : Json) : Except Raised PolicyConfig := do
  let version ← memberOr data "schema_version" .null
  if Schema.constStr "1.0.0" version = false then .error .valueError
  let rawRules ← memberOr data "rules" (.arr [])
  if rawRules.truthy = false then .error .valueError
  let elements ← elementsOf rawRules
  let rules ← elements.mapM (loadRule texts)
  let minDwellMs ← (memberOr data "min_dwell_ms" (.int 10000)).bind (Number.toInt texts)
  let cooldownMs ← (memberOr data "cooldown_ms" (.int 5000)).bind (Number.toInt texts)
  return ⟨rules, minDwellMs, cooldownMs⟩

end AdaptiveAdvertisement.DecisionOptimizer
