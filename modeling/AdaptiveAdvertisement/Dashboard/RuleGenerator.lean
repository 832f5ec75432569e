import AdaptiveAdvertisement.Dashboard.Manifest
import Mathlib.Algebra.Order.Ring.Rat

/-!
# Rules from audience tags (`dashboard_api/rule_generator.py`)

Numbers are exact, so that a threshold such as 0.35 is the fraction 35/100.

Source lines: the attention gate 109-114, `_DIMENSION_GROUPS` and the bonus 122-147,
`_AUDIENCE_CONDITIONS` 156-258, `_TIME_WINDOWS` 267-275, the priorities 281-315, `_FREQ_REMINDER`
326-329, the helpers 336-364, `generate_rules_for_manifest` 371-481, `_generate_cross_dim_rules`
484-537, `build_rules_file` 540-596.
-/

namespace AdaptiveAdvertisement.Dashboard
open Library

abbrev Conditions := Dict String ℚ

/-! ### Tables -/

def attentionGateThreshold : ℚ := 35 / 100

def attentionGateExcluded : List String := ["attract", "general"]

def dimensionGroups : List (String × String) :=
  [("solo_adult", "age"), ("group_adults", "age"), ("adult_with_child", "age"),
    ("teenager_group", "age"), ("seniors", "age"), ("male_focus", "gender"),
    ("female_focus", "gender"), ("attire_formal", "attire"), ("attire_business_casual", "attire"),
    ("attire_casual", "attire"), ("attire_athletic", "attire"),
    ("attire_outdoor_technical", "attire"), ("attire_workwear_uniform", "attire"),
    ("attire_streetwear", "attire"), ("attire_luxury_premium", "attire"),
    ("attire_lounge_comfort", "attire"), ("attire_smart_occasion", "attire")]

def crossDimPriorityBonus : ℤ := 3

/-- At least so many present with at least this confidence. -/
def presence (count confidence : ℚ) : List (String × ℚ) :=
  [("presence_count_gte", count), ("presence_confidence_gte", confidence)]

def audienceConditions : List (String × Conditions) :=
  [("attract", .ofList []),
    ("general", .ofList (presence 1 (6 / 10))),
    ("solo_adult", .ofList [("presence_count_eq", 1), ("presence_confidence_gte", 7 / 10),
      ("age_group_adult_gte", 5 / 10)]),
    ("group_adults", .ofList (presence 2 (7 / 10) ++ [("age_group_adult_gte", 5 / 10)])),
    ("adult_with_child", .ofList (presence 2 (7 / 10) ++ [("age_group_child_gte", 2 / 10),
      ("age_group_adult_gte", 3 / 10)])),
    ("teenager_group", .ofList (presence 1 (7 / 10) ++ [("age_group_young_adult_gte", 5 / 10)])),
    ("seniors", .ofList (presence 1 (7 / 10) ++ [("age_group_senior_gte", 4 / 10)])),
    ("male_focus", .ofList (presence 1 (6 / 10) ++ [("gender_male_gte", 55 / 100)])),
    ("female_focus", .ofList (presence 1 (6 / 10) ++ [("gender_female_gte", 55 / 100)])),
    ("attire_formal", .ofList (presence 1 (6 / 10) ++ [("attire_formal_gte", 45 / 100)])),
    ("attire_athletic", .ofList (presence 1 (6 / 10) ++ [("attire_athletic_gte", 45 / 100)])),
    ("attire_outdoor_technical", .ofList (presence 1 (6 / 10) ++
      [("attire_outdoor_technical_gte", 45 / 100)])),
    ("attire_workwear_uniform", .ofList (presence 1 (6 / 10) ++
      [("attire_workwear_uniform_gte", 45 / 100)])),
    ("attire_business_casual", .ofList (presence 1 (6 / 10) ++
      [("attire_business_casual_gte", 50 / 100)])),
    ("attire_streetwear", .ofList (presence 1 (6 / 10) ++ [("attire_streetwear_gte", 50 / 100)])),
    ("attire_casual", .ofList (presence 1 (6 / 10) ++ [("attire_casual_gte", 50 / 100)])),
    ("attire_luxury_premium", .ofList (presence 1 (6 / 10) ++
      [("attire_luxury_premium_gte", 55 / 100)])),
    ("attire_smart_occasion", .ofList (presence 1 (6 / 10) ++
      [("attire_smart_occasion_gte", 55 / 100)])),
    ("attire_lounge_comfort", .ofList (presence 1 (6 / 10) ++
      [("attire_lounge_comfort_gte", 55 / 100)]))]

/-- First and last hour, both in the window. -/
structure HourSlot where
  gte : ℕ
  lte : ℕ

/-- What the table holds for a time tag: a tuple, a list of tuples, or `None`. -/
inductive TimeWindow where
  | slot (s : HourSlot)
  | split (slots : List HourSlot)
  | allDay

def timeWindows : List (String × TimeWindow) :=
  [("time_morning", .slot ⟨6, 10⟩), ("time_lunch", .slot ⟨11, 13⟩),
    ("time_afternoon", .slot ⟨14, 16⟩), ("time_happy_hour", .slot ⟨16, 18⟩),
    ("time_evening", .slot ⟨18, 21⟩), ("time_late_night", .split [⟨22, 23⟩, ⟨0, 5⟩]),
    ("time_all_day", .allDay)]

def audienceBasePriority : List (String × ℤ) :=
  [("attract", 0), ("general", 5), ("solo_adult", 10), ("group_adults", 10),
    ("adult_with_child", 10), ("teenager_group", 10), ("seniors", 10), ("male_focus", 10),
    ("female_focus", 10), ("attire_formal", 10), ("attire_business_casual", 10),
    ("attire_casual", 10), ("attire_athletic", 10), ("attire_outdoor_technical", 10),
    ("attire_workwear_uniform", 10), ("attire_streetwear", 10), ("attire_luxury_premium", 10),
    ("attire_lounge_comfort", 10), ("attire_smart_occasion", 10)]

def timeOnlyPriorityBoost : ℤ := 10

def timeAudiencePriorityBoost : ℤ := 20

def occasionPriorityBonus : List (String × ℤ) :=
  [("promo_featured", 15), ("promo_limited_time", 30), ("promo_seasonal", 0)]

structure Reminder where
  priority : ℤ
  weight : ℚ

def freqReminder : List (String × Reminder) :=
  [("freq_recurring", ⟨7, 3 / 10⟩), ("freq_ambient", ⟨3, 2 / 10⟩)]

/-! ### Helpers -/

def conditionsOf (tag : String) : Conditions := (Dict.find tag audienceConditions).getD .empty

def basePriority (tag : String) : ℤ := (Dict.find tag audienceBasePriority).getD 10

def injectAttentionGate (cond : Conditions) (tag : String) : Conditions :=
  if tag ∈ attentionGateExcluded then cond
  else cond.set "attention_engaged_gte" attentionGateThreshold

/-- Of a threshold in both, the more restrictive. -/
def mergeConditions (a b : Conditions) : Conditions :=
  b.entries.foldl (fun merged e =>
    merged.set e.1 ((merged.get e.1).elim e.2 fun v => max v e.2)) a

def withSlot (cond : Conditions) : Option HourSlot → Conditions
  | some slot => (cond.set "time_hour_gte" slot.gte).set "time_hour_lte" slot.lte
  | none => cond

/-- The window of a time tag as a list of slots, `none` for one without restriction. -/
def windowSlots (timeTag : String) : List (Option HourSlot) :=
  match (Dict.find timeTag timeWindows).getD .allDay with
  | .slot s => [some s]
  | .split slots => slots.map some
  | .allDay => [none]

def slotSuffix (slotIdx : ℕ) : String := if 0 < slotIdx then "-s" ++ toString slotIdx else ""

/-- `itertools.combinations(xs, 2)`. -/
def combinations {α : Type*} : List α → List (α × α)
  | [] => []
  | x :: xs => xs.map (fun y => (x, y)) ++ combinations xs

/-! ### The rules of one manifest -/

structure GeneratedRule where
  ruleId : String
  priority : ℤ
  weight : ℚ := 1
  manifestId : String
  conditions : Conditions
  tiebreakIndex : Option ℕ := none

section Generate

variable (manifestId : String) (audience : List String) (occasionBonus : ℤ)

/-- Where in a time window a rule is generated: the tag, the number of the slot and the slot. -/
structure TimeSlot where
  timeTag : String
  slotIdx : ℕ
  slot : Option HourSlot

def TimeSlot.part (t : TimeSlot) : String := "-" ++ t.timeTag ++ slotSuffix t.slotIdx

def crossDimRule (time : Option TimeSlot) (tagA tagB : String) : GeneratedRule where
  ruleId := "autogen-" ++ manifestId ++ time.elim "" TimeSlot.part ++ "-" ++ tagA ++ "+" ++ tagB
  priority := 10 + crossDimPriorityBonus + (if time.isSome then timeAudiencePriorityBoost else 0) +
    occasionBonus
  manifestId := manifestId
  conditions := withSlot ((mergeConditions (conditionsOf tagA) (conditionsOf tagB)).set
    "attention_engaged_gte" attentionGateThreshold) (time.bind TimeSlot.slot)

def generateCrossDimRules (time : Option TimeSlot) : List GeneratedRule :=
  let dimensioned := audience.filterMap fun t => (Dict.find t dimensionGroups).map (t, ·)
  (combinations dimensioned).filterMap fun ((tagA, dimA), (tagB, dimB)) =>
    if dimA = dimB then none else some (crossDimRule manifestId occasionBonus time tagA tagB)

def audienceRule (time : Option TimeSlot) (audTag : String) : GeneratedRule where
  ruleId := "autogen-" ++ manifestId ++ time.elim "" TimeSlot.part ++ "-" ++ audTag
  priority := basePriority audTag + (if time.isSome then timeAudiencePriorityBoost else 0) +
    occasionBonus
  manifestId := manifestId
  conditions := withSlot (injectAttentionGate (conditionsOf audTag) audTag)
    (time.bind TimeSlot.slot)

def timeOnlyRule (time : TimeSlot) : GeneratedRule where
  ruleId := "autogen-" ++ manifestId ++ time.part
  priority := timeOnlyPriorityBoost + occasionBonus
  manifestId := manifestId
  conditions := withSlot (.ofList (presence 1 (6 / 10))) time.slot

def audienceRules (time : Option TimeSlot) : List GeneratedRule :=
  audience.map (audienceRule manifestId occasionBonus time) ++
    generateCrossDimRules manifestId audience occasionBonus time

def timedRules (timeTag : String) : List GeneratedRule :=
  (windowSlots timeTag).zipIdx.flatMap fun (slot, slotIdx) =>
    if audience = [] then [timeOnlyRule manifestId occasionBonus ⟨timeTag, slotIdx, slot⟩]
    else audienceRules manifestId audience occasionBonus (some ⟨timeTag, slotIdx, slot⟩)

def reminderRule (cfg : Reminder) : GeneratedRule where
  ruleId := "autogen-" ++ manifestId ++ "-reminder"
  priority := cfg.priority
  weight := cfg.weight
  manifestId := manifestId
  conditions := .ofList (presence 1 (6 / 10))

end Generate

def occasionBonusOf (tags : List String) : ℤ :=
  ((tags.filter fun t => decide (t ∈ occasionTagSet)).map fun o =>
    (Dict.find o occasionPriorityBonus).getD 0).sum

/-- The rules without the reminder. -/
def tagRules (m : Manifest) : List GeneratedRule :=
  let audience := m.audienceTags.filter fun t => decide (t ∈ audienceTagSet)
  let timeTags := m.audienceTags.filter fun t => decide (t ∈ timeTagSet)
  if timeTags = [] then audienceRules m.manifestId audience (occasionBonusOf m.audienceTags) none
  else timeTags.flatMap (timedRules m.manifestId audience (occasionBonusOf m.audienceTags))

def generateRulesForManifest (m : Manifest) : List GeneratedRule :=
  if m.audienceTags = [] then []
  else
    let rules := tagRules m
    let freq := (m.audienceTags.find? fun t => decide (t ∈ frequencyTagSet)).getD "freq_primary"
    match Dict.find freq freqReminder with
    | some cfg => if rules.isEmpty then rules else rules ++ [reminderRule m.manifestId cfg]
    | none => rules

/-! ### The rules file -/

def GeneratedRule.toJson (r : GeneratedRule) : Json :=
  .obj ([("rule_id", .str r.ruleId), ("priority", .int r.priority), ("weight", .num r.weight),
      ("manifest_id", .str r.manifestId),
      ("conditions", .obj (r.conditions.entries.map fun e => (e.1, .num e.2)))] ++
    r.tiebreakIndex.elim [] fun idx => [("_tiebreak_index", .int idx)])

def numberedRules (enabledManifests : List Manifest) : List GeneratedRule :=
  enabledManifests.zipIdx.flatMap fun (m, idx) =>
    (generateRulesForManifest m).map fun r => { r with tiebreakIndex := some idx }

def GeneratedRule.isCatchAll (r : GeneratedRule) : Bool := r.conditions.entries.isEmpty

def safetyFallback (enabledManifests : List Manifest) : GeneratedRule where
  ruleId := "autogen-safety-fallback"
  priority := -1
  manifestId := enabledManifests.head?.elim "manifest-attract" Manifest.manifestId
  conditions := .empty

def allRules (enabledManifests : List Manifest) : List GeneratedRule :=
  let rules := numberedRules enabledManifests
  if rules.any GeneratedRule.isCatchAll then rules
  else rules ++ [safetyFallback enabledManifests]

def buildRulesFile (enabledManifests : List Manifest) (minDwellMs : ℤ := 10000)
    (cooldownMs : ℤ := 5000) : Json :=
  .obj [("schema_version", .str "1.0.0"), ("min_dwell_ms", .int minDwellMs),
    ("cooldown_ms", .int cooldownMs),
    ("rules", .arr ((allRules enabledManifests).map GeneratedRule.toJson))]

/-! ### Whose rules they are -/

theorem eighth_le_one : (1 / 8 : ℚ) ≤ 1 := by decide +kernel

structure RuleOf (manifestId : String) (r : GeneratedRule) : Prop where
  owner : r.manifestId = manifestId
  weight : 1 / 8 ≤ r.weight
  weight_le : r.weight ≤ 1

section RuleOf

variable {manifestId : String} {audience : List String} {occasionBonus : ℤ} {r : GeneratedRule}

theorem ruleOf_audienceRules {time : Option TimeSlot}
    (h : r ∈ audienceRules manifestId audience occasionBonus time) : RuleOf manifestId r := by
  rcases List.mem_append.mp h with hr | hr
  · obtain ⟨tag, -, rfl⟩ := List.mem_map.mp hr
    exact ⟨rfl, eighth_le_one, le_refl 1⟩
  · obtain ⟨⟨⟨tagA, dimA⟩, tagB, dimB⟩, -, hpair⟩ := List.mem_filterMap.mp hr
    obtain ⟨-, rfl⟩ : ¬ dimA = dimB ∧
        crossDimRule manifestId occasionBonus time tagA tagB = r := by
      simpa using hpair
    exact ⟨rfl, eighth_le_one, le_refl 1⟩

theorem ruleOf_timedRules {timeTag : String}
    (h : r ∈ timedRules manifestId audience occasionBonus timeTag) : RuleOf manifestId r := by
  obtain ⟨⟨slot, slotIdx⟩, -, hr⟩ := List.mem_flatMap.mp h
  dsimp only at hr
  split_ifs at hr
  · rw [List.mem_singleton.mp hr]
    exact ⟨rfl, eighth_le_one, le_refl 1⟩
  · exact ruleOf_audienceRules hr

end RuleOf

theorem ruleOf_tagRules {m : Manifest} {r : GeneratedRule} (h : r ∈ tagRules m) :
    RuleOf m.manifestId r := by
  unfold tagRules at h
  dsimp only at h
  split_ifs at h
  · exact ruleOf_audienceRules h
  · obtain ⟨timeTag, -, hr⟩ := List.mem_flatMap.mp h
    exact ruleOf_timedRules hr

theorem freqReminder_weight :
    ∀ e ∈ freqReminder, 1 / 8 ≤ e.2.weight ∧ e.2.weight ≤ 1 := by
  decide +kernel

theorem ruleOf_generated {m : Manifest} {r : GeneratedRule}
    (h : r ∈ generateRulesForManifest m) : RuleOf m.manifestId r := by
  unfold generateRulesForManifest at h
  split_ifs at h
  · cases h
  · cases hcfg : Dict.find ((m.audienceTags.find? fun t => decide (t ∈ frequencyTagSet)).getD
        "freq_primary") freqReminder with
    | none =>
      simp only [hcfg] at h
      exact ruleOf_tagRules h
    | some cfg =>
      have hweight := freqReminder_weight _ (Dict.find_eq_some_mem hcfg)
      simp only [hcfg] at h
      split_ifs at h
      · exact ruleOf_tagRules h
      · rcases List.mem_append.mp h with hr | hr
        · exact ruleOf_tagRules hr
        · rw [List.mem_singleton.mp hr]
          exact ⟨rfl, hweight.1, hweight.2⟩

/-- A rule of the file belongs to an enabled manifest, or it is the safety fallback. -/
theorem mem_allRules {ms : List Manifest} {r : GeneratedRule} (h : r ∈ allRules ms) :
    (∃ m ∈ ms, RuleOf m.manifestId r) ∨ r = safetyFallback ms := by
  have hnumbered : ∀ r ∈ numberedRules ms, ∃ m ∈ ms, RuleOf m.manifestId r := by
    intro r hr
    obtain ⟨⟨m, idx⟩, hm, hr⟩ := List.mem_flatMap.mp hr
    obtain ⟨r', hr', rfl⟩ := List.mem_map.mp hr
    obtain ⟨howner, hweight, hle⟩ := ruleOf_generated hr'
    exact ⟨m, List.fst_mem_of_mem_zipIdx hm, howner, hweight, hle⟩
  unfold allRules at h
  dsimp only at h
  split_ifs at h
  · exact Or.inl (hnumbered r h)
  · rcases List.mem_append.mp h with hr | hr
    · exact Or.inl (hnumbered r hr)
    · exact Or.inr (List.mem_singleton.mp hr)

theorem allRules_weight {ms : List Manifest} {r : GeneratedRule} (h : r ∈ allRules ms) :
    1 / 8 ≤ r.weight ∧ r.weight ≤ 1 := by
  rcases mem_allRules h with ⟨m, -, hrule⟩ | rfl
  · exact ⟨hrule.weight, hrule.weight_le⟩
  · exact ⟨eighth_le_one, le_refl 1⟩

theorem allRules_catchAll (ms : List Manifest) : ∃ r ∈ allRules ms, r.isCatchAll = true := by
  unfold allRules
  dsimp only
  split_ifs with hany
  · exact List.any_eq_true.mp hany
  · exact ⟨safetyFallback ms, List.mem_append_right _ List.mem_cons_self, rfl⟩

end AdaptiveAdvertisement.Dashboard
