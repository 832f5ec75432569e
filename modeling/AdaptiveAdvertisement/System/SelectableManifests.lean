import AdaptiveAdvertisement.System.PairMatching

/-!
# Manifests that can be selected

Every rule that the generator makes of an audience tag or a time tag is matched by some valid
signal at some hour. Occasion tags and frequency tags change the rules of the others and make none
(`rule_generator.py:371-481`).
-/

namespace AdaptiveAdvertisement.System
open Library Contracts Dashboard DecisionOptimizer

/-! ### A signal that meets every lower bound -/

def sureBins (bins : List String) : Json := .obj (bins.map fun bin => (bin, .int 1))

def confidentCrowdJson (count : ℕ) : Json :=
  .obj [("schema_version", .str "1.0.0"), ("message_type", .str "audience_state_signal"),
    ("message_id", .str "signal-1"), ("produced_at", .str "2026-01-01T00:00:00Z"),
    ("tenant_id", .str "default-tenant"), ("site_id", .str "site-01"), ("camera_id", .str "cam-01"),
    ("state", .obj [("presence", .obj [("count", .int count), ("confidence", .int 1)]),
      ("stability", .obj [("state_stable", .bool true), ("freeze_decision", .bool false)]),
      ("demographics", .obj [
        ("age_group", sureBins ["child", "young_adult", "adult", "senior"]),
        ("gender", sureBins ["male", "female"]),
        ("attire", sureBins ["formal", "business_casual", "casual", "athletic",
          "outdoor_technical", "workwear_uniform", "streetwear", "luxury_premium",
          "lounge_comfort", "smart_occasion"]),
        ("suppressed", .bool false)]),
      ("attention", .obj [("engaged", .int 1)])]),
    ("source_quality", .obj [("signal_age_ms", .int 100), ("pipeline_degraded", .bool false)]),
    ("privacy", .obj [("contains_images", .bool false), ("contains_frame_urls", .bool false),
      ("contains_face_embeddings", .bool false)])]

def loner : Signal := Valid.of (confidentCrowdJson 1) (by decide +kernel)

def couple : Signal := Valid.of (confidentCrowdJson 2) (by decide +kernel)

/-- Only one tag asks for an exact number. -/
def audienceFor (tag : String) : Signal := if tag = "solo_adult" then loner else couple

theorem audienceRule_matched : ∀ a ∈ audienceTagSet,
    (loadedRule (audienceRule "" 0 none a)).matchesSignal (audienceFor a) 0 = .ok true := by
  decide +kernel

/-! ### The slot beside the other conditions -/

section Slots

variable {s : Signal} {hour : ℕ} {c : Dashboard.Conditions} {d : Documented}

def hourKeys : List String := ["time_hour_gte", "time_hour_lte"]

theorem hour_of_key : ∀ d ∈ conditionLanguage,
    (d.key = "time_hour_gte" → d.comparison = .gte ∧ d.subject = .hour) ∧
    (d.key = "time_hour_lte" → d.comparison = .lte ∧ d.subject = .hour) := by
  simp [conditionLanguage]

theorem key_of_hour : ∀ d ∈ conditionLanguage, d.subject = .hour → d.key ∈ hourKeys := by
  simp [conditionLanguage, hourKeys]

theorem meets_anyHour (hd : d ∈ conditionLanguage)
    (hkeys : ∀ key ∈ hourKeys, c.get key = none) (h : Meets c s 0 d) : Meets c s hour d := by
  intro q hq
  have hholds := h q hq
  unfold Documented.Holds at hholds ⊢
  cases hsubject : d.subject with
  | hour =>
    rw [hkeys _ (key_of_hour d hd hsubject)] at hq
    cases hq
  | presence field => simpa only [hsubject] using hholds
  | demographic block bin => simpa only [hsubject] using hholds
  | suppression => simpa only [hsubject] using hholds
  | attention field => simpa only [hsubject] using hholds

theorem meets_withSlot {slot : Option HourSlot} (hd : d ∈ conditionLanguage)
    (hin : ∀ w, slot = some w → w.gte ≤ hour ∧ hour ≤ w.lte) (h : Meets c s hour d) :
    Meets (withSlot c slot) s hour d := by
  cases slot with
  | none => exact h
  | some w =>
    obtain ⟨hfirst, hlast⟩ := hin w rfl
    obtain ⟨hgte, hlte⟩ := hour_of_key d hd
    intro q hq
    rw [withSlot, Dict.get_set, Dict.get_set] at hq
    split_ifs at hq with hlteKey hgteKey
    · obtain ⟨hcomparison, hsubject⟩ := hlte hlteKey
      obtain rfl := Option.some.inj hq
      rw [Documented.Holds, hsubject, hcomparison]
      exact (holds_finite _ _).2.1.mpr (by exact_mod_cast hlast)
    · obtain ⟨hcomparison, hsubject⟩ := hgte hgteKey
      obtain rfl := Option.some.inj hq
      rw [Documented.Holds, hsubject, hcomparison]
      exact (holds_finite _ _).1.mpr (by exact_mod_cast hfirst)
    · exact h q hq

end Slots

/-! ### Each rule of a tag -/

/-- The rule is loaded, and some valid signal matches it at some hour of the day. -/
def Matchable (texts : Number.Texts) (g : GeneratedRule) : Prop :=
  ∃ r, loadRule texts g.toJson = .ok r ∧
    ∃ (s : Signal) (hour : ℕ), hour < 24 ∧ r.matchesSignal s hour = .ok true

theorem slot_hours : ∀ t ∈ allSlots, ∀ w ∈ (t.bind TimeSlot.slot).toList,
    w.gte ≤ w.lte ∧ w.lte < 24 := by
  decide +kernel

theorem audience_hourKeys : ∀ a ∈ audienceTagSet, ∀ key ∈ hourKeys,
    (injectAttentionGate (conditionsOf a) a).get key = none := by
  decide +kernel

section Rules

variable (texts : Number.Texts) (manifestId : String) (occasionBonus : ℤ)

theorem matchable_of_conditions {g : GeneratedRule} {a : String} {t : Option TimeSlot}
    (ht : t ∈ allSlots) (ha : a ∈ audienceTagSet) (hweight : g.weight = 1)
    (hg : g.conditions = withSlot (injectAttentionGate (conditionsOf a) a)
      (t.bind TimeSlot.slot)) : Matchable texts g := by
  have hmatched := (loadedRule_matches_iff (audienceRule "" 0 none a)).mp
    (audienceRule_matched a ha)
  have hours := slot_hours t ht
  obtain ⟨hour, hday, hin⟩ : ∃ hour < 24, ∀ w, t.bind TimeSlot.slot = some w →
      w.gte ≤ hour ∧ hour ≤ w.lte := by
    cases hslot : t.bind TimeSlot.slot with
    | none => exact ⟨0, by decide, fun w hw => (nomatch hw)⟩
    | some w =>
      obtain ⟨hle, hlt⟩ := hours w (by rw [hslot]; exact List.mem_singleton_self w)
      refine ⟨w.gte, by omega, fun w' hw' => ?_⟩
      obtain rfl := Option.some.inj hw'
      exact ⟨le_refl _, hle⟩
  have hload :=
    loadRule_toJson texts (r := g) (by rw [hweight]; exact ⟨eighth_le_one, le_refl 1⟩)
  refine ⟨_, hload, audienceFor a, hour, hday, ?_⟩
  refine (loadedRule_matches_iff g).mpr fun d hd => ?_
  rw [hg]
  exact meets_withSlot hd hin (meets_anyHour hd (audience_hourKeys a ha) (hmatched d hd))

theorem audienceRule_matchable {a : String} {t : Option TimeSlot} (ht : t ∈ allSlots)
    (ha : a ∈ audienceTagSet) :
    Matchable texts (audienceRule manifestId occasionBonus t a) :=
  matchable_of_conditions texts ht ha rfl rfl

/-- A time tag alone asks for what the tag "general" does. -/
theorem timeOnlyRule_matchable {t : TimeSlot} (ht : some t ∈ allSlots) :
    Matchable texts (timeOnlyRule manifestId occasionBonus t) :=
  matchable_of_conditions (a := "general") texts ht (by decide) rfl rfl

end Rules

/-! ### Which manifests have rules -/

section Tags

variable {m : Manifest}

/-- Some tag makes rules. -/
def HasRuleTag (m : Manifest) : Prop :=
  ∃ tag ∈ m.audienceTags, tag ∈ audienceTagSet ∨ tag ∈ timeTagSet

def HasKnownTag (m : Manifest) : Prop := ∃ tag ∈ m.audienceTags, tag ∈ allValidTags

theorem hasRuleTag_iff : HasRuleTag m ↔ audienceOf m ≠ [] ∨ timeTagsOf m ≠ [] := by
  refine ⟨fun ⟨tag, htag, hkind⟩ => ?_, fun h => ?_⟩
  · refine hkind.imp (fun h => ?_) fun h => ?_
    · exact List.ne_nil_of_mem (List.mem_filter.mpr ⟨htag, decide_eq_true h⟩)
    · exact List.ne_nil_of_mem (List.mem_filter.mpr ⟨htag, decide_eq_true h⟩)
  · rcases h with h | h
    · obtain ⟨tag, htag⟩ := List.exists_mem_of_ne_nil _ h
      exact ⟨tag, List.mem_of_mem_filter htag, Or.inl (mem_audienceOf htag)⟩
    · obtain ⟨tag, htag⟩ := List.exists_mem_of_ne_nil _ h
      exact ⟨tag, List.mem_of_mem_filter htag, Or.inr (mem_timeTagsOf htag)⟩

theorem HasRuleTag.known (h : HasRuleTag m) : HasKnownTag m := by
  obtain ⟨tag, htag, hkind⟩ := h
  refine ⟨tag, htag, ?_⟩
  simp only [allValidTags, List.mem_append]
  tauto

theorem tagRules_subset : tagRules m ⊆ generateRulesForManifest m := by
  intro g hg
  have htags : m.audienceTags ≠ [] := by
    intro hnil
    simp [tagRules, hnil, audienceRules, generateCrossDimRules, combinations] at hg
  unfold generateRulesForManifest
  rw [if_neg htags]
  dsimp only
  split
  next cfg _ =>
    split_ifs
    · exact hg
    · exact List.mem_append_left _ hg
  next => exact hg

/-- Without such a tag there is no rule, and so no reminder either. -/
theorem generated_nil (h : ¬ HasRuleTag m) : generateRulesForManifest m = [] := by
  rw [hasRuleTag_iff, not_or, not_not, not_not] at h
  obtain ⟨haudience, htime⟩ := h
  have hrules : tagRules m = [] := by
    unfold tagRules
    change (if timeTagsOf m = [] then audienceRules _ (audienceOf m) _ none else _) = _
    rw [if_pos htime, haudience]
    rfl
  unfold generateRulesForManifest
  simp only [hrules, List.isEmpty_nil, if_true]
  split_ifs
  · rfl
  · split <;> rfl

theorem slotsOfTag_ne_nil :
    ∀ timeTag ∈ timeTagSet, slotsOfTag timeTag ≠ [] := by decide +kernel

theorem exists_slotsOf (m : Manifest) : ∃ t, t ∈ slotsOf m := by
  unfold slotsOf
  split_ifs with htime
  · exact ⟨none, List.mem_singleton_self none⟩
  · obtain ⟨timeTag, htag⟩ := List.exists_mem_of_ne_nil _ htime
    obtain ⟨t, ht⟩ := List.exists_mem_of_ne_nil _
      (slotsOfTag_ne_nil timeTag (mem_timeTagsOf htag))
    exact ⟨t, List.mem_flatMap.mpr ⟨timeTag, htag, ht⟩⟩

theorem timeOnlyRule_mem (haudience : audienceOf m = []) {t : Option TimeSlot}
    (htime : timeTagsOf m ≠ []) (ht : t ∈ slotsOf m) : ∃ slot, t = some slot ∧
      timeOnlyRule m.manifestId (occasionBonusOf m.audienceTags) slot ∈
        generateRulesForManifest m := by
  rw [slotsOf, if_neg htime] at ht
  obtain ⟨timeTag, htag, ht⟩ := List.mem_flatMap.mp ht
  obtain ⟨⟨slot, slotIdx⟩, hslot, rfl⟩ := List.mem_map.mp ht
  refine ⟨⟨timeTag, slotIdx, slot⟩, rfl, tagRules_subset ?_⟩
  unfold tagRules
  change _ ∈ if timeTagsOf m = [] then _
    else (timeTagsOf m).flatMap (timedRules _ (audienceOf m) _)
  rw [if_neg htime, haudience]
  exact List.mem_flatMap.mpr ⟨timeTag, htag,
    List.mem_flatMap.mpr ⟨(slot, slotIdx), hslot, List.mem_singleton_self _⟩⟩

theorem exists_matchable (texts : Number.Texts) (h : HasRuleTag m) :
    ∃ g ∈ generateRulesForManifest m, Matchable texts g := by
  obtain ⟨t, ht⟩ := exists_slotsOf m
  by_cases haudience : audienceOf m = []
  · have htime : timeTagsOf m ≠ [] :=
      (hasRuleTag_iff.mp h).resolve_left (not_not_intro haudience)
    obtain ⟨slot, rfl, hmem⟩ := timeOnlyRule_mem haudience htime ht
    exact ⟨_, hmem, timeOnlyRule_matchable texts _ _ (mem_allSlots ht)⟩
  · obtain ⟨a, ha⟩ := List.exists_mem_of_ne_nil _ haudience
    exact ⟨_, audienceRule_mem ht ha,
      audienceRule_matchable texts _ _ (mem_allSlots ht) (mem_audienceOf ha)⟩

theorem generated_eq_nil_iff : generateRulesForManifest m = [] ↔ ¬ HasRuleTag m := by
  refine ⟨fun hnil h => ?_, generated_nil⟩
  obtain ⟨g, hg, -⟩ := exists_matchable ⟨fun _ => none, fun _ => none⟩ h
  rw [hnil] at hg
  cases hg

end Tags

/-! ### The law -/

/-- No rule exactly where no tag is among `known`, and otherwise one that can be matched. -/
structure Selectable (texts : Number.Texts) (known : List String) (m : Manifest) : Prop where
  unruled : generateRulesForManifest m = [] ↔ ∀ tag ∈ m.audienceTags, tag ∉ known
  matched : (∃ tag ∈ m.audienceTags, tag ∈ known) →
    ∃ g ∈ generateRulesForManifest m, Matchable texts g

/-- The tags that make rules; the others change the rules of these. -/
def ruleTags : List String := audienceTagSet ++ timeTagSet

/-- A manifest with an audience tag or a time tag can be selected, and no other has rules. -/
theorem ruleTags_selectable (texts : Number.Texts) (m : Manifest) :
    Selectable texts ruleTags m := by
  have hkind : HasRuleTag m ↔ ∃ tag ∈ m.audienceTags, tag ∈ ruleTags := by
    simp [HasRuleTag, ruleTags]
  refine ⟨?_, fun h => exists_matchable texts (hkind.mpr h)⟩
  rw [generated_eq_nil_iff, hkind]
  simp

/-- Over the whole taxonomy that holds where a known tag comes with one that makes rules. -/
theorem allValidTags_selectable_iff (texts : Number.Texts) (m : Manifest) :
    Selectable texts allValidTags m ↔ (HasKnownTag m → HasRuleTag m) := by
  have hunknown : (∀ tag ∈ m.audienceTags, tag ∉ allValidTags) ↔ ¬ HasKnownTag m := by
    simp [HasKnownTag]
  refine ⟨fun h hknown => ?_,
    fun h => ⟨?_, fun hknown => exists_matchable texts (h hknown)⟩⟩
  · by_contra hnone
    exact hunknown.mp (h.unruled.mp (generated_nil hnone)) hknown
  · rw [generated_eq_nil_iff, hunknown]
    exact not_congr ⟨HasRuleTag.known, h⟩

def promoManifest : Manifest where
  manifestId := "m-promo"
  title := "Summer sale"
  schemaVersion := "1.0.0"
  manifestJson := .obj []
  audienceTags := ["promo_featured", "freq_recurring"]

/-- Two tags of the taxonomy, and no rule. -/
theorem promoManifest_unselectable : ¬ ∀ m : Manifest, m.audienceTags.Nodup →
    Selectable ⟨fun _ => none, fun _ => none⟩ allValidTags m := by
  intro h
  have hrules : generateRulesForManifest promoManifest = [] := by
    refine generated_nil ?_
    unfold HasRuleTag
    decide
  have hknown := (h promoManifest (by decide)).unruled.mp hrules "promo_featured" (by decide)
  exact hknown (by decide)

end AdaptiveAdvertisement.System
