import AdaptiveAdvertisement.AudienceState.WindowQueries

/-!
# When demographics are released

An aggregated block is compared with the observations of the window that it is computed from.
-/

namespace AdaptiveAdvertisement.AudienceState
open Library Contracts

/-- The observation carries every bin of the block. -/
def CarriesAll (block : String) (names : List String) (o : Observation) : Prop :=
  ∀ n ∈ names, (o.1.at? ["demographics", block, n]).isSome

def MarkedSuppressed (o : Observation) : Prop :=
  o.1.at? ["demographics", "suppressed"] = some (.bool true)

/-- What a released block says of the observations. -/
structure ReleaseAllowed (config : WindowConfig) (os : List Observation) (block : Json) : Prop where
  ages : block.get? "suppressed" = some (.bool false) →
    ∀ o ∈ os, CarriesAll "age_group" ageBins o
  unmarked : block.get? "suppressed" = some (.bool false) → ∀ o ∈ os, ¬ MarkedSuppressed o
  confident : block.get? "suppressed" = some (.bool false) →
    ∃ q, meanConfidence config os = .finite q ∧ config.confThreshold ≤ q
  genders : (block.get? "gender").isSome → ∀ o ∈ os, CarriesAll "gender" genderBins o
  attire : (block.get? "attire").isSome → ∀ o ∈ os, CarriesAll "attire" attireBins o

/-- Where every observation carries the age bins and the mean confidence is not below the
threshold, no observation is marked suppressed, or has a nan for its confidence. -/
def NoneWithheld (config : WindowConfig) (os : List Observation) : Prop :=
  (∀ o ∈ os, CarriesAll "age_group" ageBins o) →
    (meanConfidence config os).below config.confThreshold = false →
      ∀ o ∈ os, ¬ MarkedSuppressed o ∧ o.confidence.isFinite = true

/-! ### Bins -/

section Bins

variable (av : Averages) {names : List String} {blocks : List (Option (Valid (bins names)))}

theorem smooth_isSome_iff (values : List (Option Number)) :
    (smooth av values).isSome ↔ ∀ v ∈ values, v.isSome := by
  have hany : values.any Option.isNone = false ↔ ∀ v ∈ values, v.isSome := by
    simp [List.any_eq_false, Option.isSome_iff_ne_none]
  rw [← hany]
  cases h : values.any Option.isNone <;> simp [smooth, h]

theorem smoothBins_isSome_iff (values : String → List (Option Number)) :
    (smoothBins av values names).isSome ↔ ∀ n ∈ names, ∀ v ∈ values n, v.isSome := by
  have hany : (names.any fun n => (smooth av (values n)).isNone) = false ↔
      ∀ n ∈ names, (smooth av (values n)).isSome := by
    simp [List.any_eq_false, Option.isSome_iff_ne_none]
  simp only [← smooth_isSome_iff av]
  rw [← hany]
  cases h : names.any fun n => (smooth av (values n)).isNone <;> simp [smoothBins, h]

theorem optionalBins_isSome {av : Averages} (h : (optionalBins av blocks).isSome) :
    (smoothBins av (binValues blocks) names).isSome := by
  unfold optionalBins at h
  split at h
  · simp at h
  · exact h

end Bins

/-- `f` is the lookup of `key` in a demographics block. -/
def Reads {names : List String} (f : Valid Contracts.demographics → Option (Valid (bins names)))
    (key : String) : Prop :=
  ∀ d, d.1.get? key = (f d).map (·.1)

theorem ageGroup_reads : Reads ageGroup "age_group" := fun d => Valid.map_get? d _

theorem gender_reads : Reads gender "gender" := fun d => Valid.map_get? d _

theorem attire_reads : Reads Contracts.attire "attire" := fun d => Valid.map_get? d _

section Release

variable {names : List String} {f : Valid Contracts.demographics → Option (Valid (bins names))}
  {key : String} {config : WindowConfig} {os : List Observation}

theorem at?_bin (hf : Reads f key) (o : Observation) (n : String) :
    (o.1.at? ["demographics", key, n]).isSome ↔
      ∃ d, o.demographics = some d ∧ ((f d).bind fun b => bin b n).isSome := by
  have hdemographics : o.1.get? "demographics" = o.demographics.map (·.1) := Valid.map_get? o _
  cases hd : o.demographics with
  | none => simp [Json.at?, hdemographics, hd]
  | some d =>
    have hblock := hf d
    cases hb : f d with
    | none => simp [Json.at?, hdemographics, hd, hblock, hb]
    | some b => simp [Json.at?, hdemographics, hd, hblock, hb, bin_isSome]

/-- Every observation carries the bins exactly where all have demographics and the bins have
averages. -/
theorem carriesAll_iff (av : Averages) (hf : Reads f key) (hne : names ≠ [])
    (os : List Observation) :
    (∀ o ∈ os, CarriesAll key names o) ↔ (∀ o ∈ os, o.demographics.isSome) ∧
      (smoothBins av (binValues ((os.filterMap Observation.demographics).map f)) names).isSome := by
  rw [smoothBins_isSome_iff]
  refine ⟨fun h => ⟨fun o ho => ?_, fun n hn v hv => ?_⟩, fun h o ho n hn => ?_⟩
  · obtain ⟨n, hn⟩ := List.exists_mem_of_ne_nil names hne
    obtain ⟨d, hd, -⟩ := (at?_bin hf o n).mp (h o ho n hn)
    rw [hd]
    rfl
  · simp only [binValues, List.map_map, List.mem_map, List.mem_filterMap] at hv
    obtain ⟨d, ⟨o, ho, hd⟩, rfl⟩ := hv
    obtain ⟨d', hd', hsome⟩ := (at?_bin hf o n).mp (h o ho n hn)
    obtain rfl := Option.some.inj (hd.symm.trans hd')
    exact hsome
  · obtain ⟨d, hd⟩ := Option.isSome_iff_exists.mp (h.1 o ho)
    refine (at?_bin hf o n).mpr ⟨d, hd, h.2 n hn _ ?_⟩
    simp only [binValues, List.map_map, List.mem_map, List.mem_filterMap]
    exact ⟨d, ⟨o, ho, hd⟩, rfl⟩

/-! ### The two blocks -/

theorem releasedBlock_suppressed (av : Averages) (ages : List (String × Json))
    (ds : List (Valid Contracts.demographics)) :
    (releasedBlock av ages ds).get? "suppressed" = some (.bool false) := by
  simp [releasedBlock, Dict.find]

theorem releasedBlock_gender (av : Averages) (ages : List (String × Json))
    (ds : List (Valid Contracts.demographics)) :
    (releasedBlock av ages ds).get? "gender" = (optionalBins av (ds.map gender)).map Json.obj := by
  cases hg : optionalBins av (ds.map gender) <;> cases ha : optionalBins av (ds.map attire) <;>
    cases hd : ds.getLast?.bind dwellEstimateMs <;>
    simp [releasedBlock, entry, Dict.find, hg, ha, hd]

theorem releasedBlock_attire (av : Averages) (ages : List (String × Json))
    (ds : List (Valid Contracts.demographics)) :
    (releasedBlock av ages ds).get? "attire" = (optionalBins av (ds.map attire)).map Json.obj := by
  cases hg : optionalBins av (ds.map gender) <;> cases ha : optionalBins av (ds.map attire) <;>
    cases hd : ds.getLast?.bind dwellEstimateMs <;>
    simp [releasedBlock, entry, Dict.find, hg, ha, hd]

theorem length_demographics_iff (os : List Observation) :
    (os.filterMap Observation.demographics).length < os.length ↔
      ¬ ∀ o ∈ os, o.demographics.isSome := by
  have hle := List.length_filterMap_le Observation.demographics os
  rw [← List.filterMap_length_eq_length]
  omega

/-- A block that is not the suppressed one is computed from demographics of every observation. -/
theorem demographicsOf_cases {block : Json} (h : demographicsOf config os = some block) :
    block = suppressedBlock ∨ (meanConfidence config os).below config.confThreshold = false ∧
      os.filterMap Observation.demographics ≠ [] ∧
        (∀ o ∈ os, o.demographics.isSome) ∧ ∃ ages,
        smoothBins config.averages
          (binValues ((os.filterMap Observation.demographics).map ageGroup)) ageBins = some ages ∧
        block = releasedBlock config.averages ages (os.filterMap Observation.demographics) := by
  unfold demographicsOf at h
  by_cases hempty : os.isEmpty = true
  · simp [hempty] at h
  by_cases hnone : (os.filterMap Observation.demographics).isEmpty = true
  · simp [hempty, hnone] at h
  by_cases hsome : (os.filterMap Observation.demographics).length < os.length
  · simp only [hempty, hnone, hsome, Bool.false_eq_true, if_true, if_false, Option.some.injEq] at h
    exact Or.inl h.symm
  cases hbelow : (meanConfidence config os).below config.confThreshold with
  | true =>
    simp only [hempty, hnone, hsome, hbelow, Bool.false_eq_true, if_true, if_false,
      Option.some.injEq] at h
    exact Or.inl h.symm
  | false =>
    simp only [hempty, hnone, hsome, hbelow, Bool.false_eq_true, if_false] at h
    have hall : ∀ o ∈ os, o.demographics.isSome := by
      by_contra hlacks
      exact hsome ((length_demographics_iff os).mpr hlacks)
    cases hages : smoothBins config.averages
        (binValues ((os.filterMap Observation.demographics).map ageGroup)) ageBins with
    | none =>
      simp only [hages] at h
      exact Or.inl (Option.some.inj h).symm
    | some ages =>
      simp only [hages] at h
      exact Or.inr ⟨rfl, by simpa using hnone, hall, ages, rfl, (Option.some.inj h).symm⟩

/-- Where every observation carries demographics, only the mean and the age bins can withhold. -/
theorem demographicsOf_complete (hne : os ≠ []) (hall : ∀ o ∈ os, o.demographics.isSome) :
    demographicsOf config os = some
      (if (meanConfidence config os).below config.confThreshold then suppressedBlock
      else (smoothBins config.averages
        (binValues ((os.filterMap Observation.demographics).map ageGroup)) ageBins).elim
          suppressedBlock fun ages =>
            releasedBlock config.averages ages (os.filterMap Observation.demographics)) := by
  have hlen : ¬ (os.filterMap Observation.demographics).length < os.length := by
    rw [length_demographics_iff]
    exact not_not_intro hall
  have hempty : os.isEmpty = false := by simpa using hne
  have hnone : (os.filterMap Observation.demographics).isEmpty = false := by
    have hpos := List.length_pos_iff.mpr hne
    rw [List.isEmpty_eq_false_iff, ← List.length_pos_iff]
    omega
  simp only [demographicsOf, hempty, hnone, hlen, Bool.false_eq_true, if_false]
  cases (meanConfidence config os).below config.confThreshold with
  | true => rfl
  | false =>
    cases smoothBins config.averages
      (binValues ((os.filterMap Observation.demographics).map ageGroup)) ageBins <;> rfl

theorem demographicsOf_released (hne : os ≠ [])
    (hall : ∀ o ∈ os, CarriesAll "age_group" ageBins o)
    (hbelow : (meanConfidence config os).below config.confThreshold = false) :
    ∃ ages, demographicsOf config os =
      some (releasedBlock config.averages ages (os.filterMap Observation.demographics)) := by
  obtain ⟨hdemographics, hsome⟩ :=
    (carriesAll_iff config.averages ageGroup_reads (by decide) os).mp hall
  obtain ⟨ages, hages⟩ := Option.isSome_iff_exists.mp hsome
  refine ⟨ages, ?_⟩
  rw [demographicsOf_complete hne hdemographics, hbelow, hages]
  rfl

end Release

/-! ### The law -/

/-- Gender and attire come with bins of every observation, whatever the flags say. -/
theorem demographicsOf_blocks {config : WindowConfig} {os : List Observation} {block : Json}
    (h : demographicsOf config os = some block) :
    ((block.get? "gender").isSome → ∀ o ∈ os, CarriesAll "gender" genderBins o) ∧
      ((block.get? "attire").isSome → ∀ o ∈ os, CarriesAll "attire" attireBins o) := by
  rcases demographicsOf_cases h with rfl | ⟨-, -, hall, ages, -, rfl⟩
  · simp [suppressedBlock, Dict.find]
  · rw [releasedBlock_gender, releasedBlock_attire, Option.isSome_map, Option.isSome_map]
    exact ⟨fun hg => (carriesAll_iff config.averages gender_reads (by decide) os).mpr
        ⟨hall, optionalBins_isSome hg⟩,
      fun ha => (carriesAll_iff config.averages attire_reads (by decide) os).mpr
        ⟨hall, optionalBins_isSome ha⟩⟩

theorem demographicsOf_ages {config : WindowConfig} {os : List Observation} {block : Json}
    (h : demographicsOf config os = some block)
    (hreleased : block.get? "suppressed" = some (.bool false)) :
    (∀ o ∈ os, CarriesAll "age_group" ageBins o) ∧
      (meanConfidence config os).below config.confThreshold = false := by
  rcases demographicsOf_cases h with rfl | ⟨hbelow, -, hall, ages, hages, rfl⟩
  · simp [suppressedBlock, Dict.find] at hreleased
  · refine ⟨(carriesAll_iff config.averages ageGroup_reads (by decide) os).mpr
      ⟨hall, ?_⟩, hbelow⟩
    rw [hages]
    rfl

theorem meanConfidence_finite (config : WindowConfig) (os : List Observation) :
    (meanConfidence config os).isFinite = true ↔ ∀ o ∈ os, o.confidence.isFinite = true := by
  rw [meanConfidence, config.averages.isFinite_mean fun x hx => ?_]
  · simp
  · obtain ⟨o, -, rfl⟩ := List.mem_map.mp hx
    exact confidence_within o

/-- For every window: what it releases is allowed by every observation exactly where nothing was
withheld upstream from a window that is otherwise good enough. -/
theorem released_allowed_iff (w : ObservationWindow) (now : ℚ) :
    (∀ block, (w.computeDemographics now).2 = some block →
      ReleaseAllowed w.config (w.prune now).data block) ↔
      NoneWithheld w.config (w.prune now).data := by
  refine ⟨fun h hall hbelow o ho => ?_, fun h block hblock => ?_⟩
  · obtain ⟨ages, hrelease⟩ := demographicsOf_released (List.ne_nil_of_mem ho) hall hbelow
    have hallowed := h _ hrelease
    have hflag := releasedBlock_suppressed w.config.averages ages
      ((w.prune now).data.filterMap Observation.demographics)
    obtain ⟨q, hq, -⟩ := hallowed.confident hflag
    refine ⟨hallowed.unmarked hflag o ho, (meanConfidence_finite w.config _).mp ?_ o ho⟩
    rw [hq]
    rfl
  · obtain ⟨hgender, hattire⟩ := demographicsOf_blocks hblock
    refine ⟨fun hflag => (demographicsOf_ages hblock hflag).1, fun hflag o ho => ?_,
      fun hflag => ?_, hgender, hattire⟩
    · obtain ⟨hall, hbelow⟩ := demographicsOf_ages hblock hflag
      exact (h hall hbelow o ho).1
    · obtain ⟨hall, hbelow⟩ := demographicsOf_ages hblock hflag
      have hfinite := (meanConfidence_finite w.config _).mpr fun o ho => (h hall hbelow o ho).2
      cases hmean : meanConfidence w.config (w.prune now).data with
      | nonfinite x => simp [hmean, Number.isFinite] at hfinite
      | finite q =>
        refine ⟨q, rfl, ?_⟩
        simpa [hmean, Number.below] using hbelow

/-! ### A withheld observation -/

def defaultConfig : WindowConfig := ⟨5000, 3, 1 / 2, .exact, by decide, by decide, by norm_num⟩

/-- One observation is enough. -/
def promptConfig : WindowConfig := ⟨5000, 1, 1 / 2, .exact, by decide, by decide, by norm_num⟩

/-- A confident observation, whose sender marks its demographics as suppressed. -/
def withheldJson : Json :=
  .obj [("schema_version", .str "1.0.0"), ("message_type", .str "cv_observation"),
    ("message_id", .str "obs-1"), ("produced_at", .str "2026-01-01T00:00:00Z"),
    ("tenant_id", .str "tenant-1"), ("site_id", .str "site-1"), ("camera_id", .str "cam-1"),
    ("pipeline_id", .str "pipe-1"), ("frame_seq", .int 1), ("window_ms", .int 100),
    ("counts", .obj [("present", .int 2), ("confidence", .num (9 / 10))]),
    ("demographics", .obj [("age_group", .obj [("child", .num 0), ("young_adult", .num (1 / 2)),
      ("adult", .num (1 / 2)), ("senior", .num 0)]), ("suppressed", .bool true)]),
    ("quality", .obj [("frames_processed", .int 3), ("frames_dropped", .int 0)]),
    ("privacy", .obj [("contains_images", .bool false), ("contains_frame_urls", .bool false),
      ("contains_face_embeddings", .bool false)])]

def withheldObservation : Observation := Valid.of withheldJson (by decide +kernel)

def withheldWindow : ObservationWindow where
  config := defaultConfig
  observations := [⟨withheldObservation, 0⟩]

theorem withheld_released : ¬ ∀ (w : ObservationWindow) (now : ℚ) (block : Json),
    (w.computeDemographics now).2 = some block →
      ReleaseAllowed w.config (w.prune now).data block := by
  intro h
  have hkept : (withheldWindow.prune 0).observations = withheldWindow.observations := by
    refine List.filter_eq_self.mpr fun o ho => ?_
    rw [List.mem_singleton.mp ho]
    decide +kernel
  have hdata : (withheldWindow.prune 0).data = [withheldObservation] :=
    congrArg (List.map Stored.data) hkept
  have hcarries : ∀ o ∈ (withheldWindow.prune 0).data, CarriesAll "age_group" ageBins o := by
    rw [hdata]
    intro o ho
    rw [List.mem_singleton.mp ho]
    unfold CarriesAll
    decide +kernel
  have hbelow :
      (meanConfidence defaultConfig (withheldWindow.prune 0).data).below (1 / 2) = false := by
    rw [hdata]
    decide +kernel
  obtain ⟨ages, hrelease⟩ : ∃ ages, (withheldWindow.computeDemographics 0).2 = some
      (releasedBlock defaultConfig.averages ages
        ((withheldWindow.prune 0).data.filterMap Observation.demographics)) :=
    demographicsOf_released (by simp [hdata]) hcarries hbelow
  have hallowed := h withheldWindow 0 _ hrelease
  refine hallowed.unmarked (releasedBlock_suppressed _ _ _) withheldObservation (by simp [hdata]) ?_
  simp [MarkedSuppressed, withheldObservation, Valid.of, withheldJson, Json.at?, Dict.find]

end AdaptiveAdvertisement.AudienceState
