import AdaptiveAdvertisement.AudienceState.DemographicsRelease

/-!
# The two confidence gates (`audience_state/observation_store.py`)

`compute_state` compares the mean confidence with the threshold after rounding it to four
decimals (lines 97-107), `compute_demographics` as it is (144-147). The two tests part in a sliver
beside the threshold, and there the state is let through on a mean that is too low.
-/

namespace AdaptiveAdvertisement.AudienceState
open Library Contracts

/-- `smoothed_conf < self._conf_threshold`. -/
def stateLow (config : WindowConfig) (os : List Observation) : Bool :=
  (smoothedConfidence config os).below config.confThreshold

/-- `avg_conf < self._conf_threshold`. -/
def demographicsLow (config : WindowConfig) (os : List Observation) : Bool :=
  (meanConfidence config os).below config.confThreshold

/-! ### What the tests decide -/

section Tests

variable {config : WindowConfig} {os : List Observation}

theorem stateOf_freeze (config : WindowConfig) (hne : os ≠ []) :
    ∃ state, stateOf config os = some state ∧
    (Json.obj state).at? ["stability", "freeze_decision"] =
      some (.bool (!decide (config.minStability ≤ os.length) || stateLow config os ||
        anyPipelineDegraded os)) := by
  have hsome : os.isEmpty = false := by simpa using hne
  exact ⟨_, by rw [stateOf, hsome]; rfl, by simp [Json.at?, Dict.find, stateLow]⟩

/-- Of a window whose observations carry the age bins the second test alone decides. -/
theorem demographicsOf_suppressed_iff (hne : os ≠ [])
    (hall : ∀ o ∈ os, CarriesAll "age_group" ageBins o) :
    demographicsOf config os = some suppressedBlock ↔ demographicsLow config os = true := by
  cases hlow : demographicsLow config os with
  | false =>
    obtain ⟨ages, hreleased⟩ := demographicsOf_released hne hall hlow
    have hflag :=
      releasedBlock_suppressed config.averages ages (os.filterMap Observation.demographics)
    refine iff_of_false (fun hsuppressed => ?_) Bool.false_ne_true
    rw [hreleased, Option.some.injEq] at hsuppressed
    rw [hsuppressed] at hflag
    simp [suppressedBlock, Dict.find] at hflag
  | true =>
    refine iff_of_true ?_ rfl
    obtain ⟨hdemographics, -⟩ :=
      (carriesAll_iff config.averages ageGroup_reads (by decide) os).mp hall
    rw [demographicsLow] at hlow
    rw [demographicsOf_complete hne hdemographics, hlow]
    rfl

end Tests

/-! ### The law -/

structure GatesAgree (w : ObservationWindow) (now : ℚ) : Prop where
  confident : ∀ state, (w.computeState now).2 = some state →
    (Json.obj state).at? ["stability", "freeze_decision"] = some (.bool false) →
      ∃ m, meanConfidence w.config (w.prune now).data = .finite m ∧ w.config.confThreshold ≤ m
  agree : stateLow w.config (w.prune now).data = demographicsLow w.config (w.prune now).data

/-- The middle of the last four-decimal number below the threshold and the next one. -/
def cutOff (threshold : ℚ) : ℚ := (⌈threshold * 10 ^ 4⌉ - 1 / 2) / 10 ^ 4

/-- The mean is not between the cut-off and the threshold. On the cut-off itself it rounds to the
even neighbour. -/
structure OutsideSliver (threshold mean : ℚ) : Prop where
  below : mean < threshold →
    mean < cutOff threshold ∨ mean = cutOff threshold ∧ ⌈threshold * 10 ^ 4⌉ % 2 = 1
  above : threshold ≤ mean →
    cutOff threshold < mean ∨ mean = cutOff threshold ∧ ⌈threshold * 10 ^ 4⌉ % 2 = 0

theorem rounded_below_iff (threshold mean : ℚ) :
    ((Number.finite mean).roundTo 4).below threshold = true ↔
      mean < cutOff threshold ∨ mean = cutOff threshold ∧ ⌈threshold * 10 ^ 4⌉ % 2 = 1 := by
  have hpos : (0 : ℚ) < 10 ^ 4 := by norm_num
  have hcut : cutOff threshold * 10 ^ 4 = (⌈threshold * 10 ^ 4⌉ : ℚ) - 1 / 2 :=
    div_mul_cancel₀ _ hpos.ne'
  have hlt : mean < cutOff threshold ↔ mean * 10 ^ 4 < ⌈threshold * 10 ^ 4⌉ - 1 / 2 := by
    rw [← mul_lt_mul_iff_of_pos_right hpos, hcut]
  have heq : mean = cutOff threshold ↔ mean * 10 ^ 4 = ⌈threshold * 10 ^ 4⌉ - 1 / 2 := by
    rw [← mul_left_inj' hpos.ne', hcut]
  rw [Number.roundTo_below_iff, hlt, heq]

theorem low_agree_iff (threshold mean : ℚ) :
    ((Number.finite mean).roundTo 4).below threshold = (Number.finite mean).below threshold ↔
      OutsideSliver threshold mean := by
  have hrounded := rounded_below_iff threshold mean
  have htrue : (Number.finite mean).below threshold = true ↔ mean < threshold := by
    simp [Number.below]
  rw [Bool.eq_iff_iff, hrounded, htrue]
  refine ⟨fun h => ⟨h.mpr, fun hle => ?_⟩, fun h => ⟨fun hcut => ?_, h.below⟩⟩
  · have hnot := mt h.mp (not_lt.mpr hle)
    rw [not_or, not_and] at hnot
    rcases (not_lt.mp hnot.1).lt_or_eq with hlt | heq
    · exact Or.inl hlt
    · have hodd := hnot.2 heq.symm
      exact Or.inr ⟨heq.symm, by omega⟩
  · by_contra hle
    rcases h.above (not_lt.mp hle) with hlt | ⟨heq, heven⟩
    · rcases hcut with hcut | ⟨hcut, -⟩ <;> linarith
    · rcases hcut with hcut | ⟨-, hodd⟩
      · linarith
      · omega

/-- On every window with confidences that are numbers, averaged exactly, the gates agree, and let
nothing through below the threshold, exactly where the mean is outside the sliver that rounding
moves. -/
theorem gatesAgree_iff (w : ObservationWindow) (now : ℚ) (hexact : w.config.averages = .exact)
    (hne : (w.prune now).data ≠ [])
    (hfinite : ∀ o ∈ (w.prune now).data, o.confidence.isFinite = true) :
    GatesAgree w now ↔ ∃ m, meanConfidence w.config (w.prune now).data = .finite m ∧
      OutsideSliver w.config.confThreshold m := by
  obtain ⟨m, hm⟩ : ∃ m, meanConfidence w.config (w.prune now).data = .finite m := by
    have hmean := (meanConfidence_finite w.config _).mpr hfinite
    cases hvalue : meanConfidence w.config (w.prune now).data with
    | finite m => exact ⟨m, rfl⟩
    | nonfinite x => simp [hvalue, Number.isFinite] at hmean
  have hsmoothed : smoothedConfidence w.config (w.prune now).data =
      (Number.finite m).roundTo 4 := by
    rw [smoothedConfidence, hm, hexact]
    rfl
  have hlow : stateLow w.config (w.prune now).data = demographicsLow w.config (w.prune now).data ↔
      OutsideSliver w.config.confThreshold m := by
    rw [stateLow, demographicsLow, hsmoothed, hm, low_agree_iff]
  refine ⟨fun h => ⟨m, hm, hlow.mp h.agree⟩, fun h => ?_⟩
  obtain ⟨m', hm', houtside⟩ := h
  obtain rfl := Number.finite.inj (hm.symm.trans hm')
  have hagree := hlow.mpr houtside
  refine ⟨fun state hstate hfreeze => ⟨m, hm, ?_⟩, hagree⟩
  obtain ⟨state', hstate', hfreeze'⟩ := stateOf_freeze w.config hne
  obtain rfl := Option.some.inj (hstate.symm.trans hstate')
  have hoff := Option.some.inj (hfreeze.symm.trans hfreeze')
  simp only [Json.bool.injEq] at hoff
  have hnot : demographicsLow w.config (w.prune now).data = false := by
    rw [← hagree]
    cases hs : stateLow w.config (w.prune now).data with
    | false => rfl
    | true => simp [hs] at hoff
  rw [demographicsLow, hm, Number.below, decide_eq_false_iff_not] at hnot
  exact not_lt.mp hnot

/-! ### A mean just below the threshold -/

def confidentJson (confidence : ℚ) : Json :=
  .obj [("schema_version", .str "1.0.0"), ("message_type", .str "cv_observation"),
    ("message_id", .str "obs-1"), ("produced_at", .str "2026-01-01T00:00:00Z"),
    ("tenant_id", .str "tenant-1"), ("site_id", .str "site-1"), ("camera_id", .str "cam-1"),
    ("pipeline_id", .str "pipe-1"), ("frame_seq", .int 1), ("window_ms", .int 100),
    ("counts", .obj [("present", .int 2), ("confidence", .num confidence)]),
    ("quality", .obj [("frames_processed", .int 3), ("frames_dropped", .int 0)]),
    ("privacy", .obj [("contains_images", .bool false), ("contains_frame_urls", .bool false),
      ("contains_face_embeddings", .bool false)])]

def oneSeen (confidence : ℚ) (h : cvObservation (confidentJson confidence) = true) :
    ObservationWindow where
  config := promptConfig
  observations := [⟨Valid.of (confidentJson confidence) h, 0⟩]

theorem oneSeen_mean (confidence : ℚ) (h : cvObservation (confidentJson confidence) = true) :
    ((oneSeen confidence h).prune 0).data ≠ [] ∧
      meanConfidence promptConfig ((oneSeen confidence h).prune 0).data = .finite confidence := by
  have hkept : ((oneSeen confidence h).prune 0).observations =
      (oneSeen confidence h).observations := by
    refine List.filter_eq_self.mpr fun o ho => ?_
    rw [List.mem_singleton.mp ho]
    norm_num [oneSeen, promptConfig]
  have hdata : ((oneSeen confidence h).prune 0).data = [Valid.of (confidentJson confidence) h] :=
    congrArg (List.map Stored.data) hkept
  have hconfidence : Observation.confidence (Valid.of (confidentJson confidence) h) =
      .finite confidence := rfl
  rw [hdata]
  refine ⟨List.cons_ne_nil _ _, ?_⟩
  simp [meanConfidence, promptConfig, Averages.exact, hconfidence, Number.mean, Number.sum,
    Number.add, Number.divBy]

theorem confident_agree : GatesAgree (oneSeen (9 / 10) (by decide +kernel)) 0 := by
  obtain ⟨hne, hmean⟩ := oneSeen_mean (9 / 10) (by decide +kernel)
  refine (gatesAgree_iff _ _ rfl hne ?_).mpr ⟨_, hmean, fun hlow => ?_, fun _ => Or.inl ?_⟩
  · refine (meanConfidence_finite promptConfig _).mp ?_
    rw [hmean]
    rfl
  · exact absurd hlow (by norm_num [oneSeen, promptConfig])
  · norm_num [cutOff, oneSeen, promptConfig]

def almostHalf : ObservationWindow := oneSeen (49996 / 100000) (by decide +kernel)

/-- A mean of 0.49996 rounds up to the threshold: the state is not frozen, and demographics would
be withheld. -/
theorem almostHalf_disagrees : ¬ ∀ (w : ObservationWindow) (now : ℚ),
    w.config.averages = .exact → (w.prune now).data ≠ [] →
      (∀ o ∈ (w.prune now).data, o.confidence.isFinite = true) → GatesAgree w now := by
  intro h
  obtain ⟨hne, hmean⟩ := oneSeen_mean (49996 / 100000) (by decide +kernel)
  have hfinite : (meanConfidence promptConfig (almostHalf.prune 0).data).isFinite = true := by
    rw [almostHalf, hmean]
    rfl
  have hagree := h almostHalf 0 rfl hne ((meanConfidence_finite _ _).mp hfinite)
  have hlow : stateLow almostHalf.config (almostHalf.prune 0).data = false := by decide +kernel
  have hlow' : demographicsLow almostHalf.config (almostHalf.prune 0).data = true := by
    decide +kernel
  rw [hagree.agree, hlow'] at hlow
  cases hlow

end AdaptiveAdvertisement.AudienceState
