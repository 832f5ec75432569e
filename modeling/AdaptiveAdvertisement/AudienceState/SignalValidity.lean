import AdaptiveAdvertisement.AudienceState.DemographicsRelease
import AdaptiveAdvertisement.AudienceState.SignalPublisher

/-!
# Every signal that is built meets ICD-3

The averages of values in a range stay in it, and so does their rounding, whatever the number of
observations and whichever blocks they leave out.
-/

namespace AdaptiveAdvertisement.AudienceState
open Library Contracts

/-! ### Averages -/

section Averages

variable {av : Averages} {names : List String}

theorem rounded_within {xs : List Number} (hne : xs ≠ []) (h : ∀ x ∈ xs, x.Within 0 1) :
    (av.roundTo 4 (av.mean xs)).Within 0 1 := av.roundTo_within 4 (av.mean_within hne h)

theorem smooth_within {values : List (Option Number)} {x : Number} (hne : values ≠ [])
    (hvalues : ∀ v ∈ values, ∀ y ∈ v, y.Within 0 1) (h : smooth av values = some x) :
    x.Within 0 1 := by
  unfold smooth at h
  cases hany : values.any Option.isNone with
  | true => simp [hany] at h
  | false =>
    simp only [hany, Bool.false_eq_true, if_false, Option.some.injEq] at h
    subst h
    have hsome : ∀ v ∈ values, v ≠ none := by simpa using hany
    have hpresent : values.filterMap id ≠ [] := by
      obtain ⟨v, hv⟩ := List.exists_mem_of_ne_nil values hne
      obtain ⟨y, hy⟩ := Option.ne_none_iff_exists'.mp (hsome v hv)
      exact List.ne_nil_of_mem (List.mem_filterMap.mpr ⟨v, hv, hy⟩)
    refine rounded_within hpresent fun y hy => ?_
    obtain ⟨v, hv, hvy⟩ := List.mem_filterMap.mp hy
    exact hvalues v hv y hvy

/-- Averages of bins are bins. -/
theorem smoothBins_valid {values : String → List (Option Number)} {ms : List (String × Json)}
    (hnames : names.Nodup) (hne : ∀ n ∈ names, values n ≠ [])
    (hvalues : ∀ n ∈ names, ∀ v ∈ values n, ∀ y ∈ v, y.Within 0 1)
    (h : smoothBins av values names = some ms) : bins names (.obj ms) = true := by
  unfold smoothBins at h
  cases hany : names.any fun n => (smooth av (values n)).isNone with
  | true => simp [hany] at h
  | false =>
    simp only [hany, Bool.false_eq_true, if_false, Option.some.injEq] at h
    subst h
    refine Schema.object_members ?_ (by simp) fun m hm => ?_
    · simpa [Function.comp_def] using hnames
    · obtain ⟨n, hn, hm⟩ := List.mem_filterMap.mp hm
      obtain ⟨x, hx, rfl⟩ := Option.map_eq_some_iff.mp hm
      exact ⟨fraction, List.mem_map_of_mem hn,
        (fraction_toJson_iff x).mpr (smooth_within (hne n hn) (hvalues n hn) hx)⟩

theorem binValues_within (blocks : List (Option (Valid (bins names)))) (n : String) :
    ∀ v ∈ binValues blocks n, ∀ y ∈ v, y.Within 0 1 := by
  intro v hv y hy
  obtain ⟨b, -, rfl⟩ := List.mem_map.mp hv
  obtain ⟨b', -, hbin⟩ := Option.bind_eq_some_iff.mp hy
  exact bin_within b' hbin

theorem binValues_valid {blocks : List (Option (Valid (bins names)))} {ms : List (String × Json)}
    (hnames : names.Nodup) (hne : blocks ≠ [])
    (h : smoothBins av (binValues blocks) names = some ms) : bins names (.obj ms) = true :=
  smoothBins_valid hnames (fun n _ => by simpa [binValues] using hne)
    (fun n _ => binValues_within blocks n) h

theorem optionalBins_valid {blocks : List (Option (Valid (bins names)))}
    {ms : List (String × Json)} (hnames : names.Nodup) (hne : blocks ≠ [])
    (h : optionalBins av blocks = some ms) : bins names (.obj ms) = true := by
  unfold optionalBins at h
  cases hany : blocks.any Option.isNone with
  | true => simp [hany] at h
  | false =>
    simp only [hany, Bool.false_eq_true, if_false] at h
    exact binValues_valid hnames hne h

end Averages

/-! ### The blocks -/

theorem present_nonneg (o : Observation) : 0 ≤ o.present := (countValue_eq _).2

theorem fraction_rounded {av : Averages} {xs : List Number} (hne : xs ≠ [])
    (h : ∀ x ∈ xs, x.Within 0 1) : fraction (av.roundTo 4 (av.mean xs)).toJson = true :=
  (fraction_toJson_iff _).mpr (rounded_within hne h)

theorem smoothedCount_nonneg (os : List Observation) : 0 ≤ smoothedCount os := by
  have hsum : 0 ≤ (os.map Observation.present).sum := by
    refine List.sum_nonneg fun n hn => ?_
    obtain ⟨o, -, rfl⟩ := List.mem_map.mp hn
    exact present_nonneg o
  refine le_roundEven (n := 0) ?_
  have hsum' : (0 : ℚ) ≤ ((os.map Observation.present).sum : ℤ) := by exact_mod_cast hsum
  push_cast at hsum' ⊢
  positivity

theorem attentionField_valid {av : Averages} {as : List (Valid Contracts.attention)}
    {field : String} {v : Json} (h : attentionField av as field = some v) : fraction v = true := by
  unfold attentionField at h
  cases hnone : ((as.map fun a => bin a field).filterMap id).isEmpty with
  | true => simp only [hnone, if_true, reduceCtorEq] at h
  | false =>
    simp only [hnone, Bool.false_eq_true, if_false, Option.some.injEq] at h
    subst h
    refine fraction_rounded (by simpa using hnone) fun x hx => ?_
    obtain ⟨y, hy, hyx⟩ := List.mem_filterMap.mp hx
    obtain ⟨a, -, rfl⟩ := List.mem_map.mp hy
    exact bin_within a hyx

section Blocks

variable {config : WindowConfig} {os : List Observation}

theorem stateOf_valid {state : List (String × Json)} (h : stateOf config os = some state) :
    ∃ p s, state = [("presence", p), ("stability", s)] ∧
      presence p = true ∧ stability s = true := by
  unfold stateOf at h
  cases hempty : os.isEmpty with
  | true => simp [hempty] at h
  | false =>
    simp only [hempty, Bool.false_eq_true, if_false, Option.some.injEq] at h
    have hne : os ≠ [] := by simpa using hempty
    refine ⟨_, _, h.symm, ?_, ?_⟩
    · have hconfidence : fraction (smoothedConfidence config os).toJson = true := by
        refine fraction_rounded (by simpa using hne) fun x hx => ?_
        obtain ⟨o, -, rfl⟩ := List.mem_map.mp hx
        exact confidence_within o
      refine Schema.object_members (by decide) (by simp) fun m hm => ?_
      simp only [List.mem_cons, List.not_mem_nil, or_false] at hm
      rcases hm with rfl | rfl
      · exact ⟨count, by simp, (count_int_iff _).mpr (smoothedCount_nonneg os)⟩
      · exact ⟨fraction, by simp, hconfidence⟩
    · refine Schema.object_members (by decide) (by simp) fun m hm => ?_
      simp only [List.mem_cons, List.not_mem_nil, or_false] at hm
      rcases hm with rfl | rfl | rfl
      · exact ⟨Schema.boolean, by simp, rfl⟩
      · exact ⟨Schema.boolean, by simp, rfl⟩
      · exact ⟨count, by simp, (count_int_iff _).mpr (by omega)⟩

theorem mem_entry {key : String} {v : Option Json} {m : String × Json} (h : m ∈ entry key v) :
    m.1 = key ∧ v = some m.2 := by
  obtain ⟨w, hw, rfl⟩ := Option.map_eq_some_iff.mp (Option.mem_toList.mp h)
  exact ⟨rfl, hw⟩

theorem releasedBlock_valid {av : Averages} {ages : List (String × Json)}
    {ds : List (Valid Contracts.demographics)} (hne : ds ≠ [])
    (hages : smoothBins av (binValues (ds.map ageGroup)) ageBins = some ages) :
    Contracts.demographics (releasedBlock av ages ds) = true := by
  refine Schema.object_members (by decide) (by simp) fun m hm => ?_
  simp only [List.mem_append, List.mem_cons, List.not_mem_nil, or_false] at hm
  rcases hm with (((rfl | rfl) | hm) | hm) | hm
  · exact ⟨bins ageBins, by simp, binValues_valid (by decide) (by simpa using hne) hages⟩
  · exact ⟨Schema.boolean, by simp, rfl⟩
  · obtain ⟨hkey, hv⟩ := mem_entry hm
    obtain ⟨ms, hms, hobj⟩ := Option.map_eq_some_iff.mp hv
    rw [hkey, ← hobj]
    exact ⟨bins genderBins, by simp, optionalBins_valid (by decide) (by simpa using hne) hms⟩
  · obtain ⟨hkey, hv⟩ := mem_entry hm
    obtain ⟨ms, hms, hobj⟩ := Option.map_eq_some_iff.mp hv
    rw [hkey, ← hobj]
    exact ⟨bins attireBins, by simp, optionalBins_valid (by decide) (by simpa using hne) hms⟩
  · obtain ⟨hkey, hv⟩ := mem_entry hm
    obtain ⟨n, hn, hint⟩ := Option.map_eq_some_iff.mp hv
    obtain ⟨d, -, hd⟩ := Option.bind_eq_some_iff.mp hn
    obtain ⟨v, -, rfl⟩ := Option.map_eq_some_iff.mp hd
    rw [hkey, ← hint]
    exact ⟨count, by simp, (count_int_iff _).mpr (countValue_eq v).2⟩

theorem demographicsOf_valid {block : Json} (h : demographicsOf config os = some block) :
    Contracts.demographics block = true := by
  rcases demographicsOf_cases h with rfl | ⟨-, hne, -, ages, hages, rfl⟩
  · decide +kernel
  · exact releasedBlock_valid hne hages

theorem attentionOf_valid {av : Averages} {block : Json} (h : attentionOf av os = some block) :
    Contracts.attention block = true := by
  unfold attentionOf at h
  cases hnone : (os.filterMap Observation.attention).isEmpty with
  | true => simp only [hnone, if_true, reduceCtorEq] at h
  | false =>
    simp only [hnone, Bool.false_eq_true, if_false] at h
    cases hfields : (["engaged", "ambient"].flatMap fun f =>
        entry f (attentionField av (os.filterMap Observation.attention) f)).isEmpty with
    | true => simp only [hfields, if_true, reduceCtorEq] at h
    | false =>
      simp only [hfields, Bool.false_eq_true, if_false, Option.some.injEq] at h
      subst h
      refine Schema.object_members (by decide) (by simp) fun m hm => ?_
      obtain ⟨f, hf, hm⟩ := List.mem_flatMap.mp hm
      obtain ⟨hkey, hv⟩ := mem_entry hm
      refine ⟨fraction, hkey ▸ List.mem_map_of_mem hf, ?_⟩
      exact attentionField_valid hv

end Blocks

/-! ### The signal -/

theorem state_valid {state : List (String × Json)}
    (hstate : ∃ p s, state = [("presence", p), ("stability", s)] ∧ presence p = true ∧
      stability s = true) (demog attn : Option Json)
    (hdemog : ∀ block ∈ demog, Contracts.demographics block = true)
    (hattn : ∀ block ∈ attn, Contracts.attention block = true) :
    audienceState (.obj (state ++ entry "demographics" demog ++ entry "attention" attn)) =
      true := by
  obtain ⟨p, s, rfl, hpresence, hstability⟩ := hstate
  refine Schema.object_members (by decide) (by simp) fun m hm => ?_
  simp only [List.mem_append, List.mem_cons, List.not_mem_nil, or_false] at hm
  rcases hm with ((rfl | rfl) | hm) | hm
  · exact ⟨presence, by simp, hpresence⟩
  · exact ⟨stability, by simp, hstability⟩
  · obtain ⟨hkey, hv⟩ := mem_entry hm
    exact ⟨Contracts.demographics, by simp [hkey], hdemog m.2 hv⟩
  · obtain ⟨hkey, hv⟩ := mem_entry hm
    exact ⟨Contracts.attention, by simp [hkey], hattn m.2 hv⟩

theorem sourceQuality_valid {ageMs : ℤ} (h : 0 ≤ ageMs) (degraded : Bool) :
    sourceQuality (.obj [("signal_age_ms", .int ageMs), ("pipeline_degraded", .bool degraded),
      ("observations_dropped", .int 0)]) = true := by
  refine Schema.object_members (by decide) (by simp) fun m hm => ?_
  simp only [List.mem_cons, List.not_mem_nil, or_false] at hm
  rcases hm with rfl | rfl | rfl
  · exact ⟨count, by simp, (count_int_iff _).mpr h⟩
  · exact ⟨Schema.boolean, by simp, rfl⟩
  · exact ⟨count, by simp, (count_int_iff _).mpr le_rfl⟩

theorem signal_messageId (ids : SourceIds) (stamp : SignalStamp) (state : List (String × Json))
    (ageMs : ℤ) (degraded : Bool) (demog attn : Option Json) :
    (signal ids stamp state ageMs degraded demog attn).get? "message_id" =
      some (.str stamp.messageId) := by
  simp [signal, Dict.find]

theorem signal_valid (ids : SourceIds) (stamp : SignalStamp) {state : List (String × Json)}
    {ageMs : ℤ} (degraded : Bool) {demog attn : Option Json} (hage : 0 ≤ ageMs)
    (hstate : audienceState
      (.obj (state ++ entry "demographics" demog ++ entry "attention" attn)) = true) :
    audienceStateSignal (signal ids stamp state ageMs degraded demog attn) = true := by
  refine Schema.object_members (by decide) (by simp) fun m hm => ?_
  simp only [List.mem_cons, List.not_mem_nil, or_false] at hm
  rcases hm with rfl | rfl | rfl | rfl | rfl | rfl | rfl | rfl | rfl | rfl
  · exact ⟨Schema.constStr "1.0.0", by simp, Schema.constStr_iff.mpr rfl⟩
  · exact ⟨Schema.constStr "audience_state_signal", by simp, Schema.constStr_iff.mpr rfl⟩
  · exact ⟨identifier, by simp, identifier_uuid stamp.uuid_length⟩
  · exact ⟨timestamp, by simp, timestamp_iff.mpr ⟨_, rfl⟩⟩
  · exact ⟨scopedId, by simp, ids.tenantId_valid⟩
  · exact ⟨scopedId, by simp, ids.siteId_valid⟩
  · exact ⟨scopedId, by simp, ids.cameraId_valid⟩
  · exact ⟨audienceState, by simp [audienceState, stability], hstate⟩
  · exact ⟨sourceQuality, by simp [sourceQuality], sourceQuality_valid hage degraded⟩
  · exact ⟨privacy, by simp, by decide +kernel⟩

/-! ### Building -/

section Build

variable {w : ObservationWindow}

theorem stateOf_eq_none_iff (config : WindowConfig) (os : List Observation) :
    stateOf config os = none ↔ os = [] := by
  cases os with
  | nil => simp [stateOf]
  | cons o os => simp [stateOf]

theorem mem_prune (now : ℚ) {o : Stored} (h : o ∈ (w.prune now).observations) :
    o ∈ w.observations := List.mem_of_mem_filter h

theorem newestAge_nonneg (prune : ℚ) {read : ℚ}
    (h : ∀ o ∈ w.observations, o.receivedAt ≤ read) :
    0 ≤ (w.newestObservationAgeMs prune read).2.getD 0 := by
  cases hlast : (w.prune prune).observations.getLast? with
  | none => simp [ObservationWindow.newestObservationAgeMs, hlast]
  | some o =>
    have hle := h o (mem_prune prune (List.mem_of_getLast? hlast))
    simp only [ObservationWindow.newestObservationAgeMs, hlast, Option.map_some, Option.getD_some]
    exact truncate_nonneg (by linarith)

/-- No signal comes of an empty window and of no other, and no signal fails its own check. -/
theorem buildSignal_cases (p : SignalPublisher) (ids : SourceIds) (t : SignalClock)
    (stamp : SignalStamp) (hage : ∀ o ∈ w.observations, o.receivedAt ≤ t.age) :
    ((w.prune t.state).observations = [] ∧
      p.buildSignal ids w t stamp = (p, w.prune t.state, none)) ∨
    (w.prune t.state).observations ≠ [] ∧ ∃ w' msg,
      p.buildSignal ids w t stamp = (p, w', some msg) ∧ audienceStateSignal msg = true ∧
        msg.get? "message_id" = some (.str stamp.messageId) := by
  cases hstate : stateOf w.config (w.prune t.state).data with
  | none =>
    have hempty := (stateOf_eq_none_iff _ _).mp hstate
    refine Or.inl ⟨List.map_eq_nil_iff.mp hempty, ?_⟩
    simp [SignalPublisher.buildSignal, ObservationWindow.computeState, hstate]
  | some state =>
    have hne : (w.prune t.state).observations ≠ [] := by
      intro hnil
      rw [(stateOf_eq_none_iff _ _).mpr (by rw [ObservationWindow.data, hnil]; rfl)] at hstate
      cases hstate
    have hvalid := signal_valid ids stamp
      ((w.prune t.state).prune t.agePrune |>.anyPipelineDegraded t.degraded).2
      (newestAge_nonneg t.agePrune fun o ho => hage o (mem_prune t.state ho))
      (state_valid (stateOf_valid hstate)
        ((((w.prune t.state).prune t.agePrune).prune t.degraded).computeDemographics
          t.demographics).2
        (((((w.prune t.state).prune t.agePrune).prune t.degraded).prune
          t.demographics).computeAttention t.attention).2
        (fun _ hblock => demographicsOf_valid hblock) fun _ hblock => attentionOf_valid hblock)
    refine Or.inr ⟨hne, ((((w.prune t.state).prune t.agePrune).prune t.degraded).prune
      t.demographics).prune t.attention, _, ?_, hvalid, signal_messageId ..⟩
    simp only [SignalPublisher.buildSignal, ObservationWindow.computeState, hstate]
    exact if_pos hvalid

end Build

end AdaptiveAdvertisement.AudienceState
