import AdaptiveAdvertisement.AudienceState.ObservationConsumer
import AdaptiveAdvertisement.AudienceState.SignalValidity

/-!
# What a signal without released demographics tells

Two windows whose observations differ in their demographics alone give signals that differ in their
demographics block alone; where neither block is released, both say that there is nothing to see.
-/

namespace AdaptiveAdvertisement.AudienceState
open Library Contracts

/-! ### Observations -/

/-- The observations differ in nothing but their demographics. -/
def AlikeObservations (o o' : Observation) : Prop :=
  ∀ key, key ≠ "demographics" → o.1.get? key = o'.1.get? key

section Observations

variable {o o' : Observation}

theorem AlikeObservations.refl (o : Observation) : AlikeObservations o o := fun _ _ => rfl

/-- A required member is the same value on both sides. -/
theorem get_congr {required : List String} {properties : List (String × Schema)} {s : Schema}
    {key : String} {v v' : Valid (Schema.object required properties)} (hk : key ∈ required)
    (hs : (key, s) ∈ properties) (h : v.1.get? key = v'.1.get? key) :
    v.get key hk hs = v'.get key hk hs := by
  have hget := Valid.get?_get v hk hs
  have hget' := Valid.get?_get v' hk hs
  rw [h, hget', Option.some.injEq] at hget
  exact Valid.ext hget.symm

theorem get?_congr {required : List String} {properties : List (String × Schema)} {s : Schema}
    {key : String} {v v' : Valid (Schema.object required properties)}
    (hs : (key, s) ∈ properties) (h : v.1.get? key = v'.1.get? key) :
    v.get? key hs = v'.get? key hs := by
  rw [Valid.map_get? v hs, Valid.map_get? v' hs] at h
  exact Option.map_injective (fun _ _ => Valid.ext) h

theorem counts_congr (h : AlikeObservations o o') : o.counts = o'.counts :=
  get_congr _ _ (h "counts" (by decide))

theorem present_congr (h : AlikeObservations o o') : o.present = o'.present := by
  rw [Observation.present, Observation.present, counts_congr h]

theorem confidence_congr (h : AlikeObservations o o') : o.confidence = o'.confidence := by
  rw [Observation.confidence, Observation.confidence, counts_congr h]

theorem pipelineDegraded_congr (h : AlikeObservations o o') :
    o.pipelineDegraded = o'.pipelineDegraded := by
  have hquality : o.quality = o'.quality := get_congr _ _ (h "quality" (by decide))
  rw [Observation.pipelineDegraded, Observation.pipelineDegraded, hquality]

theorem attention_congr (h : AlikeObservations o o') : o.attention = o'.attention :=
  get?_congr _ (h "attention" (by decide))

end Observations

section Lists

variable {os os' : List Observation}

theorem map_congr₂ {α : Type} {f : Observation → α}
    (hf : ∀ o o', AlikeObservations o o' → f o = f o')
    (h : List.Forall₂ AlikeObservations os os') :
    os.map f = os'.map f := by
  induction h with
  | nil => rfl
  | cons ho _ ih => rw [List.map_cons, List.map_cons, hf _ _ ho, ih]

theorem smoothedCount_congr (h : List.Forall₂ AlikeObservations os os') :
    smoothedCount os = smoothedCount os' := by
  rw [smoothedCount, smoothedCount, map_congr₂ (fun _ _ => present_congr) h, h.length_eq]

theorem smoothedConfidence_congr (config : WindowConfig)
    (h : List.Forall₂ AlikeObservations os os') :
    smoothedConfidence config os = smoothedConfidence config os' := by
  simp only [smoothedConfidence, meanConfidence, map_congr₂ (fun _ _ => confidence_congr) h]

theorem anyPipelineDegraded_congr (h : List.Forall₂ AlikeObservations os os') :
    anyPipelineDegraded os = anyPipelineDegraded os' := by
  have hany : ∀ l : List Observation,
      anyPipelineDegraded l = (l.map Observation.pipelineDegraded).any id :=
    fun l => by rw [List.any_map]; rfl
  rw [hany, hany, map_congr₂ (fun _ _ => pipelineDegraded_congr) h]

theorem stateOf_congr (config : WindowConfig) (h : List.Forall₂ AlikeObservations os os') :
    stateOf config os = stateOf config os' := by
  have hempty : os.isEmpty = os'.isEmpty := by cases h <;> rfl
  simp only [stateOf, hempty, h.length_eq, smoothedCount_congr h, smoothedConfidence_congr config h,
    anyPipelineDegraded_congr h]

theorem attentionOf_congr (av : Averages) (h : List.Forall₂ AlikeObservations os os') :
    attentionOf av os = attentionOf av os' := by
  have hattention : ∀ l : List Observation,
      l.filterMap Observation.attention = (l.map Observation.attention).filterMap id :=
    fun l => by rw [List.filterMap_map]; rfl
  rw [attentionOf, attentionOf, hattention, hattention,
    map_congr₂ (fun _ _ => attention_congr) h]

end Lists

/-! ### Windows -/

structure AlikeStored (o o' : Stored) : Prop where
  data : AlikeObservations o.data o'.data
  receivedAt : o.receivedAt = o'.receivedAt

structure AlikeWindows (w w' : ObservationWindow) : Prop where
  config : w.config = w'.config
  observations : List.Forall₂ AlikeStored w.observations w'.observations
  totalAdded : w.totalAdded = w'.totalAdded

section Windows

variable {w w' : ObservationWindow}

theorem filter_alike {os os' : List Stored} (h : List.Forall₂ AlikeStored os os')
    (p : ℚ → Bool) : List.Forall₂ AlikeStored (os.filter fun o => p o.receivedAt)
      (os'.filter fun o => p o.receivedAt) := by
  induction h with
  | nil => exact List.Forall₂.nil
  | cons ho _ ih =>
    rw [List.filter_cons, List.filter_cons, ho.receivedAt]
    split
    · exact List.Forall₂.cons ho ih
    · exact ih

theorem prune_alike (h : AlikeWindows w w') (now : ℚ) :
    AlikeWindows (w.prune now) (w'.prune now) := by
  refine ⟨h.config, ?_, h.totalAdded⟩
  rw [ObservationWindow.prune, ObservationWindow.prune, h.config]
  exact filter_alike h.observations fun t => decide (now - (w'.config.windowMs : ℚ) / 1000 ≤ t)

theorem add_alike (h : AlikeWindows w w') {o o' : Observation} (ho : AlikeObservations o o')
    (t : AddClock) : AlikeWindows (w.add o t) (w'.add o' t) := by
  have hpruned := prune_alike h t.prune
  refine ⟨h.config, ?_, ?_⟩
  · exact List.rel_append hpruned.observations
      (List.Forall₂.cons ⟨ho, rfl⟩ List.Forall₂.nil)
  · exact congrArg (· + 1) h.totalAdded

theorem data_alike (h : AlikeWindows w w') : List.Forall₂ AlikeObservations w.data w'.data := by
  rw [ObservationWindow.data, ObservationWindow.data, List.forall₂_map_left_iff,
    List.forall₂_map_right_iff]
  exact h.observations.imp fun _ _ ho => ho.data

theorem newestAge_alike (h : AlikeWindows w w') (now read : ℚ) :
    (w.newestObservationAgeMs now read).2 = (w'.newestObservationAgeMs now read).2 := by
  have hpruned := (prune_alike h now).observations
  have htimes : (w.prune now).observations.map Stored.receivedAt =
      (w'.prune now).observations.map Stored.receivedAt := by
    refine List.forall₂_eq_eq_eq ▸ ?_
    rw [List.forall₂_map_left_iff, List.forall₂_map_right_iff]
    exact hpruned.imp fun _ _ ho => ho.receivedAt
  have hage : ∀ os : List Stored,
      (os.getLast?.map fun o => truncate ((read - o.receivedAt) * 1000)) =
        (os.map Stored.receivedAt).getLast?.map fun t => truncate ((read - t) * 1000) := by
    intro os
    rw [List.getLast?_map, Option.map_map]
    rfl
  simp only [ObservationWindow.newestObservationAgeMs, hage, htimes]

end Windows

/-! ### Signals -/

/-- Nothing is said of demographics, or that they are suppressed. -/
def WithheldBlock (demog : Option Json) : Prop := demog = none ∨ demog = some suppressedBlock

def releases (msg : Json) : Bool :=
  match msg.at? ["state", "demographics", "suppressed"] with
  | some (.bool false) => true
  | _ => false

/-- Two signals that are valid and differ in what they say of withheld demographics alone. -/
structure AlikeSignals (msg msg' : Json) : Prop where
  written : ∃ (ids : SourceIds) (stamp : SignalStamp) (presence stability : Json) (ageMs : ℤ)
    (degraded : Bool) (demog demog' attn : Option Json),
      msg = signal ids stamp [("presence", presence), ("stability", stability)] ageMs degraded
        demog attn ∧
      msg' = signal ids stamp [("presence", presence), ("stability", stability)] ageMs degraded
        demog' attn ∧
      WithheldBlock demog ∧ WithheldBlock demog'
  valid : audienceStateSignal msg = true
  valid' : audienceStateSignal msg' = true

section Signals

variable {config : WindowConfig} {os : List Observation}

theorem at?_demographics (ids : SourceIds) (stamp : SignalStamp) (p s : Json) (ageMs : ℤ)
    (degraded : Bool) (demog attn : Option Json) (keys : List String) :
    (signal ids stamp [("presence", p), ("stability", s)] ageMs degraded demog attn).at?
      ("state" :: "demographics" :: keys) = demog.bind fun block => block.at? keys := by
  cases demog <;> cases attn <;> simp [signal, Json.at?, entry, Dict.find]

/-- A block that does not release is the one that says so. -/
theorem withheldBlock_of_releases {ids : SourceIds} {stamp : SignalStamp} {p s : Json} {ageMs : ℤ}
    {degraded : Bool} {attn : Option Json}
    (h : releases (signal ids stamp [("presence", p), ("stability", s)] ageMs degraded
      (demographicsOf config os) attn) = false) : WithheldBlock (demographicsOf config os) := by
  cases hblock : demographicsOf config os with
  | none => exact Or.inl rfl
  | some block =>
    rcases demographicsOf_cases hblock with rfl | ⟨-, -, -, ages, -, rfl⟩
    · exact Or.inr rfl
    · have hfalse := releasedBlock_suppressed config.averages ages
        (os.filterMap Observation.demographics)
      rw [releases, at?_demographics, hblock, Option.bind_some, Json.at?_of_get? hfalse] at h
      cases h

end Signals

section Build

variable {w w' : ObservationWindow} {ids : SourceIds} {t : SignalClock} {stamp : SignalStamp}

/-- The window after the five queries. -/
def queriedWindow (w : ObservationWindow) (t : SignalClock) : ObservationWindow :=
  ((((w.prune t.state).prune t.agePrune).prune t.degraded).prune t.demographics).prune t.attention

def demographicsAt (w : ObservationWindow) (t : SignalClock) : Option Json :=
  ((((w.prune t.state).prune t.agePrune).prune t.degraded).computeDemographics t.demographics).2

def attentionAt (w : ObservationWindow) (t : SignalClock) : Option Json :=
  (((((w.prune t.state).prune t.agePrune).prune t.degraded).prune
    t.demographics).computeAttention t.attention).2

def degradedAt (w : ObservationWindow) (t : SignalClock) : Bool :=
  (((w.prune t.state).prune t.agePrune).anyPipelineDegraded t.degraded).2

def ageAt (w : ObservationWindow) (t : SignalClock) : ℤ :=
  ((w.prune t.state).newestObservationAgeMs t.agePrune t.age).2.getD 0

/-- The signal of a state, before it is checked. -/
def composed (ids : SourceIds) (w : ObservationWindow) (t : SignalClock) (stamp : SignalStamp)
    (state : List (String × Json)) : Json :=
  signal ids stamp state (ageAt w t) (degradedAt w t) (demographicsAt w t) (attentionAt w t)

theorem buildSignal_none {p : SignalPublisher}
    (h : stateOf w.config (w.prune t.state).data = none) :
    p.buildSignal ids w t stamp = (p, w.prune t.state, none) := by
  simp [SignalPublisher.buildSignal, ObservationWindow.computeState, h]

theorem buildSignal_composed {p : SignalPublisher} {state : List (String × Json)}
    (h : stateOf w.config (w.prune t.state).data = some state) :
    p.buildSignal ids w t stamp =
      if audienceStateSignal (composed ids w t stamp state) then
        (p, queriedWindow w t, some (composed ids w t stamp state))
      else
        ({ p with validationFailures := p.validationFailures + 1 }, queriedWindow w t, none) := by
  simp only [SignalPublisher.buildSignal, ObservationWindow.computeState, h]
  rfl

theorem queriedWindow_alike (h : AlikeWindows w w') (t : SignalClock) :
    AlikeWindows (queriedWindow w t) (queriedWindow w' t) :=
  prune_alike (prune_alike (prune_alike (prune_alike (prune_alike h _) _) _) _) _

/-- Only the age can fail the check. -/
theorem signal_valid_iff {state : List (String × Json)} {ageMs : ℤ} {degraded : Bool}
    {demog attn : Option Json} (hstate : audienceState
      (.obj (state ++ entry "demographics" demog ++ entry "attention" attn)) = true) :
    audienceStateSignal (signal ids stamp state ageMs degraded demog attn) = true ↔
      0 ≤ ageMs := by
  refine ⟨fun h => ?_, fun h => signal_valid ids stamp degraded h hstate⟩
  obtain ⟨quality, hquality, hvalid⟩ := signal_sourceQuality h
  have hread : (signal ids stamp state ageMs degraded demog attn).get? "source_quality" =
      some (.obj [("signal_age_ms", .int ageMs), ("pipeline_degraded", .bool degraded),
        ("observations_dropped", .int 0)]) := by
    simp [signal, Dict.find]
  obtain rfl := Option.some.inj (hread.symm.trans hquality)
  exact (count_int_iff ageMs).mp
    (Schema.object_property hvalid (k := "signal_age_ms") (s := count) (by simp) rfl)

theorem composed_valid_iff {state : List (String × Json)}
    (h : stateOf w.config (w.prune t.state).data = some state) :
    audienceStateSignal (composed ids w t stamp state) = true ↔ 0 ≤ ageAt w t :=
  signal_valid_iff (state_valid (stateOf_valid h) _ _ (fun _ hblock => demographicsOf_valid hblock)
    fun _ hblock => attentionOf_valid hblock)

/-- The two signals can differ in their demographics alone. -/
theorem composed_alike (h : AlikeWindows w w') (state : List (String × Json)) :
    composed ids w' t stamp state = signal ids stamp state (ageAt w t) (degradedAt w t)
      (demographicsAt w' t) (attentionAt w t) := by
  have hpruned := prune_alike h t.state
  have hdegraded := prune_alike hpruned t.agePrune
  have hlast := prune_alike (prune_alike hdegraded t.degraded) t.demographics
  have hage : ageAt w t = ageAt w' t :=
    congrArg (fun age : Option ℤ => age.getD 0) (newestAge_alike hpruned t.agePrune t.age)
  have hpipeline : degradedAt w t = degradedAt w' t :=
    anyPipelineDegraded_congr (data_alike (prune_alike hdegraded t.degraded))
  have hattention : attentionAt w t = attentionAt w' t := by
    have hobservations := data_alike (prune_alike hlast t.attention)
    rw [attentionAt, attentionAt, ObservationWindow.computeAttention,
      ObservationWindow.computeAttention, attentionOf_congr _ hobservations, hlast.config]
  rw [composed, hage, hpipeline, hattention]

/-- No signal, or one that releases no demographics. -/
def ReleasesNone (msg : Option Json) : Prop := msg.all (fun msg => !releases msg) = true

instance (msg : Option Json) : Decidable (ReleasesNone msg) :=
  inferInstanceAs (Decidable (msg.all (fun msg => !releases msg) = true))

/-- Windows alike stay alike, and where neither signal releases demographics these are too. -/
theorem buildSignal_alike (h : AlikeWindows w w') (p : SignalPublisher) (ids : SourceIds)
    (t : SignalClock) (stamp : SignalStamp) :
    (p.buildSignal ids w t stamp).1 = (p.buildSignal ids w' t stamp).1 ∧
      AlikeWindows (p.buildSignal ids w t stamp).2.1 (p.buildSignal ids w' t stamp).2.1 ∧
      (ReleasesNone (p.buildSignal ids w t stamp).2.2 →
        ReleasesNone (p.buildSignal ids w' t stamp).2.2 →
        Option.Rel AlikeSignals (p.buildSignal ids w t stamp).2.2
          (p.buildSignal ids w' t stamp).2.2) := by
  have hpruned := prune_alike h t.state
  have hstates : stateOf w.config (w.prune t.state).data =
      stateOf w'.config (w'.prune t.state).data := by
    rw [h.config]
    exact stateOf_congr _ (data_alike hpruned)
  cases hstate : stateOf w.config (w.prune t.state).data with
  | none =>
    rw [buildSignal_none hstate, buildSignal_none (hstates.symm.trans hstate)]
    exact ⟨rfl, hpruned, fun _ _ => Option.Rel.none⟩
  | some state =>
    have hstate' := hstates.symm.trans hstate
    have hage : ageAt w t = ageAt w' t :=
      congrArg (fun age : Option ℤ => age.getD 0) (newestAge_alike hpruned t.agePrune t.age)
    have hvalid : audienceStateSignal (composed ids w t stamp state) =
        audienceStateSignal (composed ids w' t stamp state) := by
      rw [Bool.eq_iff_iff, composed_valid_iff hstate, composed_valid_iff hstate', hage]
    rw [buildSignal_composed hstate, buildSignal_composed hstate', ← hvalid]
    by_cases hok : audienceStateSignal (composed ids w t stamp state) = true
    · rw [if_pos hok, if_pos hok]
      refine ⟨rfl, queriedWindow_alike h t, fun hw hw' =>
        Option.Rel.some ⟨?_, hok, hvalid ▸ hok⟩⟩
      have hquiet : releases (composed ids w t stamp state) = false := by
        simpa [ReleasesNone] using hw
      have hquiet' : releases (composed ids w' t stamp state) = false := by
        simpa [ReleasesNone] using hw'
      obtain ⟨presence, stability, rfl, -, -⟩ := stateOf_valid hstate
      refine ⟨ids, stamp, presence, stability, ageAt w t, degradedAt w t, demographicsAt w t,
        demographicsAt w' t, attentionAt w t, rfl, composed_alike h _,
        withheldBlock_of_releases hquiet, withheldBlock_of_releases hquiet'⟩
    · rw [if_neg hok, if_neg hok]
      exact ⟨rfl, queriedWindow_alike h t, fun _ _ => Option.Rel.none⟩

end Build

/-! ### The consumer -/

/-- Both texts are observations that differ in nothing but their demographics. -/
def AlikeTexts {τ : Type} (cd : Codec τ) (raw raw' : τ) : Prop :=
  ∃ o o' : Observation, cd.loads raw = .value o.1 ∧ cd.loads raw' = .value o'.1 ∧
    AlikeObservations o o'

structure AlikeConsumers (c c' : ObservationConsumer) : Prop where
  window : AlikeWindows c.window c'.window
  inbox : c.inbox = c'.inbox

section Consumers

variable {τ : Type} {cd : Codec τ} {c c' : ObservationConsumer}

theorem process_same (h : AlikeConsumers c c') (raw : τ) (t : AddClock) :
    AlikeConsumers (c.process cd raw t).1 (c'.process cd raw t).1 := by
  unfold ObservationConsumer.process
  rw [h.inbox]
  rcases c'.inbox.receive cvObservation "message_id" maxSeenIds (cd.loads raw) with
    ⟨inbox, _ | _ | msg⟩
  · exact ⟨h.window, rfl⟩
  · exact ⟨h.window, rfl⟩
  · exact ⟨add_alike h.window (AlikeObservations.refl msg) t, rfl⟩

theorem process_alike (h : AlikeConsumers c c') {raw raw' : τ} (hraw : AlikeTexts cd raw raw')
    (t : AddClock) : AlikeConsumers (c.process cd raw t).1 (c'.process cd raw' t).1 := by
  obtain ⟨o, o', hload, hload', halike⟩ := hraw
  obtain ⟨id, hid⟩ : ∃ id, o.1.get? "message_id" = some (.str id) := by
    obtain ⟨v, hv, hvalid⟩ := Schema.object_required o.2 (k := "message_id") (s := identifier)
      (by simp) (by simp)
    obtain ⟨id, rfl, -⟩ := identifier_iff.mp hvalid
    exact ⟨id, hv⟩
  have hid' : o'.1.get? "message_id" = some (.str id) :=
    (halike "message_id" (by decide)).symm.trans hid
  cases hseen : c.inbox.seenIds.contains id with
  | false =>
    rw [ObservationConsumer.process_fresh hload o.2 hid hseen,
      ObservationConsumer.process_fresh hload' o'.2 hid' (h.inbox ▸ hseen)]
    exact ⟨add_alike h.window halike t, congrArg (fun b => b.accept maxSeenIds id) h.inbox⟩
  | true =>
    have hseen' : c'.inbox.seenIds.contains id = true := h.inbox ▸ hseen
    have hkept : (c.process cd raw t).1 = c := by
      simp [ObservationConsumer.process, hload, Inbox.receive, o.2, strMember_of_get? hid, hseen]
    have hkept' : (c'.process cd raw' t).1 = c' := by
      simp [ObservationConsumer.process, hload', Inbox.receive, o'.2, strMember_of_get? hid',
        hseen']
    rw [hkept, hkept']
    exact h

end Consumers

end AdaptiveAdvertisement.AudienceState
