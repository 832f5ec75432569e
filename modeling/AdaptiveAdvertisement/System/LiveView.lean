import AdaptiveAdvertisement.Dashboard.AudienceSink
import AdaptiveAdvertisement.System.SignalSnapshot

/-!
# From the audience signal to the live view

A signal of the publisher, stored by the audience sink and shown as the latest snapshot. A snapshot
has no column for the freeze decision: the view takes it to be that the state is not stable
(`routers/system.py:339`).
-/

namespace AdaptiveAdvertisement.System
open Library Contracts AudienceState Dashboard
open DecisionOptimizer (memberOr)
open Player (withUtcOffset)

/-- Where there is no demographics block they count as suppressed. -/
def suppressionOf : Option Json → Option Json
  | none => some (.bool true)
  | some block => block.get? "suppressed"

structure ReportsSignal (msg : Json) (cv : CvLiveOut) : Prop where
  count : msg.at? ["state", "presence", "count"] = cv.count.map Json.int
  confidence : msg.at? ["state", "presence", "confidence"] = cv.confidence.map Number.toJson
  stateStable : msg.at? ["state", "stability", "state_stable"] = cv.stateStable.map Json.bool
  freezeDecision :
    msg.at? ["state", "stability", "freeze_decision"] = cv.freezeDecision.map Json.bool
  suppressed : suppressionOf (msg.at? ["state", "demographics"]) =
    cv.demographics.map fun d => .bool d.suppressed

/-- Enough observations for a stable state are confident, and none comes of a degraded pipeline. -/
def FreezesOnlyUnstable (config : WindowConfig) (os : List Observation) : Prop :=
  config.minStability ≤ os.length →
    (smoothedConfidence config os).below config.confThreshold = false ∧
      ∀ o ∈ os, o.pipelineDegraded = false

/-! ### The state block of a signal -/

def stable (config : WindowConfig) (os : List Observation) : Bool :=
  decide (config.minStability ≤ os.length)

def freezes (config : WindowConfig) (os : List Observation) : Bool :=
  !stable config os || (smoothedConfidence config os).below config.confThreshold ||
    anyPipelineDegraded os

def presenceBlock (config : WindowConfig) (os : List Observation) : Json :=
  .obj [("count", .int (smoothedCount os)),
    ("confidence", (smoothedConfidence config os).toJson)]

def stabilityBlock (config : WindowConfig) (os : List Observation) : Json :=
  .obj [("state_stable", .bool (stable config os)), ("freeze_decision", .bool (freezes config os)),
    ("observations_in_window", .int os.length)]

def stateBlock (config : WindowConfig) (os : List Observation) (demog attn : Option Json) : Json :=
  .obj ([("presence", presenceBlock config os), ("stability", stabilityBlock config os)] ++
    entry "demographics" demog ++ entry "attention" attn)

section Signal

variable {ids : SourceIds} {stamp : SignalStamp} {w : ObservationWindow} {t : SignalClock}
  {p : SignalPublisher} {msg : Json}

theorem stateBlock_demographics (config : WindowConfig) (os : List Observation)
    (demog attn : Option Json) :
    (stateBlock config os demog attn).get? "demographics" = demog := by
  cases demog <;> cases attn <;> simp [stateBlock, entry, Dict.find]

/-- A signal is made of what the window holds at the first query and of later blocks. -/
theorem buildSignal_eq_signal (h : (p.buildSignal ids w t stamp).2.2 = some msg) :
    ∃ ageMs degraded os seen, msg = signal ids stamp
      [("presence", presenceBlock w.config (w.prune t.state).data),
        ("stability", stabilityBlock w.config (w.prune t.state).data)]
      ageMs degraded (demographicsOf w.config os)
      (attentionOf w.config.averages seen) := by
  obtain ⟨state, hstate, rfl⟩ := buildSignal_queried h
  unfold stateOf at hstate
  split_ifs at hstate with hempty
  obtain rfl := Option.some.inj hstate
  exact ⟨_, _, _, _, rfl⟩

theorem buildSignal_state (h : (p.buildSignal ids w t stamp).2.2 = some msg) :
    ∃ os attn, msg.get? "state" =
      some (stateBlock w.config (w.prune t.state).data (demographicsOf w.config os) attn) := by
  obtain ⟨ageMs, degraded, os, seen, rfl⟩ := buildSignal_eq_signal h
  exact ⟨os, attentionOf w.config.averages seen, rfl⟩

/-- The suppression that the sink reads is the one that the signal carries. -/
theorem suppression_read (config : WindowConfig) (os : List Observation) :
    ∃ b, memberOr ((demographicsOf config os).getD (.obj [])) "suppressed" (.bool true) =
        .ok (.bool b) ∧
      suppressionOf (demographicsOf config os) = some (.bool b) := by
  cases hblock : demographicsOf config os with
  | none => exact ⟨true, rfl, rfl⟩
  | some block =>
    rcases demographicsOf_cases hblock with rfl | ⟨-, -, -, ages, -, rfl⟩
    · exact ⟨true, rfl, rfl⟩
    · have hfalse := releasedBlock_suppressed config.averages ages
        (os.filterMap Observation.demographics)
      exact ⟨false, memberOr_of_get? _ hfalse, hfalse⟩

/-- What the row of a signal holds. -/
theorem snapshot_of_signal {τ : Type} {rt : SinkRuntime τ} {row : AudienceSnapshot}
    (hbuilt : (p.buildSignal ids w t stamp).2.2 = some msg)
    (hparsed : rt.parseSnapshot (rt.dumps msg) = .ok (some row)) :
    row.presenceCount = smoothedCount (w.prune t.state).data ∧
      row.presenceConfidence = smoothedConfidence w.config (w.prune t.state).data ∧
      row.stateStable = stable w.config (w.prune t.state).data ∧
      suppressionOf (msg.at? ["state", "demographics"]) =
        some (.bool row.demographicsSuppressed.truthy) := by
  obtain ⟨os, attn, hstate⟩ := buildSignal_state hbuilt
  generalize hdata : (w.prune t.state).data = data at hstate
  obtain ⟨b, hread, hcarried⟩ := suppression_read w.config os
  have hdemographics := stateBlock_demographics w.config data (demographicsOf w.config os) attn
  have hblock : memberOr (stateBlock w.config data (demographicsOf w.config os) attn)
      "demographics" (.obj []) = .ok ((demographicsOf w.config os).getD (.obj [])) :=
    congrArg (fun block : Option Json => Except.ok (block.getD (.obj []))) hdemographics
  have hpresence : (stateBlock w.config data (demographicsOf w.config os) attn).get? "presence" =
      some (presenceBlock w.config data) := rfl
  have hstability : (stateBlock w.config data (demographicsOf w.config os) attn).get?
      "stability" = some (stabilityBlock w.config data) := rfl
  obtain ⟨hcount, hconfidence, hstable, hsuppressed⟩ := readSnapshot_fields hstate hpresence
    hstability rfl rfl rfl hblock hread (parseSnapshot_read hparsed)
  rw [Number.toInt_int, Except.ok.injEq] at hcount
  refine ⟨hcount.symm, Number.eq_of_toFloat hconfidence, hstable, ?_⟩
  have hat : msg.at? ["state", "demographics"] = demographicsOf w.config os := by
    rw [Json.at?, hstate, Option.bind_some, Json.at?, hdemographics]
    cases demographicsOf w.config os <;> rfl
  rw [hat, hcarried, hsuppressed]
  rfl

theorem signal_fields (h : (p.buildSignal ids w t stamp).2.2 = some msg) :
    msg.at? ["state", "presence", "count"] = some (.int (smoothedCount (w.prune t.state).data)) ∧
      msg.at? ["state", "presence", "confidence"] =
        some (smoothedConfidence w.config (w.prune t.state).data).toJson ∧
      msg.at? ["state", "stability", "state_stable"] =
        some (.bool (stable w.config (w.prune t.state).data)) ∧
      msg.at? ["state", "stability", "freeze_decision"] =
        some (.bool (freezes w.config (w.prune t.state).data)) := by
  obtain ⟨os, attn, hstate⟩ := buildSignal_state h
  simp only [Json.at?_of_get? hstate]
  exact ⟨rfl, rfl, rfl, rfl⟩

theorem freezes_iff (config : WindowConfig) (os : List Observation) :
    freezes config os = !stable config os ↔ FreezesOnlyUnstable config os := by
  unfold freezes FreezesOnlyUnstable
  cases hstable : stable config os with
  | false =>
    have hfew : ¬ config.minStability ≤ os.length := of_decide_eq_false hstable
    simp [hfew]
  | true =>
    have hmany : config.minStability ≤ os.length := of_decide_eq_true hstable
    simp [hmany, anyPipelineDegraded]

section Stored

variable {τ : Type} {rt : SinkRuntime τ} {row : AudienceSnapshot}

/-- No signal of the publisher is dropped by the sink, if its time can be read. -/
theorem signal_stored {instant : ℚ} (hage : ∀ o ∈ w.observations, o.receivedAt ≤ t.age)
    (hne : (w.prune t.state).observations ≠ [])
    (htime : rt.fromisoformat (withUtcOffset stamp.producedAt) = some instant) :
    ∃ msg row, (p.buildSignal ids w t stamp).2.2 = some msg ∧
      rt.parseSnapshot (rt.dumps msg) = .ok (some row) := by
  rcases buildSignal_cases p ids t stamp hage with
    ⟨hempty, -⟩ | ⟨-, w', msg, hbuild, hvalid, -⟩
  · exact absurd hempty hne
  · have hbuilt : (p.buildSignal ids w t stamp).2.2 = some msg := by rw [hbuild]
    have hproduced : msg.get? "produced_at" = some (.str stamp.producedAt) := by
      obtain ⟨ageMs, degraded, os, seen, rfl⟩ := buildSignal_eq_signal hbuilt
      rfl
    obtain ⟨row, hparsed, -⟩ := parseSnapshot_valid hvalid hproduced htime
    exact ⟨msg, row, hbuilt, hparsed⟩

/-- All but the freeze decision is shown as it was carried. -/
theorem reportsSignal_iff_freezes (hbuilt : (p.buildSignal ids w t stamp).2.2 = some msg)
    (hparsed : rt.parseSnapshot (rt.dumps msg) = .ok (some row)) {query : LatestQuery}
    {rows : List AudienceSnapshot} (hlatest : query.pick rows = some row) (now : ℚ) :
    ReportsSignal msg (getLiveCv query now rows) ↔
      freezes w.config (w.prune t.state).data = !stable w.config (w.prune t.state).data := by
  obtain ⟨hcount, hconfidence, hstable, hfreeze⟩ := signal_fields hbuilt
  obtain ⟨hrowCount, hrowConfidence, hrowStable, hsuppression⟩ :=
    snapshot_of_signal hbuilt hparsed
  rw [getLiveCv, hlatest]
  refine ⟨fun h => ?_, fun h => ⟨?_, ?_, ?_, ?_, hsuppression⟩⟩
  · have hshown := h.freezeDecision
    rw [hfreeze, cvLive, hrowStable] at hshown
    exact Json.bool.inj (Option.some.inj hshown)
  · rw [hcount, cvLive, hrowCount]
    rfl
  · rw [hconfidence, cvLive, hrowConfidence]
    rfl
  · rw [hstable, cvLive, hrowStable]
    rfl
  · rw [hfreeze, h, cvLive, hrowStable]
    rfl

/-- However confidences are averaged and rounded, the live view of the latest snapshot shows what
its signal carried exactly where the signal freezes for want of observations or not at all. -/
theorem reportsSignal_iff (hbuilt : (p.buildSignal ids w t stamp).2.2 = some msg)
    (hparsed : rt.parseSnapshot (rt.dumps msg) = .ok (some row)) {query : LatestQuery}
    {rows : List AudienceSnapshot} (hlatest : query.pick rows = some row) (now : ℚ) :
    ReportsSignal msg (getLiveCv query now rows) ↔
      FreezesOnlyUnstable w.config (w.prune t.state).data :=
  (reportsSignal_iff_freezes hbuilt hparsed hlatest now).trans (freezes_iff _ _)

end Stored

end Signal

/-! ### Three observations at a time -/

def argmaxQuery : LatestQuery where
  pick := List.argmax AudienceSnapshot.sampledAt
  mem := fun _ _ h => List.argmax_mem h
  latest := fun _ _ h _ hother => List.le_of_mem_argmax hother h
  answers := fun _ h => List.argmax_eq_none.mp h

def viewRuntime : SinkRuntime Json where
  toCodec := jsonCodec
  texts := ⟨fun _ => none, fun _ => none⟩
  fromisoformat := fun s => if s = "2026-01-01T00:00:05.000+00:00" then some 1767225605 else none

def crowdJson (confidence : ℚ) (degraded : Bool) : Json :=
  .obj [("schema_version", .str "1.0.0"), ("message_type", .str "cv_observation"),
    ("message_id", .str "obs-1"), ("produced_at", .str "2026-01-01T00:00:00Z"),
    ("tenant_id", .str "tenant-1"), ("site_id", .str "site-1"), ("camera_id", .str "cam-1"),
    ("pipeline_id", .str "pipe-1"), ("frame_seq", .int 1), ("window_ms", .int 100),
    ("counts", .obj [("present", .int 2), ("confidence", .num confidence)]),
    ("quality", .obj [("frames_processed", .int 3), ("frames_dropped", .int 0),
      ("pipeline_degraded", .bool degraded)]),
    ("privacy", .obj [("contains_images", .bool false), ("contains_frame_urls", .bool false),
      ("contains_face_embeddings", .bool false)])]

def crowdObservation : Observation := Valid.of (crowdJson (9 / 10) false) (by decide +kernel)

def degradedObservation : Observation := Valid.of (crowdJson (9 / 10) true) (by decide +kernel)

def doubtfulObservation : Observation := Valid.of (crowdJson (1 / 10) false) (by decide +kernel)

/-- The averages are those of floats. -/
def threeOf (o : Observation) : ObservationWindow where
  config := { defaultConfig with averages := .binary64 }
  observations := [⟨o, 0⟩, ⟨o, 0⟩, ⟨o, 0⟩]
  totalAdded := 3

theorem threeOf_stored (o : Observation) :
    ∃ msg row, (({} : SignalPublisher).buildSignal pilotIds (threeOf o) (.at 0) pilotStamp).2.2 =
        some msg ∧ viewRuntime.parseSnapshot (viewRuntime.dumps msg) = .ok (some row) := by
  have htime : viewRuntime.fromisoformat (withUtcOffset pilotStamp.producedAt) =
      some 1767225605 := by decide +kernel
  refine signal_stored ?_ ?_ htime
  · simp [threeOf, SignalClock.at]
  · have hkept : (0 : ℚ) ≤ 5000 / 1000 := by norm_num
    simp [threeOf, SignalClock.at, ObservationWindow.prune, defaultConfig, hkept]

theorem crowd_reported : ∃ msg row,
    (({} : SignalPublisher).buildSignal pilotIds (threeOf crowdObservation) (.at 0)
      pilotStamp).2.2 = some msg ∧
    viewRuntime.parseSnapshot (viewRuntime.dumps msg) = .ok (some row) ∧
    ReportsSignal msg (getLiveCv argmaxQuery 1767225606 [row]) := by
  obtain ⟨msg, row, hbuilt, hparsed⟩ := threeOf_stored crowdObservation
  refine ⟨msg, row, hbuilt, hparsed, (reportsSignal_iff hbuilt hparsed rfl 1767225606).mpr ?_⟩
  exact fun _ => ⟨by decide +kernel, by decide +kernel⟩

/-- A degraded camera, or one that is not confident, freezes the content of a stable audience, and
the live view shows the gate as off. -/
theorem freeze_hidden :
    (∃ msg row, (({} : SignalPublisher).buildSignal pilotIds (threeOf degradedObservation) (.at 0)
        pilotStamp).2.2 = some msg ∧
      viewRuntime.parseSnapshot (viewRuntime.dumps msg) = .ok (some row) ∧
      ¬ ReportsSignal msg (getLiveCv argmaxQuery 1767225606 [row])) ∧
    ∃ msg row, (({} : SignalPublisher).buildSignal pilotIds (threeOf doubtfulObservation) (.at 0)
        pilotStamp).2.2 = some msg ∧
      viewRuntime.parseSnapshot (viewRuntime.dumps msg) = .ok (some row) ∧
      ¬ ReportsSignal msg (getLiveCv argmaxQuery 1767225606 [row]) := by
  refine ⟨?_, ?_⟩
  · obtain ⟨msg, row, hbuilt, hparsed⟩ := threeOf_stored degradedObservation
    refine ⟨msg, row, hbuilt, hparsed, fun h => ?_⟩
    have hshown := (reportsSignal_iff_freezes hbuilt hparsed rfl 1767225606).mp h
    revert hshown
    decide +kernel
  · obtain ⟨msg, row, hbuilt, hparsed⟩ := threeOf_stored doubtfulObservation
    refine ⟨msg, row, hbuilt, hparsed, fun h => ?_⟩
    have hshown := (reportsSignal_iff_freezes hbuilt hparsed rfl 1767225606).mp h
    revert hshown
    decide +kernel

end AdaptiveAdvertisement.System
