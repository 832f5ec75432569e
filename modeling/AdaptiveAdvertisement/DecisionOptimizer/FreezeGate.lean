import AdaptiveAdvertisement.DecisionOptimizer.DecisionLoop
import AdaptiveAdvertisement.Library.Machine

/-!
# When the decision loop switches content (`decision_optimizer/decision_loop.py`)

Over every run of signals and ticks: an activation is sent on a signal that came lately and that
reports neither a degraded pipeline nor a freeze. The age that the signal reports of its own
newest observation is not looked at.
-/

namespace AdaptiveAdvertisement.DecisionOptimizer
open Library Contracts

/-- The optimizer with its hot-swapped policy (`reload_policy` 65-78). -/
structure Optimizer (κ δ : Type) where
  policy : PolicyEngine δ
  consumer : SignalConsumer := {}
  loop : DecisionLoop := {}
  gateway : PlayerGateway κ := {}

structure TickInput (κ δ : Type) where
  now : ℚ
  draw : δ
  stamp : CommandStamp
  alive : κ → Bool

inductive OptimizerStep (τ κ δ : Type) where
  | signal (raw : τ) (now : ℚ)
  | tick (t : TickInput κ δ)
  | connect (ws : κ)
  | close (ws : κ)
  | reloadPolicy (policy : PolicyEngine δ)

def OptimizerStep.now? {τ κ δ : Type} : OptimizerStep τ κ δ → Option ℚ
  | .signal _ now => some now
  | .tick t => some t.now
  | _ => none

/-- What stays fixed in a run: the codec, the texts of numbers, and the configured threshold. -/
structure Setting (τ : Type) where
  codec : Codec τ
  formatting : Formatting
  staleSignalThresholdMs : ℤ

namespace Optimizer

variable {τ κ δ : Type} [DecidableEq κ] (st : Setting τ)

def cfg (s : Optimizer κ δ) : LoopConfig δ :=
  ⟨s.policy, st.formatting, st.staleSignalThresholdMs⟩

def decision (s : Optimizer κ δ) (t : TickInput κ δ) : Decision :=
  s.loop.decide (s.cfg st) s.consumer t.now t.draw

def tick (s : Optimizer κ δ) (t : TickInput κ δ) :
    DecisionLoop × PlayerGateway κ × Option (Broadcast κ τ) :=
  s.loop.tick (s.cfg st) st.codec s.consumer s.gateway t.now t.draw t.stamp t.alive

def step (s : Optimizer κ δ) :
    OptimizerStep τ κ δ → Optimizer κ δ × Option (Broadcast κ τ)
  | .signal raw now => ({ s with consumer := (s.consumer.process st.codec raw now).1 }, none)
  | .tick t =>
    let r := s.tick st t
    ({ s with loop := r.1, gateway := r.2.1 }, r.2.2)
  | .connect ws =>
    ({ s with gateway := { s.gateway with connections := insert ws s.gateway.connections } }, none)
  | .close ws =>
    ({ s with gateway := { s.gateway with connections := s.gateway.connections.erase ws } }, none)
  | .reloadPolicy policy => ({ s with policy := policy }, none)

end Optimizer

variable {τ κ δ : Type} [DecidableEq κ]

def optimizing (st : Setting τ) (policy : PolicyEngine δ) :
    Machine (Optimizer κ δ) (OptimizerStep τ κ δ) (Option (Broadcast κ τ)) where
  init := { policy := policy }
  step := fun s i => s.step st i

/-! ### The law -/

def reportedAge (signal : Json) : Option ℤ :=
  (signal.at? ["source_quality", "signal_age_ms"]).bind Json.asInt?

/-- The latest signal came lately, reports a recent observation, and neither degradation nor a
freeze. Ages are in whole milliseconds. -/
def Current (staleMs : ℤ) (c : SignalConsumer) (now : ℚ) : Prop :=
  ∃ signal age reported, c.latest = some signal ∧ c.signalAgeMs now = some age ∧
    age ≤ staleMs ∧
    reportedAge signal.1 = some reported ∧ reported ≤ staleMs ∧
    signal.1.at? ["source_quality", "pipeline_degraded"] = some (.bool false) ∧
    signal.1.at? ["state", "stability", "freeze_decision"] = some (.bool false)

def Activates (st : Setting τ) (s : Optimizer κ δ) (t : TickInput κ δ) : Prop :=
  (∃ m r, s.decision st t = .activate m r) ∧ (s.tick st t).2.2.isSome

def ActivatesOnCurrent (st : Setting τ) (s : Optimizer κ δ) : OptimizerStep τ κ δ → Prop
  | .tick t => Activates st s t → Current st.staleSignalThresholdMs s.consumer t.now
  | _ => True

/-- Neither a freeze reason nor the policy, the belief of the loop or the gateway holds the tick
back from an activation on this signal. -/
def Unheld (st : Setting τ) (s : Optimizer κ δ) (t : TickInput κ δ) (signal : Json) : Prop :=
  freezeReason st.staleSignalThresholdMs (some signal) (s.consumer.signalAgeMs t.now) = none ∧
    ∃ m, s.policy.evaluate signal t.draw = .ok (some m) ∧
      (some m ≠ s.loop.currentManifestId ∨ s.loop.playerFrozen = true) ∧
      s.gateway.connections ≠ ∅ ∧
      playerCommand (command (s.gateway.sequence + 1) t.stamp "activate_creative"
        (some (activatePayload m s.policy.minDwellMs s.policy.cooldownMs
          (some (rationale st.formatting signal s.loop.playerFrozen))))) = true

/-- No tick that nothing else holds back finds a latest signal that reports a stale age. -/
def ReportsRecent (st : Setting τ) (s : Optimizer κ δ) : OptimizerStep τ κ δ → Prop
  | .tick t => ∀ signal, s.consumer.latest = some signal → Unheld st s t signal.1 →
    ∃ reported, reportedAge signal.1 = some reported ∧ reported ≤ st.staleSignalThresholdMs
  | _ => True

/-! ### What a tick takes into account -/

section Tick

variable {st : Setting τ} {s : Optimizer κ δ} {t : TickInput κ δ}

theorem freezeReason_none {staleMs : ℤ} {signal : Json} {age : Option ℤ}
    (h : freezeReason staleMs (some signal) age = none) :
    (∀ a, age = some a → a ≤ staleMs) ∧
      flag signal ["source_quality", "pipeline_degraded"] = false ∧
      flag signal ["state", "stability", "freeze_decision"] = false := by
  simp only [freezeReason] at h
  split at h
  · cases h
  next hage =>
    split at h
    · cases h
    next hdegraded =>
      split at h
      · cases h
      next hfreeze =>
        refine ⟨fun a ha => ?_, by simpa using hdegraded, by simpa using hfreeze⟩
        rw [ha] at hage
        simpa using hage

section Decide

variable {cfg : LoopConfig δ} {loop : DecisionLoop} {c : SignalConsumer} {now : ℚ} {draw : δ}
  {signal : Valid audienceStateSignal}

theorem decide_held {reason : String} (hlatest : c.latest = some signal)
    (hreason : freezeReason cfg.staleSignalThresholdMs (some signal.1) (c.signalAgeMs now) =
      some reason) :
    loop.decide cfg c now draw = if loop.playerFrozen then .hold else .freeze reason := by
  have hmap : freezeReason cfg.staleSignalThresholdMs (c.latest.map Subtype.val)
      (c.signalAgeMs now) = some reason := by
    rw [hlatest]
    exact hreason
  simp [DecisionLoop.decide, hmap]

theorem decide_unheld (hlatest : c.latest = some signal)
    (hreason : freezeReason cfg.staleSignalThresholdMs (some signal.1) (c.signalAgeMs now) =
      none) :
    loop.decide cfg c now draw =
      match cfg.policy.evaluate signal.1 draw with
      | .error e => .raised e
      | .ok none => .noMatch
      | .ok (some m) =>
        if some m ≠ loop.currentManifestId ∨ loop.playerFrozen = true then
          .activate m (rationale cfg.formatting signal.1 loop.playerFrozen)
        else .unchanged m := by
  have hmap : freezeReason cfg.staleSignalThresholdMs ((some signal).map Subtype.val)
      (c.signalAgeMs now) = none := hreason
  cases heval : cfg.policy.evaluate signal.1 draw with
  | error e => simp only [DecisionLoop.decide, hlatest, hmap, heval]
  | ok candidate =>
    cases candidate with
    | none => simp only [DecisionLoop.decide, hlatest, hmap, heval]
    | some m => simp only [DecisionLoop.decide, hlatest, hmap, heval]

theorem decide_activate_iff (cfg : LoopConfig δ) (loop : DecisionLoop) (c : SignalConsumer)
    (now : ℚ) (draw : δ) (m r : String) :
    loop.decide cfg c now draw = .activate m r ↔
      ∃ signal, c.latest = some signal ∧
        freezeReason cfg.staleSignalThresholdMs (some signal.1) (c.signalAgeMs now) = none ∧
        cfg.policy.evaluate signal.1 draw = .ok (some m) ∧
        (some m ≠ loop.currentManifestId ∨ loop.playerFrozen = true) ∧
        r = rationale cfg.formatting signal.1 loop.playerFrozen := by
  refine ⟨fun h => ?_, fun h => ?_⟩
  · cases hlatest : c.latest with
    | none =>
      have hmap : freezeReason cfg.staleSignalThresholdMs (c.latest.map Subtype.val)
          (c.signalAgeMs now) = none := by
        rw [hlatest]
        rfl
      unfold DecisionLoop.decide at h
      rw [hmap, hlatest] at h
      cases h
    | some signal =>
      cases hreason : freezeReason cfg.staleSignalThresholdMs (some signal.1)
          (c.signalAgeMs now) with
      | some reason =>
        rw [decide_held hlatest hreason] at h
        split at h <;> cases h
      | none =>
        rw [decide_unheld hlatest hreason] at h
        cases heval : cfg.policy.evaluate signal.1 draw with
        | error e => simp [heval] at h
        | ok candidate =>
          cases candidate with
          | none => simp [heval] at h
          | some m' =>
            by_cases hswitch : some m' ≠ loop.currentManifestId ∨ loop.playerFrozen = true
            · simp only [heval, if_pos hswitch, Decision.activate.injEq] at h
              obtain ⟨rfl, rfl⟩ := h
              exact ⟨signal, rfl, hreason, heval, hswitch, rfl⟩
            · simp only [heval, if_neg hswitch] at h
              cases h
  · obtain ⟨signal, hlatest, hreason, heval, hswitch, rfl⟩ := h
    rw [decide_unheld hlatest hreason]
    simp only [heval, if_pos hswitch]

end Decide

/-- An activation goes out exactly when nothing holds the tick back. -/
theorem activates_iff :
    Activates st s t ↔ ∃ signal, s.consumer.latest = some signal ∧
      Unheld st s t signal.1 := by
  have hsent : ∀ m r, s.decision st t = .activate m r → ((s.tick st t).2.2.isSome ↔
      s.gateway.connections ≠ ∅ ∧ playerCommand (command (s.gateway.sequence + 1) t.stamp
        "activate_creative" (some (activatePayload m s.policy.minDwellMs s.policy.cooldownMs
          (some r)))) = true) := by
    intro m r hd
    have htick : (s.tick st t).2.2 = (s.gateway.broadcast st.codec "activate_creative"
        (some (activatePayload m s.policy.minDwellMs s.policy.cooldownMs (some r)))
        t.stamp t.alive).2 := by
      unfold Optimizer.decision at hd
      simp only [Optimizer.tick, DecisionLoop.tick, hd]
      rfl
    rw [htick]
    rw [PlayerGateway.broadcast_eq]
    split
    next hsends => exact ⟨fun _ => hsends, fun _ => rfl⟩
    next hquiet => exact ⟨fun hsome => (by cases hsome), fun hsends => absurd hsends hquiet⟩
  refine ⟨fun h => ?_, fun h => ?_⟩
  · obtain ⟨⟨m, r, hd⟩, hout⟩ := h
    obtain ⟨hconnected, hvalid⟩ := (hsent m r hd).mp hout
    obtain ⟨signal, hlatest, hreason, heval, hswitch, rfl⟩ :=
      (decide_activate_iff _ _ _ _ _ _ _).mp hd
    exact ⟨signal, hlatest, hreason, m, heval, hswitch, hconnected, hvalid⟩
  · obtain ⟨signal, hlatest, hreason, m, heval, hswitch, hconnected, hvalid⟩ := h
    have hd : s.decision st t =
        .activate m (rationale st.formatting signal.1 s.loop.playerFrozen) :=
      (decide_activate_iff _ _ _ _ _ _ _).mpr ⟨signal, hlatest, hreason, heval, hswitch, rfl⟩
    exact ⟨⟨m, _, hd⟩, (hsent m _ hd).mpr ⟨hconnected, hvalid⟩⟩

end Tick

/-! ### Runs -/

/-- A signal has been received exactly when its receipt has been noted. -/
def Noted (s : Optimizer κ δ) : Prop :=
  s.consumer.latest.isSome = s.consumer.latestReceivedAt.isSome

section Runs

variable {st : Setting τ} {s : Optimizer κ δ}

theorem process_noted (cd : Codec τ) (c : SignalConsumer) (raw : τ) (now : ℚ)
    (h : c.latest.isSome = c.latestReceivedAt.isSome) :
    (c.process cd raw now).1.latest.isSome = (c.process cd raw now).1.latestReceivedAt.isSome := by
  unfold SignalConsumer.process
  rcases c.inbox.receive audienceStateSignal "message_id" maxSeenIds (cd.loads raw) with ⟨b, r⟩
  cases r with
  | error e => exact h
  | ok m =>
    cases m with
    | none => exact h
    | some v => rfl

theorem noted_step (h : Noted s) (i : OptimizerStep τ κ δ) : Noted (s.step st i).1 := by
  cases i with
  | signal raw now => exact process_noted st.codec s.consumer raw now h
  | tick t => exact h
  | connect ws => exact h
  | close ws => exact h
  | reloadPolicy policy => exact h

theorem flag_false {signal v : Json} {path : List String} (hv : signal.at? path = some v)
    (hbool : Schema.boolean v = true) (hflag : flag signal path = false) :
    signal.at? path = some (.bool false) := by
  obtain ⟨b, rfl⟩ := Schema.boolean_iff.mp hbool
  simp only [flag, hv, Option.getD_some, Json.truthy] at hflag
  rw [hv, hflag]

/-- The members that the loop reads of a valid signal, with the one it does not read. -/
theorem signal_members {signal : Json} (h : audienceStateSignal signal = true) :
    (∃ n, reportedAge signal = some n) ∧
      (∃ v, signal.at? ["source_quality", "pipeline_degraded"] = some v ∧
        Schema.boolean v = true) ∧
      ∃ v, signal.at? ["state", "stability", "freeze_decision"] = some v ∧
        Schema.boolean v = true := by
  obtain ⟨quality, hquality, hqvalid⟩ := signal_sourceQuality h
  obtain ⟨state, hstate, hsvalid⟩ := signal_state h
  obtain ⟨age, hage, hcount⟩ := Schema.object_required hqvalid (k := "signal_age_ms")
    (s := count) (by simp) (by simp)
  obtain ⟨degraded, hdegraded, hdbool⟩ :=
    Schema.object_required hqvalid (k := "pipeline_degraded")
    (s := Schema.boolean) (by simp) (by simp)
  obtain ⟨stable, hstable, hstvalid⟩ := Schema.object_required hsvalid (k := "stability")
    (s := stability) (by simp) (by simp)
  obtain ⟨freeze, hfreeze, hfbool⟩ := Schema.object_required hstvalid (k := "freeze_decision")
    (s := Schema.boolean) (by simp) (by simp)
  obtain ⟨n, rfl⟩ := count_iff.mp hcount
  refine ⟨⟨n, ?_⟩, ⟨degraded, ?_, hdbool⟩, ⟨freeze, ?_, hfbool⟩⟩
  · simp [reportedAge, Json.at?, hquality, hage]
  · simp [Json.at?, hquality, hdegraded]
  · simp [Json.at?, hstate, hstable, hfreeze]

theorem activatesOnCurrent_iff (h : Noted s) (i : OptimizerStep τ κ δ) :
    ActivatesOnCurrent st s i ↔ ReportsRecent st s i := by
  cases i with
  | signal raw now => exact Iff.rfl
  | connect ws => exact Iff.rfl
  | close ws => exact Iff.rfl
  | reloadPolicy policy => exact Iff.rfl
  | tick t =>
    refine ⟨fun hcurrent signal hlatest hunheld => ?_, fun hrecent hactivates => ?_⟩
    · obtain ⟨signal', -, reported, hlatest', -, -, hreported, hle, -⟩ :=
        hcurrent (activates_iff.mpr ⟨signal, hlatest, hunheld⟩)
      obtain rfl := Option.some.inj (hlatest.symm.trans hlatest')
      exact ⟨reported, hreported, hle⟩
    · obtain ⟨signal, hlatest, hunheld⟩ := activates_iff.mp hactivates
      obtain ⟨reported, hreported, hle⟩ := hrecent signal hlatest hunheld
      obtain ⟨hfresh, hdegraded, hfreeze⟩ := freezeReason_none hunheld.1
      obtain ⟨-, ⟨d, hd, hdbool⟩, ⟨f, hf, hfbool⟩⟩ := signal_members signal.2
      unfold Noted at h
      rw [hlatest] at h
      obtain ⟨receivedAt, hreceived⟩ := Option.isSome_iff_exists.mp h.symm
      have hage : s.consumer.signalAgeMs t.now = some (truncate ((t.now - receivedAt) * 1000)) := by
        rw [SignalConsumer.signalAgeMs, hreceived]
        rfl
      exact ⟨signal, _, reported, hlatest, hage, hfresh _ hage, hreported, hle,
        flag_false hd hdbool hdegraded, flag_false hf hfbool hfreeze⟩

/-- In every run each activation is sent on a current signal exactly when no tick that nothing
else holds back finds a signal that reports a stale age. -/
theorem activatesOnCurrent_run_iff (st : Setting τ) (policy : PolicyEngine δ)
    (is : List (OptimizerStep τ κ δ)) :
    (optimizing st policy).EachStep (ActivatesOnCurrent st) (optimizing st policy).init is ↔
      (optimizing st policy).EachStep (ReportsRecent st) (optimizing st policy).init is :=
  Machine.eachStep_iff (M := optimizing st policy) (I := Noted) (fun _ i h => noted_step h i)
    (fun _ i h => activatesOnCurrent_iff h i)
    (s := (optimizing st policy).init) rfl is

end Runs

/-! ### A signal about old data -/

def staleSignal : Json :=
  .obj [("schema_version", .str "1.0.0"), ("message_type", .str "audience_state_signal"),
    ("message_id", .str "m-1"), ("produced_at", .str "2026-01-01T00:00:00Z"),
    ("tenant_id", .str "t-1"), ("site_id", .str "s-1"), ("camera_id", .str "c-1"),
    ("state", .obj [("presence", .obj [("count", .int 2), ("confidence", .num (9 / 10))]),
      ("stability", .obj [("state_stable", .bool true), ("freeze_decision", .bool false)])]),
    ("source_quality", .obj [("signal_age_ms", .int 60000), ("pipeline_degraded", .bool false)]),
    ("privacy", .obj [("contains_images", .bool false), ("contains_frame_urls", .bool false),
      ("contains_face_embeddings", .bool false)])]

def defaultSetting : Setting Json where
  codec := jsonCodec
  formatting := ⟨fun _ => "2", fun _ => "0.90"⟩
  staleSignalThresholdMs := 5000

def lobbyPolicy : PolicyEngine Unit where
  minDwellMs := 0
  cooldownMs := 0
  evaluate := fun _ _ => .ok (some "lobby")

def secondTick : TickInput Unit Unit where
  now := 1
  draw := ()
  stamp :=
    ⟨"0b9e0b7c-54a1-4d6c-9f0e-3a2b1c4d5e6f", "2026-01-01T00:00:01.000Z", commandId_length⟩
  alive := fun _ => true

theorem staleReport_activates :
    ¬ ∀ (st : Setting Json) (policy : PolicyEngine Unit)
      (is : List (OptimizerStep Json Unit Unit)),
      (is.filterMap OptimizerStep.now?).Pairwise (· ≤ ·) →
        (optimizing st policy).EachStep (ActivatesOnCurrent st) (optimizing st policy).init is := by
  intro h
  have hrun := h defaultSetting lobbyPolicy [.connect (), .signal staleSignal 0, .tick secondTick]
    (by decide +kernel)
  obtain ⟨signal, -, reported, hlatest, -, -, hreported, hle, -⟩ :=
    hrun.2.2.1
      ⟨⟨"lobby", "policy rule match; presence_count=2 confidence=0.90", by decide +kernel⟩,
      by decide +kernel⟩
  have hsignal : (((optimizing defaultSetting lobbyPolicy).run
      (optimizing defaultSetting lobbyPolicy).init
      [.connect (), .signal staleSignal 0]).consumer.latest.bind fun v => reportedAge v.1) =
        some 60000 := by decide +kernel
  have hread : reportedAge signal.1 = some 60000 := by
    have hsame := (congrArg (fun l => l.bind fun v => reportedAge v.1) hlatest).symm.trans hsignal
    exact hsame
  have hlarge : reported = 60000 := Option.some.inj (hreported.symm.trans hread)
  rw [hlarge] at hle
  exact absurd hle (by decide)

end AdaptiveAdvertisement.DecisionOptimizer
