import AdaptiveAdvertisement.DecisionOptimizer.DecisionLoop
import AdaptiveAdvertisement.System.CommandChannel

/-!
# Delivery of activations from the decision loop to the player

The decision loop with its gateway, and one player. The loop notes an activation as current
whether or not a player took it, and stays silent while the policy returns what it noted.
Every command that is sent is delivered and handled before the next step.
-/

namespace AdaptiveAdvertisement.System
open Library Contracts Player DecisionOptimizer

structure World (τ δ : Type) where
  rt : Runtime τ
  cfg : LoopConfig δ

/-- `running` is the player's process, which an exception out of `handle_raw` ends. `issued` are
the command ids that the ticks so far have drawn. -/
structure Delivery where
  consumer : SignalConsumer := {}
  loop : DecisionLoop := {}
  gateway : PlayerGateway Unit := {}
  player : CommandHandler
  running : Bool := true
  issued : List String := []

structure Tick (δ : Type) where
  now : ℚ
  utcNow : ℚ
  draw : δ
  stamp : CommandStamp

def Tick.clock {δ : Type} (t : Tick δ) : FrameClock := ⟨t.utcNow, .at t.now⟩

/-- The steps. A connection is lost abnormally, or closed in good order; an attempt to connect
that fails is an abnormal loss without a connection. -/
inductive Step (τ δ : Type) where
  | signal (raw : τ) (now : ℚ)
  | tick (t : Tick δ)
  | connect
  | disconnect (abnormal : Bool) (now : ℚ)
  | engageSafeMode (reason : Option String) (now : ℚ)
  | clearSafeMode

def Step.now? {τ δ : Type} : Step τ δ → Option ℚ
  | .signal _ now => some now
  | .tick t => some t.now
  | .connect => none
  | .disconnect _ now => some now
  | .engageSafeMode _ now => some now
  | .clearSafeMode => none

def Step.commandId? {τ δ : Type} : Step τ δ → Option String
  | .tick t => some t.stamp.commandId
  | _ => none

namespace Delivery

variable {τ δ : Type} (w : World τ δ)

def start (store : ManifestStore) : Delivery where
  player := { sm := StateMachine.init, store := store }

def connected (s : Delivery) : Bool := decide (s.gateway.connections ≠ ∅)

def decision (s : Delivery) (t : Tick δ) : Decision :=
  s.loop.decide w.cfg s.consumer t.now t.draw

/-- The player handles a command. Its connection ends with its process. -/
def receive (s : Delivery) (raw : τ) (t : Tick δ) : Delivery :=
  match s.player.handleRaw w.rt raw t.clock with
  | (player, .ok _) => { s with player := player }
  | (player, .error _) =>
    { s with player := player, running := false, gateway := { s.gateway with connections := ∅ } }

def tick (s : Delivery) (t : Tick δ) : Delivery :=
  let r := s.loop.tick w.cfg w.rt.toCodec s.consumer s.gateway t.now t.draw t.stamp fun _ => true
  let s' := { s with loop := r.1, gateway := r.2.1, issued := t.stamp.commandId :: s.issued }
  match r.2.2 with
  | some b => s'.receive w b.raw t
  | none => s'

def connect (s : Delivery) : Delivery :=
  if s.running then
    { s with
      gateway := { s.gateway with connections := {()} }
      player := s.player.resetSession }
  else s

def disconnect (s : Delivery) (abnormal : Bool) (now : ℚ) : Delivery :=
  let sm := if s.running && abnormal then (s.player.sm.onConnectionLost now).1 else s.player.sm
  { s with gateway := { s.gateway with connections := ∅ }, player := { s.player with sm := sm } }

def control (s : Delivery) (sm : StateMachine) : Delivery :=
  if s.running then { s with player := { s.player with sm := sm } } else s

def step (s : Delivery) : Step τ δ → Delivery
  | .signal raw now => { s with consumer := (s.consumer.process w.rt.toCodec raw now).1 }
  | .tick t => s.tick w t
  | .connect => s.connect
  | .disconnect abnormal now => s.disconnect abnormal now
  | .engageSafeMode reason now => s.control (s.player.sm.onSafeMode reason now).1
  | .clearSafeMode => s.control s.player.sm.onClearSafeMode.1

end Delivery

variable {τ δ : Type}

def delivery (w : World τ δ) (store : ManifestStore) : Machine Delivery (Step τ δ) Unit where
  init := Delivery.start store
  step := fun s i => (s.step w i, ())

/-! ### What a tick does -/

section Tick

variable {w : World τ δ} {s : Delivery} {t : Tick δ}

def sending (cfg : LoopConfig δ) : Decision → Option (String × Option Json)
  | .freeze reason => some ("freeze", reasonPayload (some reason))
  | .activate m rationale => some ("activate_creative",
      some (activatePayload m cfg.policy.minDwellMs cfg.policy.cooldownMs (some rationale)))
  | _ => none

def built (s : Delivery) (t : Tick δ) (p : String × Option Json) : Json :=
  command (s.gateway.sequence + 1) t.stamp p.1 p.2

def outgoing (w : World τ δ) (s : Delivery) (t : Tick δ) (d : Decision) : Option Json :=
  (sending w.cfg d).bind fun p =>
    if s.connected = true ∧ playerCommand (built s t p) = true then some (built s t p)
    else none

theorem outgoing_some {w : World τ δ} {s : Delivery} {t : Tick δ} {d : Decision} {msg : Json}
    (h : outgoing w s t d = some msg) : ∃ p, sending w.cfg d = some p ∧
      msg = built s t p ∧ s.connected = true ∧ playerCommand msg = true := by
  obtain ⟨p, hp, hmsg⟩ := Option.bind_eq_some_iff.mp h
  split at hmsg
  next hsent =>
    cases hmsg
    exact ⟨p, hp, rfl, hsent⟩
  next => cases hmsg

theorem connected_iff (s : Delivery) : s.connected = true ↔ s.gateway.connections ≠ ∅ := by
  simp [Delivery.connected]

theorem send_eq (w : World τ δ) (s : Delivery) (t : Tick δ) (d : Decision) :
    DecisionLoop.send w.cfg w.rt.toCodec s.gateway t.stamp
        (fun _ => true) d =
      match outgoing w s t d with
      | some msg => ({ s.gateway with sequence := s.gateway.sequence + 1 },
          some ⟨w.rt.dumps msg, s.gateway.connections⟩)
      | none => (s.gateway, none) := by
  have hbroadcast : ∀ p : String × Option Json,
      s.gateway.broadcast w.rt.toCodec p.1 p.2 t.stamp (fun _ => true) =
        match (if s.connected = true ∧ playerCommand (built s t p) = true then
            some (built s t p) else none) with
        | some msg => ({ s.gateway with sequence := s.gateway.sequence + 1 },
            some ⟨w.rt.dumps msg, s.gateway.connections⟩)
        | none => (s.gateway, none) := by
    intro p
    rw [PlayerGateway.broadcast_eq]
    by_cases h : s.connected = true ∧ playerCommand (built s t p) = true
    · rw [if_pos h, if_pos ⟨(connected_iff s).mp h.1, h.2⟩]
      simp only [Finset.filter_true, built]
    · rw [if_neg h, if_neg fun hc => h ⟨(connected_iff s).mpr hc.1, hc.2⟩]
  cases d with
  | freeze reason => exact hbroadcast ("freeze", _)
  | activate m rationale => exact hbroadcast ("activate_creative", _)
  | hold => rfl
  | noSignal => rfl
  | noMatch => rfl
  | raised e => rfl
  | unchanged m => rfl

def Delivery.sent (s : Delivery) (t : Tick δ) (loop : DecisionLoop) : Delivery :=
  { s with
    loop := loop
    gateway := { s.gateway with sequence := s.gateway.sequence + 1 }
    issued := t.stamp.commandId :: s.issued }

theorem tick_eq (w : World τ δ) (s : Delivery) (t : Tick δ) :
    ∃ sent, s.tick w t =
      match outgoing w s t (s.decision w t) with
      | some msg => (s.sent t (s.loop.settle sent (s.decision w t))).receive w
          (w.rt.dumps msg) t
      | none => { s with
          loop := s.loop.settle sent (s.decision w t)
          issued := t.stamp.commandId :: s.issued } := by
  have hsend := send_eq w s t (s.decision w t)
  unfold Delivery.decision at hsend ⊢
  unfold Delivery.tick DecisionLoop.tick
  simp only [hsend]
  cases outgoing w s t (s.loop.decide w.cfg s.consumer t.now t.draw) with
  | some msg => exact ⟨_, rfl⟩
  | none => exact ⟨_, rfl⟩

theorem receive_frame (w : World τ δ) (s : Delivery) (raw : τ) (t : Tick δ) :
    (s.receive w raw t).loop = s.loop ∧ (s.receive w raw t).issued = s.issued ∧
      (s.receive w raw t).gateway.sequence = s.gateway.sequence ∧
      (s.receive w raw t).player =
        (s.player.handleRaw w.rt raw t.clock).1 := by
  unfold Delivery.receive
  split
  next player outcome h => simp [h]
  next player e h => simp [h]

theorem tick_sent {msg : Json} (hout : outgoing w s t (s.decision w t) = some msg) :
    (s.tick w t).gateway.sequence = s.gateway.sequence + 1 ∧
      (s.tick w t).player = (s.player.handleRaw w.rt (w.rt.dumps msg) t.clock).1 := by
  obtain ⟨sent, ht⟩ := tick_eq w s t
  rw [ht, hout]
  exact (receive_frame w _ _ t).2.2

theorem tick_unsent (hout : outgoing w s t (s.decision w t) = none) :
    (s.tick w t).gateway = s.gateway ∧ (s.tick w t).player = s.player := by
  obtain ⟨sent, ht⟩ := tick_eq w s t
  rw [ht, hout]
  exact ⟨rfl, rfl⟩

theorem tick_loop (w : World τ δ) (s : Delivery) (t : Tick δ) :
    ∃ sent, (s.tick w t).loop = s.loop.settle sent (s.decision w t) := by
  obtain ⟨sent, ht⟩ := tick_eq w s t
  refine ⟨sent, ?_⟩
  rw [ht]
  cases outgoing w s t (s.decision w t) with
  | none => rfl
  | some msg => exact (receive_frame w _ _ t).1

theorem tick_issued (w : World τ δ) (s : Delivery) (t : Tick δ) :
    (s.tick w t).issued = t.stamp.commandId :: s.issued := by
  obtain ⟨sent, ht⟩ := tick_eq w s t
  rw [ht]
  cases outgoing w s t (s.decision w t) with
  | none => rfl
  | some msg => exact (receive_frame w _ _ t).2.1

end Tick

end AdaptiveAdvertisement.System
