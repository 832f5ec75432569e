import AdaptiveAdvertisement.DecisionOptimizer.PlayerGateway
import AdaptiveAdvertisement.DecisionOptimizer.SignalConsumer

/-!
# The decision loop (`decision_optimizer/decision_loop.py`)

One tick decides, sends at most one command, and notes what it believes the player shows. What
an evaluation of the policy draws (the hour, the weighted choice) is a value of `δ`.

Source lines: `__init__` 42-59, `_tick` 108-167 with its branches as `decide` and its effect on
the loop as `settle`, `_freeze_reason` 173-206. `Formatting` is the two conversions of the
rationale's f-string, `{x}` and `{x:.2f}`.
-/

namespace AdaptiveAdvertisement.DecisionOptimizer
open Library Contracts

/-- What the loop uses of `policy.py`. An evaluation may raise; `run` catches it. -/
structure PolicyEngine (δ : Type) where
  minDwellMs : ℤ
  cooldownMs : ℤ
  evaluate : Json → δ → Except Raised (Option String)

structure Formatting where
  str : Json → String
  fixed2 : Json → String

structure LoopConfig (δ : Type) where
  policy : PolicyEngine δ
  formatting : Formatting
  staleSignalThresholdMs : ℤ

structure DecisionLoop where
  currentManifestId : Option String := none
  playerFrozen : Bool := false
  tickCount : ℕ := 0
  commandCount : ℕ := 0
  freezeCount : ℕ := 0

inductive Decision where
  | freeze (reason : String)
  | hold
  | noSignal
  | noMatch
  | raised (e : Raised)
  | activate (manifestId rationale : String)
  | unchanged (manifestId : String)
  deriving DecidableEq

def Decision.candidate : Decision → Option String
  | .activate manifestId _ => some manifestId
  | .unchanged manifestId => some manifestId
  | _ => none

def flag (signal : Json) (path : List String) : Bool :=
  ((signal.at? path).getD (.bool false)).truthy

def freezeReason (staleMs : ℤ) (signal : Option Json) (ageMs : Option ℤ) : Option String :=
  match signal with
  | none => none
  | some s =>
    if ageMs.any fun a => decide (staleMs < a) then some "decision_degraded"
    else if flag s ["source_quality", "pipeline_degraded"] then some "cv_degraded"
    else if flag s ["state", "stability", "freeze_decision"] then some "operator_override"
    else none

def rationale (f : Formatting) (signal : Json) (wasFrozen : Bool) : String :=
  let text := "policy rule match; presence_count=" ++
    f.str ((signal.at? ["state", "presence", "count"]).getD .null) ++ " confidence=" ++
    f.fixed2 ((signal.at? ["state", "presence", "confidence"]).getD .null)
  if wasFrozen then "unfreeze + " ++ text else text

namespace DecisionLoop

variable {κ τ δ : Type} [DecidableEq κ]

def decide (cfg : LoopConfig δ) (loop : DecisionLoop) (c : SignalConsumer) (now : ℚ)
    (draw : δ) : Decision :=
  match freezeReason cfg.staleSignalThresholdMs (c.latest.map Subtype.val) (c.signalAgeMs now) with
  | some reason => if loop.playerFrozen then .hold else .freeze reason
  | none =>
    match c.latest with
    | none => .noSignal
    | some signal =>
      match cfg.policy.evaluate signal.1 draw with
      | .error e => .raised e
      | .ok none => .noMatch
      | .ok (some candidate) =>
        if some candidate ≠ loop.currentManifestId ∨ loop.playerFrozen = true then
          .activate candidate (rationale cfg.formatting signal.1 loop.playerFrozen)
        else .unchanged candidate

def send (cfg : LoopConfig δ) (cd : Codec τ) (g : PlayerGateway κ) (stamp : CommandStamp)
    (alive : κ → Bool) : Decision → PlayerGateway κ × Option (Broadcast κ τ)
  | .freeze reason => g.sendFreeze cd (some reason) stamp alive
  | .activate manifestId rationale =>
    g.sendActivateCreative cd manifestId cfg.policy.minDwellMs cfg.policy.cooldownMs
      (some rationale) stamp alive
  | _ => (g, none)

/-- The loop's state after the tick. -/
def settle (loop : DecisionLoop) (sent : ℕ) : Decision → DecisionLoop
  | .freeze _ =>
    { loop with
      playerFrozen := true
      tickCount := loop.tickCount + 1
      commandCount := loop.commandCount + sent
      freezeCount := loop.freezeCount + 1 }
  | .activate manifestId _ =>
    { loop with
      -- noted whatever `sent` is: the number of players reached is only counted
      currentManifestId := some manifestId
      playerFrozen := false
      tickCount := loop.tickCount + 1
      commandCount := loop.commandCount + sent }
  | .unchanged _ => { loop with playerFrozen := false, tickCount := loop.tickCount + 1 }
  | _ => { loop with tickCount := loop.tickCount + 1 }

def tick (cfg : LoopConfig δ) (cd : Codec τ) (loop : DecisionLoop) (c : SignalConsumer)
    (g : PlayerGateway κ) (now : ℚ) (draw : δ) (stamp : CommandStamp) (alive : κ → Bool) :
    DecisionLoop × PlayerGateway κ × Option (Broadcast κ τ) :=
  let decision := loop.decide cfg c now draw
  let sent := send cfg cd g stamp alive decision
  (loop.settle (sentCount sent.2) decision, sent)

theorem decide_unchanged {cfg : LoopConfig δ} {loop : DecisionLoop} {c : SignalConsumer}
    {now : ℚ} {draw : δ} {m : String} (h : loop.decide cfg c now draw = .unchanged m) :
    loop.currentManifestId = some m ∧ loop.playerFrozen = false := by
  unfold decide at h
  split at h
  · split at h <;> cases h
  · split at h
    · cases h
    · split at h
      · cases h
      · cases h
      · split at h
        · cases h
        next hsame =>
          cases h
          rw [not_or, not_not, Bool.not_eq_true] at hsame
          exact ⟨hsame.1.symm, hsame.2⟩

end DecisionLoop

end AdaptiveAdvertisement.DecisionOptimizer
