import AdaptiveAdvertisement.Player.State
import AdaptiveAdvertisement.Library.Json

/-!
# The player's control endpoint (`player/health.py`)

`POST` and `DELETE /control/safe-mode`, through which the supervisor engages and clears safe
mode (lines 75-125). `Callback` is `on_transition_holder[0]`: not yet injected, or a callback
with how the call of it ends.
-/

namespace AdaptiveAdvertisement.Player
open Library

inductive Callback where
  | absent
  | returns
  | raises
  deriving DecidableEq

structure Control where
  isReady : Bool
  callback : Callback

inductive ControlResponse where
  | ok (state : PlayerState)
  | notReady (reason : String)
  | internalError
  deriving DecidableEq

def ControlResponse.status : ControlResponse → ℕ
  | .ok _ => 200
  | .notReady _ => 503
  | .internalError => 500

def validSafeModeReasons : List String :=
  ["operator_manual", "supervisor_escalation", "boot_loop_protection"]

/-- The reason that `safe_mode_engage` takes from the request body; `none` is a body that is
no JSON. -/
def safeModeReason (body : Option Json) : String :=
  match body.bind fun b => (b.get? "reason").bind Json.asStr? with
  | some candidate => if candidate ∈ validSafeModeReasons then candidate else "operator_manual"
  | none => "operator_manual"

/-- The state has changed by the time the callback runs, so a callback that raises answers 500
for a transition that was made. -/
def answer (c : Control) (before : StateMachine) (t : StateMachine × TransitionResult) :
    StateMachine × ControlResponse :=
  match c.isReady, c.callback with
  | true, .returns => (t.1, .ok t.2.newState)
  | true, .raises => (t.1, .internalError)
  | _, _ => (before, .notReady "startup_in_progress")

def safeModeEngage (c : Control) (sm : StateMachine) (body : Option Json) (now : ℚ) :
    StateMachine × ControlResponse :=
  answer c sm (sm.onSafeMode (some (safeModeReason body)) now)

def safeModeClear (c : Control) (sm : StateMachine) : StateMachine × ControlResponse :=
  answer c sm sm.onClearSafeMode

def Control.Handles (c : Control) : Prop := c.isReady = true ∧ c.callback ≠ .absent

instance (c : Control) : Decidable c.Handles := inferInstanceAs (Decidable (_ ∧ _))

theorem answer_handled {c : Control} (h : c.Handles) (before : StateMachine)
    (t : StateMachine × TransitionResult) : (answer c before t).1 = t.1 := by
  obtain ⟨hr, hc⟩ := h
  cases hcb : c.callback with
  | absent => exact absurd hcb hc
  | returns => simp [answer, hr, hcb]
  | raises => simp [answer, hr, hcb]

theorem answer_refused {c : Control} (h : ¬ c.Handles) (before : StateMachine)
    (t : StateMachine × TransitionResult) :
    (answer c before t).1 = before ∧ (answer c before t).2.status = 503 := by
  cases hr : c.isReady with
  | false => simp [answer, hr, ControlResponse.status]
  | true =>
    cases hcb : c.callback with
    | absent => simp [answer, hr, hcb, ControlResponse.status]
    | returns => exact absurd ⟨hr, by simp [hcb]⟩ h
    | raises => exact absurd ⟨hr, by simp [hcb]⟩ h

theorem answer_ok_iff (c : Control) (before : StateMachine)
    (t : StateMachine × TransitionResult) :
    (answer c before t).2.status = 200 ↔ c.isReady = true ∧ c.callback = .returns := by
  cases hr : c.isReady <;> cases hcb : c.callback <;>
    simp [answer, hr, hcb, ControlResponse.status]

end AdaptiveAdvertisement.Player
