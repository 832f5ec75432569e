import AdaptiveAdvertisement.Library.Json

/-!
# The safe-mode relay (`supervisor/safe_mode_relay.py`)

The relay reads the operator's intent from the dashboard and commands the player. What
it commands is a function of the intent and of its own two holds; whether the player
answered 200 decides only what it remembers.

Source lines: `__init__` 44-45, `engage_safe_mode_supervisor` 60-75, `_tick` 83-104 with the call
it makes as `request` and its effect as `settle`, `_poll_dashboard` 106-123. `Poll.failed` is any
exception of the request.
-/

namespace AdaptiveAdvertisement.Supervisor
open Library

structure SafeModeRelay where
  engagedByDashboard : Bool := false
  engagedBySupervisor : Bool := false
  deriving DecidableEq

inductive Poll where
  | response (status : ℕ) (body : Loaded)
  | failed

inductive PlayerCall where
  | engage (reason : Json)
  | clear

def engageBody (reason : Json) : Json := .obj [("reason", reason)]

namespace SafeModeRelay

def isSafeModeActive (r : SafeModeRelay) : Bool := r.engagedByDashboard || r.engagedBySupervisor

/-- A body `null` is read as no answer. -/
def pollDashboard : Poll → Option Json
  | .response 200 (.value .null) => none
  | .response 200 (.value intent) => some intent
  | _ => none

/-- The intent that a tick reads; `none` where it leaves everything unchanged, also because
`intent.get` raises on a body that is no object. -/
def dashboardWantsSafeMode (p : Poll) : Option Bool :=
  (pollDashboard p).bind fun intent =>
    if intent.isObj then some ((intent.get? "is_active").getD (.bool false)).truthy else none

def reason (p : Poll) : Json :=
  match (pollDashboard p).bind (·.get? "reason") with
  | some v => if v.truthy then v else .str "operator_manual"
  | none => .str "operator_manual"

def request (r : SafeModeRelay) (p : Poll) : Option PlayerCall :=
  match dashboardWantsSafeMode p with
  | some true => if r.engagedByDashboard then none else some (.engage (reason p))
  | some false => if r.engagedByDashboard then some .clear else none
  | none => none

def settle (r : SafeModeRelay) (call : PlayerCall) (ok : Bool) : SafeModeRelay :=
  if ok then
    match call with
    | .engage _ => { r with engagedByDashboard := true }
    | .clear => { r with engagedByDashboard := false }
  else r

/-- `_tick`, with `ok` the outcome of the player call, if any. -/
def tick (r : SafeModeRelay) (p : Poll) (ok : Bool) : SafeModeRelay :=
  match r.request p with
  | some call => r.settle call ok
  | none => r

def engageSafeModeSupervisor (r : SafeModeRelay) (ok : Bool) : SafeModeRelay × Bool :=
  (if ok then { r with engagedBySupervisor := true } else r, ok)

/-! ### What a tick does -/

theorem request_none {r : SafeModeRelay} {p : Poll} (h : dashboardWantsSafeMode p = none) :
    r.request p = none := by
  simp [request, h]

theorem request_agrees {r : SafeModeRelay} {p : Poll}
    (h : dashboardWantsSafeMode p = some r.engagedByDashboard) : r.request p = none := by
  cases hr : r.engagedByDashboard <;> simp [request, h, hr]

theorem request_engage {r : SafeModeRelay} {p : Poll} (h : dashboardWantsSafeMode p = some true)
    (hr : r.engagedByDashboard = false) : r.request p = some (.engage (reason p)) := by
  simp [request, h, hr]

theorem request_clear {r : SafeModeRelay} {p : Poll} (h : dashboardWantsSafeMode p = some false)
    (hr : r.engagedByDashboard = true) : r.request p = some .clear := by
  simp [request, h, hr]

theorem tick_ok_dashboard (r : SafeModeRelay) (p : Poll) :
    (r.tick p true).engagedByDashboard =
      (dashboardWantsSafeMode p).getD r.engagedByDashboard := by
  cases h : dashboardWantsSafeMode p with
  | none => simp [tick, request_none h]
  | some b => cases b <;> cases hr : r.engagedByDashboard <;> simp [tick, request, settle, h, hr]

@[simp] theorem tick_supervisor (r : SafeModeRelay) (p : Poll) (ok : Bool) :
    (r.tick p ok).engagedBySupervisor = r.engagedBySupervisor := by
  unfold tick
  split
  next call _ => cases call <;> cases ok <;> rfl
  · rfl

end SafeModeRelay

end AdaptiveAdvertisement.Supervisor
