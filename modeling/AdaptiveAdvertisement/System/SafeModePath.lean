import AdaptiveAdvertisement.Dashboard.SafeModeIntent
import AdaptiveAdvertisement.Player.StateInvariant
import AdaptiveAdvertisement.Player.Health
import AdaptiveAdvertisement.Supervisor.SafeModeRelay

/-!
# Safe mode from the dashboard and the supervisor to the player

The relay with its two holds, the HTTP calls it makes and the player at their other end.
The player keeps no count of holders: its safe mode is the last engage or clear it handled,
and a restart forgets it.
-/

namespace AdaptiveAdvertisement.System
open Library Player Supervisor Dashboard

/-! ### The dashboard's row and what the relay reads of it -/

def pollOf (isoformat : ℚ → String) (row : SafeModeState) : Poll :=
  .response 200 (.value ((getSafeMode row).toJson isoformat))

/-- The relay's hold is the row's `is_active` after the tick, and a change of hold came with
the call that makes it. -/
def IntentReaches (isoformat : ℚ → String) (row : SafeModeState) (r : SafeModeRelay) : Prop :=
  let after := r.tick (pollOf isoformat row) true
  after.engagedByDashboard = row.isActive ∧
    (after.engagedByDashboard ≠ r.engagedByDashboard →
      match r.request (pollOf isoformat row) with
      | some (.engage _) => row.isActive = true
      | some .clear => row.isActive = false
      | none => False)

/-- The response has no member `is_active`, so every row is read as an inactive intent. -/
theorem pollOf_wants (isoformat : ℚ → String) (row : SafeModeState) :
    SafeModeRelay.dashboardWantsSafeMode (pollOf isoformat row) = some false := by
  simp [pollOf, SafeModeRelay.dashboardWantsSafeMode, SafeModeRelay.pollDashboard,
    SafeModeInfo.toJson, Json.isObj, Dict.find, Json.truthy]

theorem intent_reaches_iff (isoformat : ℚ → String) (row : SafeModeState) (r : SafeModeRelay) :
    IntentReaches isoformat row r ↔ row.isActive = false := by
  have hwants := pollOf_wants isoformat row
  have hhold := SafeModeRelay.tick_ok_dashboard r (pollOf isoformat row)
  rw [hwants, Option.getD_some] at hhold
  refine ⟨fun h => ?_, fun hrow => ?_⟩
  · rw [← h.1, hhold]
  · refine ⟨by rw [hhold, hrow], fun hchange => ?_⟩
    rw [hhold] at hchange
    have hr : r.engagedByDashboard = true := by
      cases hr : r.engagedByDashboard with
      | false => exact absurd hr.symm hchange
      | true => rfl
    rw [SafeModeRelay.request_clear hwants hr]
    exact hrow

theorem intent_not_reaching :
    ¬ ∀ (isoformat : ℚ → String) (row : SafeModeState) (r : SafeModeRelay),
      IntentReaches isoformat row r := by
  intro h
  have hrow := h (fun _ => "2026-01-01T00:00:00Z")
    { isActive := true, reason := some "operator_manual", activatedAt := some 0,
      activatedBy := some "operator" } {}
  exact absurd hrow.1 (by decide)

/-! ### The calls to the player

A request is refused on the way, or it reaches the control endpoint and the reply is lost or
comes back. `Answers` is a 200 that arrives; `Handled` is that the player acted on the request,
whatever the relay hears of it. -/

inductive Wire where
  | refused
  | replyLost
  | answered
  deriving DecidableEq

structure Attempt where
  wire : Wire
  control : Control
  now : ℚ

def Attempt.Answers (a : Attempt) : Prop :=
  a.wire = .answered ∧ a.control.isReady = true ∧ a.control.callback = .returns

def Attempt.Handled (a : Attempt) : Prop := a.wire ≠ .refused ∧ a.control.Handles

instance (a : Attempt) : Decidable a.Answers := inferInstanceAs (Decidable (_ ∧ _ ∧ _))

instance (a : Attempt) : Decidable a.Handled := inferInstanceAs (Decidable (_ ∧ _))

def Attempt.success (now : ℚ) : Attempt := ⟨.answered, ⟨true, .returns⟩, now⟩

inductive PlayerEvent where
  | engaged
  | cleared
  | restarted
  deriving DecidableEq

/-- The relay, the player and the history of the player's safe mode, newest first. -/
structure SafeModeSystem where
  relay : SafeModeRelay := {}
  player : StateMachine := StateMachine.init
  history : List PlayerEvent := []

def playerHandles (sm : StateMachine) (call : PlayerCall) (a : Attempt) : StateMachine × Bool :=
  let answered := match call with
    | .engage reason => safeModeEngage a.control sm (some (engageBody reason)) a.now
    | .clear => safeModeClear a.control sm
  match a.wire with
  | .refused => (sm, false)
  | .replyLost => (answered.1, false)
  | .answered => (answered.1, decide (answered.2.status = 200))

inductive SafeModeOp where
  | tick (poll : Poll) (a : Attempt)
  | superviseEngage (a : Attempt)
  | restart

def PlayerCall.event : PlayerCall → PlayerEvent
  | .engage _ => .engaged
  | .clear => .cleared

namespace SafeModeSystem

def perform (s : SafeModeSystem) (call : PlayerCall) (a : Attempt)
    (settle : SafeModeRelay → Bool → SafeModeRelay) : SafeModeSystem where
  relay := settle s.relay (playerHandles s.player call a).2
  player := (playerHandles s.player call a).1
  history := if a.Handled then PlayerCall.event call :: s.history else s.history

-- the call of `main.py:96-99`
def escalation : PlayerCall := .engage (.str "supervisor_escalation")

def step (s : SafeModeSystem) : SafeModeOp → SafeModeSystem × Unit
  | .tick poll a =>
    match s.relay.request poll with
    | some call => (s.perform call a fun r ok => r.settle call ok, ())
    | none => (s, ())
  | .superviseEngage a =>
    (s.perform escalation a fun r ok => (r.engageSafeModeSupervisor ok).1, ())
  | .restart =>
    ({ s with player := StateMachine.init, history := .restarted :: s.history }, ())

end SafeModeSystem

def safeModeMachine : Machine SafeModeSystem SafeModeOp Unit := ⟨{}, SafeModeSystem.step⟩

@[simp] theorem next_tick (s : SafeModeSystem) (poll : Poll) (a : Attempt) :
    safeModeMachine.next s (.tick poll a) =
      match s.relay.request poll with
      | some call => s.perform call a fun r ok => r.settle call ok
      | none => s := by
  cases hreq : s.relay.request poll <;>
    simp [safeModeMachine, Machine.next, SafeModeSystem.step, hreq]

@[simp] theorem next_superviseEngage (s : SafeModeSystem) (a : Attempt) :
    safeModeMachine.next s (.superviseEngage a) =
      s.perform SafeModeSystem.escalation a fun r ok => (r.engageSafeModeSupervisor ok).1 := rfl

@[simp] theorem next_restart (s : SafeModeSystem) :
    safeModeMachine.next s .restart =
      { s with player := StateMachine.init, history := .restarted :: s.history } := rfl

/-! ### The player's safe mode is the last thing that happened to it -/

theorem playerHandles_player (sm : StateMachine) (call : PlayerCall) (a : Attempt) :
    (playerHandles sm call a).1 =
      if a.Handled then
        match call with
        | .engage reason =>
          (sm.onSafeMode (some (safeModeReason (some (engageBody reason)))) a.now).1
        | .clear => sm.onClearSafeMode.1
      else sm := by
  by_cases hw : a.wire = .refused
  · simp [playerHandles, hw, Attempt.Handled]
  by_cases hc : a.control.Handles
  · have hh : a.Handled := ⟨hw, hc⟩
    cases hwire : a.wire with
    | refused => exact absurd hwire hw
    | replyLost =>
      cases call <;>
        simp [playerHandles, hwire, hh, safeModeEngage, safeModeClear, answer_handled hc]
    | answered =>
      cases call <;>
        simp [playerHandles, hwire, hh, safeModeEngage, safeModeClear, answer_handled hc]
  · have hh : ¬ a.Handled := fun h => hc h.2
    cases hwire : a.wire with
    | refused => exact absurd hwire hw
    | replyLost =>
      cases call <;>
        simp [playerHandles, hwire, hh, safeModeEngage, safeModeClear, answer_refused hc]
    | answered =>
      cases call <;>
        simp [playerHandles, hwire, hh, safeModeEngage, safeModeClear, answer_refused hc]

theorem playerHandles_ok (sm : StateMachine) (call : PlayerCall) (a : Attempt) :
    (playerHandles sm call a).2 = true ↔ a.Answers := by
  cases call <;> cases hwire : a.wire <;>
    simp [playerHandles, hwire, Attempt.Answers, safeModeEngage, safeModeClear, answer_ok_iff]

theorem Attempt.Answers.handled {a : Attempt} (h : a.Answers) : a.Handled := by
  obtain ⟨hw, hr, hc⟩ := h
  exact ⟨by simp [hw], hr, by simp [hc]⟩

/-- The invariant of the whole path: the player is in safe mode exactly while the last thing
that happened to it is an engage. -/
def LastEngaged (s : SafeModeSystem) : Prop :=
  s.player.state = .safeMode ↔ s.history.head? = some .engaged

theorem perform_lastEngaged {s : SafeModeSystem} (h : LastEngaged s) (call : PlayerCall)
    (a : Attempt) (settle : SafeModeRelay → Bool → SafeModeRelay) :
    LastEngaged (s.perform call a settle) := by
  unfold LastEngaged SafeModeSystem.perform
  simp only [playerHandles_player]
  by_cases hh : a.Handled
  · cases call with
    | engage reason => simp [hh, PlayerCall.event]
    | clear => simp [hh, PlayerCall.event, StateMachine.onClearSafeMode_state]
  · simp only [hh, ite_false]
    exact h

theorem step_lastEngaged (s : SafeModeSystem) (op : SafeModeOp) (h : LastEngaged s) :
    LastEngaged (safeModeMachine.next s op) := by
  cases op with
  | tick poll a =>
    rw [next_tick]
    cases s.relay.request poll with
    | none => exact h
    | some call => exact perform_lastEngaged h call a fun r ok => r.settle call ok
  | superviseEngage a =>
    exact perform_lastEngaged h SafeModeSystem.escalation a
      fun r ok => (r.engageSafeModeSupervisor ok).1
  | restart => simp [LastEngaged, StateMachine.init]

theorem init_lastEngaged : LastEngaged safeModeMachine.init := by
  simp [LastEngaged, safeModeMachine, StateMachine.init]

/-! ### Surviving a restart -/

/-- After a tick that reads an active intent while the endpoint answers 200, the player is in
safe mode. -/
def RestoresSafeMode (s : SafeModeSystem) : SafeModeOp → Prop
  | .tick poll a =>
    SafeModeRelay.dashboardWantsSafeMode poll = some true → a.Answers →
      (safeModeMachine.next s (.tick poll a)).player.state = .safeMode
  | _ => True

/-- A tick that reads an active intent while the endpoint answers 200 does not find the
dashboard's hold set for a player to which something else happened after its last engage. -/
def HoldCurrent (s : SafeModeSystem) : SafeModeOp → Prop
  | .tick poll a =>
    SafeModeRelay.dashboardWantsSafeMode poll = some true → a.Answers →
      s.relay.engagedByDashboard = true → s.history.head? = some .engaged
  | _ => True

theorem restores_iff_holdCurrent (s : SafeModeSystem) (op : SafeModeOp) (h : LastEngaged s) :
    RestoresSafeMode s op ↔ HoldCurrent s op := by
  cases op with
  | superviseEngage a => exact Iff.rfl
  | restart => exact Iff.rfl
  | tick poll a =>
    refine forall_congr' fun hwants => forall_congr' fun hans => ?_
    cases hold : s.relay.engagedByDashboard with
    | true =>
      have hreq : s.relay.request poll = none :=
        SafeModeRelay.request_agrees (by rw [hwants, hold])
      rw [next_tick, hreq]
      simpa [LastEngaged] using h
    | false =>
      have hreq := SafeModeRelay.request_engage hwants hold
      simp [hreq, SafeModeSystem.perform, playerHandles_player, hans.handled]

/-- Over every run of ticks, escalations and restarts, with any poll results and any HTTP
outcomes: safe mode is restored at each tick exactly when no tick meets a stale hold. -/
theorem safeMode_survives_restart_iff (ops : List SafeModeOp) :
    safeModeMachine.EachStep RestoresSafeMode safeModeMachine.init ops ↔
      safeModeMachine.EachStep HoldCurrent safeModeMachine.init ops :=
  Machine.eachStep_iff_of_inv (M := safeModeMachine) (fun s op h _ => step_lastEngaged s op h)
    restores_iff_holdCurrent init_lastEngaged ops

def activeIntent (active : Bool) : Poll :=
  .response 200 (.value (.obj [("is_active", .bool active), ("reason", .str "operator_manual")]))

theorem safeMode_lost_at_restart :
    ¬ ∀ ops, safeModeMachine.EachStep RestoresSafeMode safeModeMachine.init ops := by
  intro h
  have hrun := h [.tick (activeIntent true) (.success 0), .restart,
    .tick (activeIntent true) (.success 15)]
  exact absurd (hrun.2.2.1 (by decide) (by decide)) (by decide)

/-! ### Two holders, one flag

The environment in which every HTTP call succeeds and nobody else commands the player. -/

inductive HolderOp where
  | tick (intent : Json) (now : ℚ)
  | superviseEngage (now : ℚ)

def HolderOp.op : HolderOp → SafeModeOp
  | .tick intent now => .tick (.response 200 (.value intent)) (.success now)
  | .superviseEngage now => .superviseEngage (.success now)

def holders : Machine SafeModeSystem HolderOp Unit := safeModeMachine.comap HolderOp.op

def HoldsRespected (s : SafeModeSystem) : Prop :=
  s.player.state = .safeMode ↔ s.relay.isSafeModeActive = true

/-- A tick does not read an inactive intent while both holds are set. -/
def KeepsSupervisorHold (s : SafeModeSystem) : HolderOp → Prop
  | .tick intent _ =>
    SafeModeRelay.dashboardWantsSafeMode (.response 200 (.value intent)) = some false →
      ¬ (s.relay.engagedByDashboard = true ∧ s.relay.engagedBySupervisor = true)
  | .superviseEngage _ => True

theorem success_answers (now : ℚ) : (Attempt.success now).Answers := ⟨rfl, rfl, rfl⟩

theorem perform_engage_success (s : SafeModeSystem) (reason : Json) (now : ℚ)
    (settle : SafeModeRelay → Bool → SafeModeRelay) :
    (s.perform (.engage reason) (.success now) settle).player.state = .safeMode ∧
      (s.perform (.engage reason) (.success now) settle).relay = settle s.relay true := by
  have hans := success_answers now
  refine ⟨?_, ?_⟩
  · simp [SafeModeSystem.perform, playerHandles_player, hans.handled]
  · simp [SafeModeSystem.perform, (playerHandles_ok _ _ _).mpr hans]

theorem perform_clear_success (s : SafeModeSystem) (now : ℚ)
    (settle : SafeModeRelay → Bool → SafeModeRelay) :
    (s.perform .clear (.success now) settle).player.state ≠ .safeMode ∧
      (s.perform .clear (.success now) settle).relay = settle s.relay true := by
  have hans := success_answers now
  refine ⟨?_, ?_⟩
  · simp [SafeModeSystem.perform, playerHandles_player, hans.handled,
      StateMachine.onClearSafeMode_state]
  · simp [SafeModeSystem.perform, (playerHandles_ok _ _ _).mpr hans]

theorem holdsRespected_next_iff (s : SafeModeSystem) (op : HolderOp) (h : HoldsRespected s) :
    HoldsRespected (holders.next s op) ↔ KeepsSupervisorHold s op := by
  cases op with
  | superviseEngage now =>
    obtain ⟨hp, hr⟩ := perform_engage_success s (.str "supervisor_escalation") now
      fun r ok => (r.engageSafeModeSupervisor ok).1
    simp only [holders, Machine.comap_next, HolderOp.op, next_superviseEngage, HoldsRespected,
      KeepsSupervisorHold, SafeModeSystem.escalation]
    rw [hr]
    simp only [SafeModeRelay.engageSafeModeSupervisor, SafeModeRelay.isSafeModeActive,
      ite_true, Bool.or_true, iff_true]
    exact hp
  | tick intent now =>
    simp only [holders, Machine.comap_next, HolderOp.op, next_tick]
    cases hw : SafeModeRelay.dashboardWantsSafeMode (.response 200 (.value intent)) with
    | none => simp [SafeModeRelay.request_none hw, KeepsSupervisorHold, hw, h]
    | some wants =>
      by_cases hagree : wants = s.relay.engagedByDashboard
      · -- the intent is what the relay already holds: no call is made
        have hreq := SafeModeRelay.request_agrees (r := s.relay) (hagree ▸ hw)
        cases wants <;> simp [hreq, KeepsSupervisorHold, hw, h, ← hagree]
      · cases wants with
        | true =>
          have hd : s.relay.engagedByDashboard = false := by simpa using hagree
          obtain ⟨hp, hr⟩ := perform_engage_success s
            (SafeModeRelay.reason (.response 200 (.value intent))) now
            fun r ok => r.settle (.engage (SafeModeRelay.reason (.response 200 (.value intent)))) ok
          rw [SafeModeRelay.request_engage hw hd]
          simp only [HoldsRespected, KeepsSupervisorHold, hw]
          rw [hp, hr]
          simp [SafeModeRelay.settle, SafeModeRelay.isSafeModeActive]
        | false =>
          have hd : s.relay.engagedByDashboard = true := by simpa using hagree
          obtain ⟨hp, hr⟩ := perform_clear_success s now fun r ok => r.settle .clear ok
          rw [SafeModeRelay.request_clear hw hd]
          simp only [HoldsRespected, KeepsSupervisorHold, hw, hd, hp]
          rw [hr]
          simp [SafeModeRelay.settle, SafeModeRelay.isSafeModeActive]

theorem init_holdsRespected : HoldsRespected holders.init := by
  simp [HoldsRespected, holders, safeModeMachine, StateMachine.init,
    SafeModeRelay.isSafeModeActive]

/-- Over every run of ticks and escalations in which all calls succeed: after each of them the
player is in safe mode iff a hold is set, exactly when no tick reads an inactive intent while
both are. -/
theorem holders_independent_iff (ops : List HolderOp) :
    holders.EachStep (fun s op => HoldsRespected (holders.next s op)) holders.init ops ↔
      holders.EachStep KeepsSupervisorHold holders.init ops :=
  Machine.eachStep_iff_of_inv (fun s op h hk => (holdsRespected_next_iff s op h).mpr hk)
    holdsRespected_next_iff init_holdsRespected ops

/-- Both engage, then the operator releases: the player leaves safe mode under the supervisor's
hold. -/
theorem holders_share_one_flag :
    ¬ ∀ ops, holders.EachStep (fun s op => HoldsRespected (holders.next s op)) holders.init
      ops := by
  intro h
  have hrun := h [.superviseEngage 0,
    .tick (.obj [("is_active", .bool true), ("reason", .str "operator_manual")]) 15,
    .tick (.obj [("is_active", .bool false)]) 30]
  exact absurd (hrun.2.2.1.mpr (by decide)) (by decide)

end AdaptiveAdvertisement.System
