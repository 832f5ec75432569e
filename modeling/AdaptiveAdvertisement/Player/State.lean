import AdaptiveAdvertisement.Library.Machine
import AdaptiveAdvertisement.Library.Dict
import Mathlib.Algebra.Order.Field.Rat
import Mathlib.Tactic.Linarith

/-!
# The player state machine (`player/state.py`)

Pure logic of the player: what it shows and which commands it accepts. Every reading
of the monotonic clock is an argument, in seconds as an exact rational; the durations
of commands are integers of milliseconds. Logging, and with it the rationale of an
activation, is left out.

Source lines: the types 45-60, `on_activate_creative` 94-178, `on_freeze` 180-229,
`on_safe_mode` 231-261, `on_clear_safe_mode` 263-286, `on_connection_lost` 288-324,
`_dwell_elapsed` 346-350, `_in_cooldown` 352-358.
-/

namespace AdaptiveAdvertisement.Player
open Library

inductive PlayerState where
  | fallback
  | active
  | frozen
  | safeMode
  deriving DecidableEq, Repr

inductive Action where
  | playManifest
  | showFallback
  | hold
  deriving DecidableEq, Repr

structure TransitionResult where
  accepted : Bool
  newState : PlayerState
  action : Action
  manifestId : Option String := none
  reason : Option String := none
  deriving DecidableEq, Repr

structure Cooldown where
  deactivatedAt : ℚ
  cooldownMs : ℤ
  deriving DecidableEq

/-- `StateMachine.__init__` (`state.py:68-76`); `cooldownMsForActive` is the class attribute
of line 361 until the first activation sets it. -/
structure StateMachine where
  state : PlayerState := .fallback
  activeManifestId : Option String := none
  activatedAt : Option ℚ := none
  minDwellMs : ℤ := 0
  freezeReason : Option String := none
  safeModeReason : Option String := none
  cooldowns : Dict String Cooldown := Dict.empty
  cooldownMsForActive : ℤ := 0

/-- The clock readings of one `on_activate_creative` call, in the order in which the code
takes them: the dwell check, the cooldown check, the cooldown record of the manifest that is
replaced, the activation time. -/
structure ActivateClock where
  dwell : ℚ
  cooldown : ℚ
  deactivated : ℚ
  activated : ℚ

def ActivateClock.readings (t : ActivateClock) : List ℚ :=
  [t.dwell, t.cooldown, t.deactivated, t.activated]

def ActivateClock.at (now : ℚ) : ActivateClock := ⟨now, now, now, now⟩

namespace StateMachine

def init : StateMachine := {}

def dwellElapsed (sm : StateMachine) (now : ℚ) : Bool :=
  match sm.activatedAt with
  | none => true
  | some t => decide ((sm.minDwellMs : ℚ) ≤ (now - t) * 1000)

def inCooldown (sm : StateMachine) (manifestId : String) (now : ℚ) : Bool :=
  match sm.cooldowns.get manifestId with
  | none => false
  | some c => decide ((now - c.deactivatedAt) * 1000 < (c.cooldownMs : ℚ))

/-- The cooldown table after the active manifest, if any, is deactivated: the block that
`state.py` repeats at lines 149-153, 239-243 and 305-309. -/
def recordCooldown (sm : StateMachine) (now : ℚ) : Dict String Cooldown :=
  match sm.activeManifestId with
  | none => sm.cooldowns
  | some m => sm.cooldowns.set m ⟨now, sm.cooldownMsForActive⟩

def switchTo (sm : StateMachine) (manifestId : String) (minDwellMs cooldownMs : ℤ)
    (t : ActivateClock) : StateMachine :=
  { sm with
    state := .active
    activeManifestId := some manifestId
    activatedAt := some t.activated
    minDwellMs := minDwellMs
    freezeReason := none
    cooldowns := sm.recordCooldown t.deactivated
    cooldownMsForActive := cooldownMs }

def onActivateCreative (sm : StateMachine) (manifestId : String) (minDwellMs cooldownMs : ℤ)
    (_rationale : Option String) (t : ActivateClock) : StateMachine × TransitionResult :=
  if sm.state = .safeMode then
    (sm, { accepted := false, newState := sm.state, action := .showFallback,
           reason := some "safe_mode" })
  else if sm.state = .active ∧ sm.dwellElapsed t.dwell = false then
    (sm, { accepted := false, newState := sm.state, action := .hold,
           manifestId := sm.activeManifestId, reason := some "dwell_not_elapsed" })
  else if sm.inCooldown manifestId t.cooldown = true then
    (sm, { accepted := false, newState := sm.state, action := .hold,
           manifestId := sm.activeManifestId, reason := some "cooldown" })
  else
    (sm.switchTo manifestId minDwellMs cooldownMs t,
      { accepted := true, newState := .active, action := .playManifest,
        manifestId := some manifestId })

def onFreeze (sm : StateMachine) (reason : Option String) : StateMachine × TransitionResult :=
  match sm.state with
  | .safeMode =>
    (sm, { accepted := false, newState := sm.state, action := .showFallback,
           reason := some "safe_mode" })
  | .fallback =>
    (sm, { accepted := false, newState := sm.state, action := .showFallback,
           reason := some "no_active_creative" })
  | .frozen =>
    ({ sm with freezeReason := reason },
      { accepted := true, newState := sm.state, action := .hold,
        manifestId := sm.activeManifestId })
  | .active =>
    ({ sm with state := .frozen, freezeReason := reason },
      { accepted := true, newState := .frozen, action := .hold,
        manifestId := sm.activeManifestId })

def onSafeMode (sm : StateMachine) (reason : Option String) (now : ℚ) :
    StateMachine × TransitionResult :=
  ({ sm with
      state := .safeMode
      safeModeReason := reason
      activeManifestId := none
      activatedAt := none
      freezeReason := none
      cooldowns := sm.recordCooldown now },
    { accepted := true, newState := .safeMode, action := .showFallback, reason := reason })

def onClearSafeMode (sm : StateMachine) : StateMachine × TransitionResult :=
  if sm.state ≠ .safeMode then
    (sm, { accepted := false, newState := sm.state, action := .hold,
           reason := some "not_in_safe_mode" })
  else
    ({ sm with state := .fallback, safeModeReason := none },
      { accepted := true, newState := .fallback, action := .showFallback })

def onConnectionLost (sm : StateMachine) (now : ℚ) : StateMachine × TransitionResult :=
  if sm.state = .safeMode then
    (sm, { accepted := true, newState := sm.state, action := .showFallback,
           reason := some "connection_lost_in_safe_mode" })
  else
    ({ sm with
        state := .fallback
        activeManifestId := none
        activatedAt := none
        freezeReason := none
        cooldowns := sm.recordCooldown now },
      { accepted := true, newState := .fallback, action := .showFallback,
        reason := some "connection_lost" })

def Accepts (sm : StateMachine) (manifestId : String) (t : ActivateClock) : Prop :=
  sm.state ≠ .safeMode ∧ (sm.state = .active → sm.dwellElapsed t.dwell = true) ∧
    sm.inCooldown manifestId t.cooldown = false

instance (sm : StateMachine) (manifestId : String) (t : ActivateClock) :
    Decidable (sm.Accepts manifestId t) :=
  inferInstanceAs (Decidable (_ ∧ _ ∧ _))

/-! ### What each operation does -/

section Cases

variable (sm : StateMachine) (manifestId : String) (minDwellMs cooldownMs : ℤ)
  (rationale reason : Option String) (t : ActivateClock) (now : ℚ)

theorem onActivateCreative_accepted (h : sm.Accepts manifestId t) :
    sm.onActivateCreative manifestId minDwellMs cooldownMs rationale t =
      (sm.switchTo manifestId minDwellMs cooldownMs t,
        { accepted := true, newState := .active, action := .playManifest,
          manifestId := some manifestId }) := by
  obtain ⟨hs, hd, hc⟩ := h
  have hdwell : ¬ (sm.state = .active ∧ sm.dwellElapsed t.dwell = false) := by
    intro hf
    have helapsed := hd hf.1
    rw [hf.2] at helapsed
    cases helapsed
  simp [onActivateCreative, hs, hdwell, hc]

theorem onActivateCreative_rejected (h : ¬ sm.Accepts manifestId t) :
    ∃ r : TransitionResult,
      sm.onActivateCreative manifestId minDwellMs cooldownMs rationale t = (sm, r) ∧
        r.accepted = false ∧ r.newState = sm.state ∧
        ((r.action = .showFallback ∧ sm.state = .safeMode) ∨
          (r.action = .hold ∧ r.manifestId = sm.activeManifestId)) := by
  by_cases hs : sm.state = .safeMode
  · exact ⟨_, if_pos hs, rfl, rfl, Or.inl ⟨rfl, hs⟩⟩
  by_cases hd : sm.state = .active ∧ sm.dwellElapsed t.dwell = false
  · exact ⟨_, (if_neg hs).trans (if_pos hd), rfl, rfl, Or.inr ⟨rfl, rfl⟩⟩
  by_cases hc : sm.inCooldown manifestId t.cooldown = true
  · exact ⟨_, (if_neg hs).trans ((if_neg hd).trans (if_pos hc)), rfl, rfl,
      Or.inr ⟨rfl, rfl⟩⟩
  · refine absurd ⟨hs, ?_, by simpa using hc⟩ h
    intro ha
    by_contra hf
    exact hd ⟨ha, by simpa using hf⟩

theorem onActivateCreative_accepted_iff :
    (sm.onActivateCreative manifestId minDwellMs cooldownMs rationale t).2.accepted = true ↔
      sm.Accepts manifestId t := by
  refine ⟨fun h => ?_, fun h => ?_⟩
  · by_contra hn
    obtain ⟨r, hr, hacc, -⟩ :=
      onActivateCreative_rejected sm manifestId minDwellMs cooldownMs rationale t hn
    rw [hr, hacc] at h
    cases h
  · rw [onActivateCreative_accepted sm manifestId minDwellMs cooldownMs rationale t h]

theorem onClearSafeMode_eq (h : sm.state = .safeMode) :
    sm.onClearSafeMode = ({ sm with state := .fallback, safeModeReason := none },
      { accepted := true, newState := .fallback, action := .showFallback }) := by
  simp [onClearSafeMode, h]

theorem onClearSafeMode_state : sm.onClearSafeMode.1.state ≠ .safeMode := by
  by_cases h : sm.state = .safeMode
  · simp [onClearSafeMode, h]
  · simp [onClearSafeMode, h]

theorem onClearSafeMode_active : sm.onClearSafeMode.1.activeManifestId = sm.activeManifestId := by
  by_cases h : sm.state = .safeMode
  · simp [onClearSafeMode, h]
  · simp [onClearSafeMode, h]

theorem onConnectionLost_active : (sm.onConnectionLost now).1.activeManifestId =
    if sm.state = .safeMode then sm.activeManifestId else none := by
  by_cases h : sm.state = .safeMode <;> simp [onConnectionLost, h]

@[simp] theorem onSafeMode_state : (sm.onSafeMode reason now).1.state = .safeMode := rfl

@[simp] theorem onSafeMode_active : (sm.onSafeMode reason now).1.activeManifestId = none := rfl

@[simp] theorem switchTo_state :
    (sm.switchTo manifestId minDwellMs cooldownMs t).state = .active := rfl

@[simp] theorem switchTo_active :
    (sm.switchTo manifestId minDwellMs cooldownMs t).activeManifestId = some manifestId := rfl

end Cases

end StateMachine

/-! ### Runs -/

inductive Op where
  | activateCreative (manifestId : String) (minDwellMs cooldownMs : ℤ)
      (rationale : Option String) (t : ActivateClock)
  | freeze (reason : Option String)
  | safeMode (reason : Option String) (now : ℚ)
  | clearSafeMode
  | connectionLost (now : ℚ)

def Op.readings : Op → List ℚ
  | .activateCreative _ _ _ _ t => t.readings
  | .freeze _ => []
  | .safeMode _ now => [now]
  | .clearSafeMode => []
  | .connectionLost now => [now]

def StateMachine.step (sm : StateMachine) : Op → StateMachine × TransitionResult
  | .activateCreative m d c r t => sm.onActivateCreative m d c r t
  | .freeze reason => sm.onFreeze reason
  | .safeMode reason now => sm.onSafeMode reason now
  | .clearSafeMode => sm.onClearSafeMode
  | .connectionLost now => sm.onConnectionLost now

def machine : Machine StateMachine Op TransitionResult := ⟨StateMachine.init, StateMachine.step⟩

end AdaptiveAdvertisement.Player
