import AdaptiveAdvertisement.Player.State

/-!
# The representation invariant of the player

Which of the coupled fields of `StateMachine` are set in which state, and what every
`TransitionResult` says about the state it comes with.
-/

namespace AdaptiveAdvertisement.Player
open Library

def PlayerState.showing (s : PlayerState) : Prop := s = .active ∨ s = .frozen

/-- The representation invariant of `state.py:68-76`. -/
structure WellFormed (sm : StateMachine) : Prop where
  active_iff : sm.activeManifestId.isSome ↔ sm.state.showing
  activated_iff : sm.activatedAt.isSome ↔ sm.state.showing
  freezeReason_frozen : sm.freezeReason.isSome → sm.state = .frozen
  safeModeReason_safeMode : sm.safeModeReason.isSome → sm.state = .safeMode

theorem WellFormed.active_eq_none {sm : StateMachine} (h : WellFormed sm)
    (hs : sm.state = .fallback ∨ sm.state = .safeMode) : sm.activeManifestId = none := by
  have hnone : ¬ sm.activeManifestId.isSome := by
    rw [h.active_iff]
    rcases hs with hs | hs <;> simp [hs, PlayerState.showing]
  simpa using hnone

structure StepLaw (sm : StateMachine) (op : Op) : Prop where
  newState_eq : (sm.step op).2.newState = (sm.step op).1.state
  safeMode_left : sm.state = .safeMode → (sm.step op).1.state ≠ .safeMode →
    op = .clearSafeMode
  rejected_frame : (sm.step op).2.accepted = false → (sm.step op).1 = sm
  play_names_active : (sm.step op).2.action = .playManifest →
    (sm.step op).2.manifestId.isSome ∧
      (sm.step op).2.manifestId = (sm.step op).1.activeManifestId
  fallback_state : (sm.step op).2.action = .showFallback →
    (sm.step op).1.state = .fallback ∨ (sm.step op).1.state = .safeMode

namespace StateMachine

/-! ### The invariant is kept -/

theorem init_wellFormed : WellFormed init where
  active_iff := by simp [init, PlayerState.showing]
  activated_iff := by simp [init, PlayerState.showing]
  freezeReason_frozen := by simp [init]
  safeModeReason_safeMode := by simp [init]

theorem switchTo_wellFormed {sm : StateMachine} (h : WellFormed sm) (hs : sm.state ≠ .safeMode)
    (m : String) (d c : ℤ) (t : ActivateClock) : WellFormed (sm.switchTo m d c t) where
  active_iff := by simp [switchTo, PlayerState.showing]
  activated_iff := by simp [switchTo, PlayerState.showing]
  freezeReason_frozen := by simp [switchTo]
  safeModeReason_safeMode := fun hr => absurd (h.safeModeReason_safeMode hr) hs

theorem onActivateCreative_wellFormed {sm : StateMachine} (h : WellFormed sm) (m : String)
    (d c : ℤ) (r : Option String) (t : ActivateClock) :
    WellFormed (sm.onActivateCreative m d c r t).1 := by
  by_cases ha : sm.Accepts m t
  · rw [onActivateCreative_accepted sm m d c r t ha]
    exact switchTo_wellFormed h ha.1 m d c t
  · obtain ⟨res, hres, -⟩ := onActivateCreative_rejected sm m d c r t ha
    rw [hres]
    exact h

theorem onFreeze_wellFormed {sm : StateMachine} (h : WellFormed sm) (reason : Option String) :
    WellFormed (sm.onFreeze reason).1 := by
  unfold onFreeze
  split
  · exact h
  · exact h
  next hs =>
    -- a second freeze only replaces the reason
    exact { h with freezeReason_frozen := fun _ => hs }
  next hs =>
    refine ⟨?_, ?_, fun _ => rfl, fun hr => ?_⟩
    · simp [h.active_iff, hs, PlayerState.showing]
    · simp [h.activated_iff, hs, PlayerState.showing]
    · have := h.safeModeReason_safeMode hr
      rw [hs] at this
      cases this

theorem onSafeMode_wellFormed (sm : StateMachine) (reason : Option String) (now : ℚ) :
    WellFormed (sm.onSafeMode reason now).1 where
  active_iff := by simp [onSafeMode, PlayerState.showing]
  activated_iff := by simp [onSafeMode, PlayerState.showing]
  freezeReason_frozen := by simp [onSafeMode]
  safeModeReason_safeMode := fun _ => rfl

theorem onClearSafeMode_wellFormed {sm : StateMachine} (h : WellFormed sm) :
    WellFormed sm.onClearSafeMode.1 := by
  by_cases hs : sm.state = .safeMode
  · rw [onClearSafeMode_eq sm hs]
    refine ⟨?_, ?_, fun hr => ?_, fun hr => ?_⟩
    · simp [h.active_iff, hs, PlayerState.showing]
    · simp [h.activated_iff, hs, PlayerState.showing]
    · have := h.freezeReason_frozen hr
      rw [hs] at this
      cases this
    · simp at hr
  · simpa [onClearSafeMode, hs] using h

theorem onConnectionLost_wellFormed {sm : StateMachine} (h : WellFormed sm) (now : ℚ) :
    WellFormed (sm.onConnectionLost now).1 := by
  by_cases hs : sm.state = .safeMode
  · simpa [onConnectionLost, hs] using h
  · simp only [onConnectionLost, hs, ite_false]
    refine ⟨?_, ?_, fun hr => ?_, fun hr => absurd (h.safeModeReason_safeMode hr) hs⟩
    · simp [PlayerState.showing]
    · simp [PlayerState.showing]
    · simp at hr

theorem step_wellFormed (sm : StateMachine) (op : Op) (h : WellFormed sm) :
    WellFormed (sm.step op).1 := by
  cases op with
  | activateCreative m d c r t => exact onActivateCreative_wellFormed h m d c r t
  | freeze reason => exact onFreeze_wellFormed h reason
  | safeMode reason now => exact onSafeMode_wellFormed sm reason now
  | clearSafeMode => exact onClearSafeMode_wellFormed h
  | connectionLost now => exact onConnectionLost_wellFormed h now

/-! ### What one call returns -/

theorem onActivateCreative_law (sm : StateMachine) (m : String) (d c : ℤ) (r : Option String)
    (t : ActivateClock) : StepLaw sm (.activateCreative m d c r t) := by
  by_cases ha : sm.Accepts m t
  · have hstep := onActivateCreative_accepted sm m d c r t ha
    refine ⟨?_, fun hs _ => absurd hs ha.1, ?_, ?_, ?_⟩
    · simp [step, hstep]
    · simp [step, hstep]
    · simp [step, hstep]
    · simp [step, hstep]
  · obtain ⟨res, hres, hacc, hnew, haction⟩ := onActivateCreative_rejected sm m d c r t ha
    have hstep : sm.step (.activateCreative m d c r t) = (sm, res) := hres
    refine ⟨?_, fun hs hleft => ?_, fun _ => ?_, fun hplay => ?_, fun hfall => ?_⟩
    · rw [hstep, hnew]
    · rw [hstep] at hleft
      exact absurd hs hleft
    · rw [hstep]
    · rw [hstep] at hplay
      -- a refusal either shows the fallback or holds what is on screen
      rcases haction with ⟨h, -⟩ | ⟨h, -⟩
      · rw [h] at hplay
        cases hplay
      · rw [h] at hplay
        cases hplay
    · rw [hstep] at hfall ⊢
      rcases haction with ⟨-, hs⟩ | ⟨h, -⟩
      · exact Or.inr hs
      · rw [h] at hfall
        cases hfall

theorem onFreeze_law (sm : StateMachine) (reason : Option String) :
    StepLaw sm (.freeze reason) := by
  cases hs : sm.state <;> constructor <;> simp [step, onFreeze, hs]

theorem onSafeMode_law (sm : StateMachine) (reason : Option String) (now : ℚ) :
    StepLaw sm (.safeMode reason now) := by
  constructor <;> simp [step, onSafeMode]

theorem onClearSafeMode_law (sm : StateMachine) : StepLaw sm .clearSafeMode := by
  by_cases hs : sm.state = .safeMode <;> constructor <;> simp [step, onClearSafeMode, hs]

theorem onConnectionLost_law (sm : StateMachine) (now : ℚ) :
    StepLaw sm (.connectionLost now) := by
  by_cases hs : sm.state = .safeMode <;> constructor <;> simp [step, onConnectionLost, hs]

theorem step_law (sm : StateMachine) (op : Op) : StepLaw sm op := by
  cases op with
  | activateCreative m d c r t => exact onActivateCreative_law sm m d c r t
  | freeze reason => exact onFreeze_law sm reason
  | safeMode reason now => exact onSafeMode_law sm reason now
  | clearSafeMode => exact onClearSafeMode_law sm
  | connectionLost now => exact onConnectionLost_law sm now

theorem step_hold {sm : StateMachine} {op : Op} (h : (sm.step op).2.action = .hold) :
    (sm.step op).1.activeManifestId = sm.activeManifestId := by
  cases op with
  | activateCreative m d c r t =>
    by_cases ha : sm.Accepts m t
    · have hstep := onActivateCreative_accepted sm m d c r t ha
      simp [step, hstep] at h
    · obtain ⟨res, hres, -⟩ := onActivateCreative_rejected sm m d c r t ha
      simp [step, hres]
  | freeze reason => cases hs : sm.state <;> simp [step, onFreeze, hs]
  | safeMode reason now => simp [step, onSafeMode] at h
  | clearSafeMode => exact onClearSafeMode_active sm
  | connectionLost now =>
    by_cases hs : sm.state = .safeMode
    · simp [step, onConnectionLost, hs]
    · simp [step, onConnectionLost, hs] at h

/-! ### Whole runs -/

theorem run_wellFormed (ops : List Op) : WellFormed (machine.run machine.init ops) :=
  Machine.run_inv (M := machine) step_wellFormed init_wellFormed ops

theorem run_representation (ops : List Op) :
    WellFormed (machine.run machine.init ops) ∧ machine.EachStep StepLaw machine.init ops :=
  ⟨run_wellFormed ops,
    Machine.eachStep_of_inv step_wellFormed (fun sm op _ => step_law sm op) init_wellFormed ops⟩

end StateMachine

end AdaptiveAdvertisement.Player
