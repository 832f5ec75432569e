import AdaptiveAdvertisement.Player.Renderer

/-!
# The control session of the player (`player/command_handler.py`)

`CommandHandler.run` 134-174 connects to the optimizer, handles the frames of a session, and
connects again when it ends. A session that ends abnormally and an attempt that fails leave the
`async with` through the `except` clause, which calls `on_connection_lost`; a session that the
peer closes in good order ends the `async for` silently and skips it.
-/

namespace AdaptiveAdvertisement.Player
open Library

inductive Close where
  | normal
  | abnormal
  deriving DecidableEq

/-- Where `run` stands. `handled` tells whether the session has had a frame; an exception out of
`handle_raw` ends `run` itself. -/
inductive Phase where
  | connecting
  | session (handled : Bool)
  | stopped
  deriving DecidableEq

instance (s : PlayerState) : Decidable s.showing := inferInstanceAs (Decidable (_ ∨ _))

/-- `left` tells of the content on screen that a normal close has left it there, with neither a
failed attempt nor a safe mode since. -/
structure ControlSession where
  handler : CommandHandler
  phase : Phase := .connecting
  left : Bool := false

/-- The steps of `run`, and the two requests of the control endpoint (`health.py`). -/
inductive SessionStep (τ : Type) where
  | connectFails (now : ℚ)
  | connects
  | frame (raw : τ) (t : FrameClock)
  | ends (how : Close) (now : ℚ)
  | engageSafeMode (reason : Option String) (now : ℚ)
  | clearSafeMode

namespace ControlSession

variable {τ : Type} (rt : Runtime τ)

def setSm (s : ControlSession) (sm : StateMachine) : ControlSession :=
  { s with handler := { s.handler with sm := sm } }

def lost (s : ControlSession) (now : ℚ) : ControlSession :=
  { s.setSm (s.handler.sm.onConnectionLost now).1 with phase := .connecting, left := false }

def step (s : ControlSession) : SessionStep τ → ControlSession
  | .connectFails now => if s.phase = .connecting then s.lost now else s
  | .connects =>
    if s.phase = .connecting then
      { s with handler := s.handler.resetSession, phase := .session false }
    else s
  | .frame raw t =>
    match s.phase with
    | .session _ =>
      match s.handler.handleRaw rt raw t with
      | (handler, .ok _) => { s with handler := handler, phase := .session true }
      | (handler, .error _) => { s with handler := handler, phase := .stopped }
    | _ => s
  | .ends how now =>
    match s.phase, how with
    | .session _, .abnormal => s.lost now
    | .session _, .normal =>
      { s with phase := .connecting, left := decide (s.handler.sm.state.showing) }
    | _, _ => s
  | .engageSafeMode reason now =>
    { s.setSm (s.handler.sm.onSafeMode reason now).1 with left := false }
  | .clearSafeMode => s.setSm s.handler.sm.onClearSafeMode.1

/-- No frame of a session. -/
def Quiet (s : ControlSession) (i : SessionStep τ) : Prop :=
  ∀ raw t handled, i = .frame raw t → s.phase ≠ .session handled

/-- All that one step can do. -/
inductive Moves (s : ControlSession) : SessionStep τ → ControlSession → Prop
  | ignored {i : SessionStep τ} (hquiet : s.Quiet i) : Moves s i s
  | lost {i : SessionStep τ} (now : ℚ) (hquiet : s.Quiet i) : Moves s i (s.lost now)
  | connected (hphase : s.phase = .connecting) :
    Moves s .connects { s with handler := s.handler.resetSession, phase := .session false }
  | handled (raw : τ) (t : FrameClock) (before : Bool) (phase : Phase)
    (hsession : s.phase = .session before) (hphase : phase ≠ .connecting)
    (hhandled : phase ≠ .session false) :
    Moves s (.frame raw t) { s with handler := (s.handler.handleRaw rt raw t).1, phase := phase }
  | closed (now : ℚ) : Moves s (.ends .normal now)
      { s with phase := .connecting, left := decide (s.handler.sm.state.showing) }
  | engaged (reason : Option String) (now : ℚ) : Moves s (.engageSafeMode reason now)
      { s.setSm (s.handler.sm.onSafeMode reason now).1 with left := false }
  | cleared : Moves s .clearSafeMode (s.setSm s.handler.sm.onClearSafeMode.1)

theorem step_moves (s : ControlSession) (i : SessionStep τ) : s.Moves rt i (s.step rt i) := by
  cases i with
  | connectFails now =>
    have hquiet : s.Quiet (.connectFails now : SessionStep τ) := fun _ _ _ hi => by cases hi
    by_cases hp : s.phase = .connecting
    · simpa only [step, hp, if_true] using .lost now hquiet
    · simpa only [step, hp, if_false] using .ignored hquiet
  | connects =>
    by_cases hp : s.phase = .connecting
    · simpa only [step, hp, if_true] using .connected hp
    · simpa only [step, hp, if_false] using .ignored fun _ _ _ hi => by cases hi
  | frame raw t =>
    cases hp : s.phase with
    | connecting => simpa only [step, hp] using .ignored fun _ _ _ _ => by simp [hp]
    | stopped => simpa only [step, hp] using .ignored fun _ _ _ _ => by simp [hp]
    | session before =>
      have hmoves : ∀ phase, phase ≠ .connecting → phase ≠ .session false →
          s.Moves rt (.frame raw t)
            { s with handler := (s.handler.handleRaw rt raw t).1, phase := phase } :=
        fun phase => .handled raw t before phase hp
      rcases hr : s.handler.handleRaw rt raw t with ⟨handler, outcome⟩
      rw [hr] at hmoves
      cases outcome with
      | ok outcome => simpa only [step, hp, hr] using hmoves (.session true) (by simp) (by simp)
      | error e => simpa only [step, hp, hr] using hmoves .stopped (by simp) (by simp)
  | ends how now =>
    have hquiet : s.Quiet (.ends how now : SessionStep τ) := fun _ _ _ hi => by cases hi
    cases hp : s.phase with
    | connecting => simpa only [step, hp] using .ignored hquiet
    | stopped => simpa only [step, hp] using .ignored hquiet
    | session before =>
      cases how with
      | normal => simpa only [step, hp] using .closed now
      | abnormal => simpa only [step, hp] using .lost now hquiet
  | engageSafeMode reason now => exact .engaged reason now
  | clearSafeMode => exact .cleared

end ControlSession

variable {τ : Type}

def controlLoop (rt : Runtime τ) (store : ManifestStore) :
    Machine ControlSession (SessionStep τ) Unit where
  init := { handler := { sm := StateMachine.init, store := store } }
  step := fun s i => (s.step rt i, ())

/-! ### The law -/

/-- Before the first command of a session is handled, nothing of an earlier one is shown. -/
def StartsInFallback (s : ControlSession) : SessionStep τ → Prop
  | .frame _ _ => s.phase = .session false → ¬ s.handler.sm.state.showing
  | _ => True

/-- The first command of a session does not come upon content that a normal close has left. -/
def NothingLeft (s : ControlSession) : SessionStep τ → Prop
  | .frame _ _ => s.phase = .session false → s.left = false
  | _ => True

/-! ### What is shown between the commands of two sessions -/

def Tracked (s : ControlSession) : Prop :=
  s.phase = .connecting ∨ s.phase = .session false →
    (s.left = true ↔ s.handler.sm.state.showing)

section Steps

variable {rt : Runtime τ} {s : ControlSession}

theorem onConnectionLost_hidden (sm : StateMachine) (now : ℚ) :
    ¬ (sm.onConnectionLost now).1.state.showing := by
  by_cases h : sm.state = .safeMode
  · simp [PlayerState.showing, StateMachine.onConnectionLost, h]
  · simp [PlayerState.showing, StateMachine.onConnectionLost, h]

theorem onClearSafeMode_showing (sm : StateMachine) :
    sm.onClearSafeMode.1.state.showing ↔ sm.state.showing := by
  by_cases h : sm.state = .safeMode
  · simp [PlayerState.showing, StateMachine.onClearSafeMode, h]
  · simp [PlayerState.showing, StateMachine.onClearSafeMode, h]

theorem tracked_lost (s : ControlSession) (now : ℚ) : Tracked (s.lost now) := by
  intro _
  have hhidden := onConnectionLost_hidden s.handler.sm now
  exact ⟨fun h => (by cases h), fun h => absurd h hhidden⟩

theorem tracked_step (h : Tracked s) (i : SessionStep τ) : Tracked (s.step rt i) := by
  have hmoves := s.step_moves rt i
  generalize s.step rt i = s' at hmoves
  cases hmoves with
  | ignored => exact h
  | lost now => exact tracked_lost s now
  | connected hphase => exact fun _ => h (Or.inl hphase)
  | handled raw t before phase hsession hphase hhandled =>
    intro hbetween
    rcases hbetween with hconnecting | hfirst
    · exact absurd hconnecting hphase
    · exact absurd hfirst hhandled
  | closed now => exact fun _ => decide_eq_true_iff
  | engaged reason now =>
    intro _
    have hhidden : ¬ (s.handler.sm.onSafeMode reason now).1.state.showing := by
      simp [PlayerState.showing]
    exact ⟨fun hl => (by cases hl), fun hs => absurd hs hhidden⟩
  | cleared =>
    intro hphase
    exact (h hphase).trans (onClearSafeMode_showing s.handler.sm).symm

theorem startsInFallback_iff (h : Tracked s) (i : SessionStep τ) :
    StartsInFallback s i ↔ NothingLeft s i := by
  cases i with
  | frame raw t =>
    refine ⟨fun hstarts hp => ?_, fun hleft hp => ?_⟩
    · have htracked := h (Or.inr hp)
      rw [Bool.eq_false_iff]
      exact fun hl => hstarts hp (htracked.mp hl)
    · intro hshowing
      have hl := (h (Or.inr hp)).mpr hshowing
      rw [hleft hp] at hl
      cases hl
  | connectFails now => exact Iff.rfl
  | connects => exact Iff.rfl
  | ends how now => exact Iff.rfl
  | engageSafeMode reason now => exact Iff.rfl
  | clearSafeMode => exact Iff.rfl

/-- In every run each session starts in fallback exactly when no first command comes upon content
that a normal close has left on screen. -/
theorem startsInFallback_run_iff (rt : Runtime τ) (store : ManifestStore)
    (is : List (SessionStep τ)) :
    (controlLoop rt store).EachStep StartsInFallback (controlLoop rt store).init is ↔
      (controlLoop rt store).EachStep NothingLeft (controlLoop rt store).init is := by
  refine Machine.eachStep_iff (M := controlLoop rt store) (I := Tracked)
    (fun _ i h => tracked_step h i) (fun _ i h => startsInFallback_iff h i) ?_ is
  intro _
  exact ⟨fun h => (by cases h),
    fun h => by simp [PlayerState.showing, controlLoop, StateMachine.init] at h⟩

end Steps

/-! ### A graceful restart of the optimizer -/

def posterCommand : Json :=
  .obj [("schema_version", .str "1.0.0"), ("command_id", .str "c-1"), ("sequence_number", .int 1),
    ("produced_at", .str "2026-01-01T00:00:00Z"), ("command_type", .str "activate_creative"),
    ("activate_creative", .obj [("manifest_id", .str "poster"), ("min_dwell_ms", .int 0)])]

def freezeCommand : Json :=
  .obj [("schema_version", .str "1.0.0"), ("command_id", .str "c-2"), ("sequence_number", .int 1),
    ("produced_at", .str "2026-01-01T00:01:00Z"), ("command_type", .str "freeze")]

theorem content_left_by_normal_close :
    ¬ ∀ (rt : Runtime Json) (store : ManifestStore) (is : List (SessionStep Json)),
      (controlLoop rt store).EachStep StartsInFallback (controlLoop rt store).init is := by
  intro h
  have hrun := h jsonRuntime posterStore [.connects, .frame posterCommand ⟨0, .at 0⟩,
    .ends .normal 60, .connects, .frame freezeCommand ⟨61, .at 61⟩]
  have hhidden := hrun.2.2.2.2.1 (by decide +kernel)
  exact hhidden (by decide +kernel)

end AdaptiveAdvertisement.Player
