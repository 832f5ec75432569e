import AdaptiveAdvertisement.Player.StateInvariant

/-!
# The ICD-9 event stream (`player/event_publisher.py`, `player/main.py`)

`on_transition` (`main.py:228-253`) publishes events for a transition result and remembers the
manifest it last announced. The id and the time of an event are left out, and so is
`_execute_transition`, which renders.

Source lines: the event types `player-event.schema.json:31-41`, `_build_event`
`event_publisher.py:34-55`, the publisher's methods 78-116.
-/

namespace AdaptiveAdvertisement.Player
open Library

inductive EventType where
  | manifestActivated
  | manifestDeactivated
  | frozen
  | safeModeEntered
  | safeModeCleared
  | fallbackEntered
  deriving DecidableEq

structure PlayerEvent where
  eventType : EventType
  manifestId : Option String := none
  dwellElapsed : Option Bool := none
  ruleRationale : Option String := none
  deriving DecidableEq

namespace PlayerEvent

def manifestActivated (manifestId : String) (ruleRationale : Option String) : PlayerEvent where
  eventType := .manifestActivated
  manifestId := manifestId
  ruleRationale := ruleRationale

def manifestDeactivated (manifestId : String) (dwellElapsed : Option Bool) : PlayerEvent where
  eventType := .manifestDeactivated
  manifestId := manifestId
  dwellElapsed := dwellElapsed

def frozen : PlayerEvent := { eventType := .frozen }

def safeModeEntered : PlayerEvent := { eventType := .safeModeEntered }

def fallbackEntered : PlayerEvent := { eventType := .fallbackEntered }

end PlayerEvent

/-- The manifest remembered after one result, and the events published for it. -/
def onTransition (prev : Option String) (result : TransitionResult) :
    Option String × List PlayerEvent :=
  match result.action with
  | .playManifest =>
    match result.manifestId with
    | none => (prev, [])
    | some m =>
      -- the empty id is falsy
      if m = "" then (prev, [])
      else
        (some m, ((prev.filter fun p => decide (p ≠ m)).map fun p =>
          PlayerEvent.manifestDeactivated p none).toList ++
            [PlayerEvent.manifestActivated m result.reason])
  | .showFallback =>
    match prev with
    | none => (none, [])
    | some _ =>
      (none, [if result.newState = .safeMode then PlayerEvent.safeModeEntered
        else PlayerEvent.fallbackEntered])
  | .hold => (prev, if result.newState = .frozen then [PlayerEvent.frozen] else [])

/-! ### Replaying the stream -/

structure Replayed where
  state : PlayerState := .fallback
  activeManifestId : Option String := none
  deriving DecidableEq

def Replayed.apply (r : Replayed) (e : PlayerEvent) : Replayed :=
  match e.eventType with
  | .manifestActivated => ⟨.active, e.manifestId⟩
  | .manifestDeactivated => r
  | .frozen => { r with state := .frozen }
  | .safeModeEntered => ⟨.safeMode, none⟩
  | .safeModeCleared => ⟨.fallback, none⟩
  | .fallbackEntered => ⟨.fallback, none⟩

def replay (events : List PlayerEvent) : Replayed := events.foldl Replayed.apply {}

theorem replay_append (l events : List PlayerEvent) :
    replay (l ++ events) = events.foldl Replayed.apply (replay l) := List.foldl_append

def StateMachine.shown (sm : StateMachine) : Replayed := ⟨sm.state, sm.activeManifestId⟩

/-! ### Runs -/

/-- The player with all the events that it has published. -/
structure EventStream where
  sm : StateMachine := .init
  prevManifestId : Option String := none
  published : List PlayerEvent := []

def eventStream : Machine EventStream Op (TransitionResult × List PlayerEvent) where
  init := {}
  step := fun s op =>
    let (sm, result) := s.sm.step op
    let (prev, events) := onTransition s.prevManifestId result
    (⟨sm, prev, s.published ++ events⟩, result, events)

/-- The stream gives the state of the machine back, and a rejected command adds nothing to it. -/
structure Replays (s : EventStream) (op : Op) : Prop where
  shown : replay (eventStream.next s op).published = (eventStream.next s op).sm.shown
  rejected : (eventStream.out s op).1.accepted = false → (eventStream.out s op).2 = []

/-- The operations that the published events tell of. -/
def Announced (s : EventStream) : Op → Prop
  | .activateCreative m _ _ _ t =>
    (s.sm.Accepts m t → m ≠ "") ∧ (¬ s.sm.Accepts m t → s.sm.state ≠ .frozen)
  | .freeze _ => True
  | .safeMode _ _ => s.sm.state ≠ .fallback
  | .clearSafeMode => s.sm.state ≠ .safeMode ∧ s.sm.state ≠ .frozen
  | .connectionLost _ => True

structure InStep (s : EventStream) : Prop where
  wellFormed : WellFormed s.sm
  named : s.sm.activeManifestId ≠ some ""
  prev : s.prevManifestId = s.sm.activeManifestId
  replayed : replay s.published = s.sm.shown

/-! ### One step -/

section Step

variable {s : EventStream} {op : Op}

/-- A step as one equation. -/
theorem eventStream_step (s : EventStream) (op : Op) :
    eventStream.step s op =
      (⟨(s.sm.step op).1, (onTransition s.prevManifestId (s.sm.step op).2).1,
        s.published ++ (onTransition s.prevManifestId (s.sm.step op).2).2⟩,
        (s.sm.step op).2, (onTransition s.prevManifestId (s.sm.step op).2).2) := rfl

theorem next_wellFormed (h : InStep s) : WellFormed (eventStream.next s op).sm :=
  StateMachine.step_wellFormed s.sm op h.wellFormed

/-- What there is to show of a step whose machine state and events are known. -/
theorem replays_of_step {sm : StateMachine} {prev : Option String} {r : TransitionResult}
    {events : List PlayerEvent}
    (hstep : eventStream.step s op = (⟨sm, prev, s.published ++ events⟩, r, events)) :
    Replays s op ↔ events.foldl Replayed.apply (replay s.published) = sm.shown ∧
      (r.accepted = false → events = []) := by
  have hnext : eventStream.next s op = ⟨sm, prev, s.published ++ events⟩ :=
    congrArg Prod.fst hstep
  have hout : eventStream.out s op = (r, events) := congrArg Prod.snd hstep
  rw [← replay_append]
  refine ⟨fun h => ?_, fun h => ⟨?_, ?_⟩⟩
  · have hshown := h.shown
    have hrejected := h.rejected
    rw [hnext] at hshown
    rw [hout] at hrejected
    exact ⟨hshown, hrejected⟩
  · rw [hnext]
    exact h.1
  · rw [hout]
    exact h.2

/-- What a step has to keep for the next one. -/
structure Follows (s : EventStream) (op : Op) : Prop where
  replays : Replays s op
  prev : (eventStream.next s op).prevManifestId = (eventStream.next s op).sm.activeManifestId
  named : (eventStream.next s op).sm.activeManifestId ≠ some ""

theorem Follows.inStep (hfollows : Follows s op) (h : InStep s) : InStep (eventStream.next s op) :=
  ⟨next_wellFormed h, hfollows.named, hfollows.prev, hfollows.replays.shown⟩

theorem follows_of_step {sm : StateMachine} {prev : Option String} {r : TransitionResult}
    {events : List PlayerEvent}
    (hstep : eventStream.step s op = (⟨sm, prev, s.published ++ events⟩, r, events))
    (hshown : events.foldl Replayed.apply (replay s.published) = sm.shown)
    (hrejected : r.accepted = false → events = []) (hprev : prev = sm.activeManifestId)
    (hnamed : sm.activeManifestId ≠ some "") : Follows s op := by
  have hnext : eventStream.next s op = ⟨sm, prev, s.published ++ events⟩ :=
    congrArg Prod.fst hstep
  refine ⟨(replays_of_step hstep).mpr ⟨hshown, hrejected⟩, ?_, ?_⟩
  · rw [hnext]
    exact hprev
  · rw [hnext]
    exact hnamed

section InStep

variable (h : InStep s)
include h

theorem prev_eq_none (hs : s.sm.state = .fallback ∨ s.sm.state = .safeMode) :
    s.prevManifestId = none := h.prev.trans (h.wellFormed.active_eq_none hs)

theorem prev_isSome (hs : s.sm.state.showing) : ∃ p, s.prevManifestId = some p := by
  rw [h.prev]
  exact Option.isSome_iff_exists.mp (h.wellFormed.active_iff.mpr hs)

theorem follows_nothing {r : TransitionResult}
    (hstep : s.sm.step op = (s.sm, r)) (hquiet : onTransition s.prevManifestId r =
      (s.prevManifestId, [])) : Follows s op := by
  have heq : eventStream.step s op = (⟨s.sm, s.prevManifestId, s.published ++ []⟩, r, []) := by
    rw [eventStream_step, hstep, hquiet]
  exact follows_of_step heq h.replayed (fun _ => rfl) h.prev h.named

theorem follows_frozen {sm : StateMachine} {r : TransitionResult}
    (hstep : s.sm.step op = (sm, r)) (haction : r.action = .hold) (hnew : r.newState = .frozen)
    (hacc : r.accepted = true) (hstate : sm.state = .frozen)
    (hactive : sm.activeManifestId = s.sm.activeManifestId) : Follows s op := by
  have hevents : onTransition s.prevManifestId r = (s.prevManifestId, [PlayerEvent.frozen]) := by
    simp [onTransition, haction, hnew]
  refine follows_of_step (by rw [eventStream_step, hstep, hevents]) ?_ ?_ ?_ ?_
  · simp [h.replayed, Replayed.apply, PlayerEvent.frozen, StateMachine.shown, hstate, hactive]
  · simp [hacc]
  · rw [hactive, h.prev]
  · rw [hactive]
    exact h.named

/-- A result that shows the fallback is told of where a manifest was announced, and nothing has
to be told where the state stays. -/
theorem follows_fallback {sm : StateMachine} {r : TransitionResult}
    (hstep : s.sm.step op = (sm, r)) (haction : r.action = .showFallback)
    (hacc : r.accepted = true) (hactive : sm.activeManifestId = none)
    (hstate : sm.state = r.newState) (hnew : r.newState = .fallback ∨ r.newState = .safeMode)
    (hold : s.sm.state.showing ∨ s.sm.state = r.newState) : Follows s op := by
  have hnamed : sm.activeManifestId ≠ some "" := by simp [hactive]
  rcases hold with hshowing | hsame
  · obtain ⟨p, hp⟩ := prev_isSome h hshowing
    have hevents : onTransition s.prevManifestId r = (none,
        [if r.newState = .safeMode then PlayerEvent.safeModeEntered
          else PlayerEvent.fallbackEntered]) := by
      simp [onTransition, haction, hp]
    refine follows_of_step (by rw [eventStream_step, hstep, hevents]) ?_ ?_ hactive.symm hnamed
    · rcases hnew with hnew | hnew <;>
        simp [hnew, Replayed.apply, PlayerEvent.safeModeEntered, PlayerEvent.fallbackEntered,
          StateMachine.shown, hstate, hactive]
    · simp [hacc]
  · have hquiet : s.sm.state = .fallback ∨ s.sm.state = .safeMode := by
      rw [hsame]
      exact hnew
    have hprev := prev_eq_none h hquiet
    have hevents : onTransition s.prevManifestId r = (none, []) := by
      simp [onTransition, haction, hprev]
    refine follows_of_step (by rw [eventStream_step, hstep, hevents]) ?_ (fun _ => rfl)
      hactive.symm hnamed
    rw [List.foldl_nil, h.replayed, StateMachine.shown, StateMachine.shown, hsame, ← hstate,
      hactive, h.wellFormed.active_eq_none hquiet]

/-- A change of state of which nothing is told is missing in the stream. -/
theorem not_replays_of_silent {sm : StateMachine} {r : TransitionResult}
    (hstep : s.sm.step op = (sm, r)) (hevents : (onTransition s.prevManifestId r).2 = [])
    (hchanged : s.sm.shown ≠ sm.shown) : ¬ Replays s op := by
  have heq : eventStream.step s op =
      (⟨sm, (onTransition s.prevManifestId r).1, s.published ++ []⟩, r, []) := by
    rw [eventStream_step, hstep, hevents]
  intro hreplays
  have hshown := ((replays_of_step heq).mp hreplays).1
  rw [List.foldl_nil, h.replayed] at hshown
  exact hchanged hshown

end InStep

theorem not_replays_of_rejected {r : TransitionResult} (hstep : s.sm.step op = (s.sm, r))
    (hacc : r.accepted = false) (haction : r.action = .hold) (hnew : r.newState = .frozen) :
    ¬ Replays s op := by
  have hevents : onTransition s.prevManifestId r = (s.prevManifestId, [PlayerEvent.frozen]) := by
    simp [onTransition, haction, hnew]
  have heq : eventStream.step s op =
      (⟨s.sm, s.prevManifestId, s.published ++ [PlayerEvent.frozen]⟩, r,
        [PlayerEvent.frozen]) := by
    rw [eventStream_step, hstep, hevents]
  intro hreplays
  have hrejected := ((replays_of_step heq).mp hreplays).2 hacc
  cases hrejected

end Step

/-! ### The operations -/

section Operations

variable {s : EventStream} (h : InStep s)
include h

omit h in
theorem activate_follows {m : String} {d c : ℤ} {rationale : Option String} {t : ActivateClock}
    (ha : s.sm.Accepts m t) (hm : m ≠ "") : Follows s (.activateCreative m d c rationale t) := by
  have hstep := StateMachine.onActivateCreative_accepted s.sm m d c rationale t ha
  have heq := eventStream_step s (.activateCreative m d c rationale t)
  simp only [StateMachine.step, hstep, onTransition, hm, if_false] at heq
  refine follows_of_step heq ?_ (by simp) rfl (by simpa using hm)
  cases hfilter : s.prevManifestId.filter fun p => decide (p ≠ m) <;>
    simp [Replayed.apply, PlayerEvent.manifestActivated, PlayerEvent.manifestDeactivated,
      StateMachine.shown]

theorem activate_empty_not_replays {d c : ℤ} {rationale : Option String} {t : ActivateClock}
    (ha : s.sm.Accepts "" t) : ¬ Replays s (.activateCreative "" d c rationale t) := by
  have hstep := StateMachine.onActivateCreative_accepted s.sm "" d c rationale t ha
  refine not_replays_of_silent h hstep rfl ?_
  intro hsame
  exact h.named (congrArg Replayed.activeManifestId hsame)

theorem activate_rejected_follows {m : String} {d c : ℤ} {rationale : Option String}
    {t : ActivateClock} (ha : ¬ s.sm.Accepts m t) (hs : s.sm.state ≠ .frozen) :
    Follows s (.activateCreative m d c rationale t) := by
  obtain ⟨r, hr, -, hnew, haction⟩ :=
    StateMachine.onActivateCreative_rejected s.sm m d c rationale t ha
  refine follows_nothing h hr ?_
  rcases haction with ⟨haction, hsafe⟩ | ⟨haction, -⟩
  · simp [onTransition, haction, prev_eq_none h (Or.inr hsafe)]
  · simp [onTransition, haction, hnew, hs]

omit h in
theorem activate_frozen_not_replays {m : String} {d c : ℤ} {rationale : Option String}
    {t : ActivateClock} (ha : ¬ s.sm.Accepts m t) (hs : s.sm.state = .frozen) :
    ¬ Replays s (.activateCreative m d c rationale t) := by
  obtain ⟨r, hr, hacc, hnew, haction⟩ :=
    StateMachine.onActivateCreative_rejected s.sm m d c rationale t ha
  rcases haction with ⟨-, hsafe⟩ | ⟨haction, -⟩
  · rw [hs] at hsafe
    cases hsafe
  · exact not_replays_of_rejected hr hacc haction (hnew.trans hs)

theorem freeze_follows (reason : Option String) : Follows s (.freeze reason) := by
  cases hs : s.sm.state with
  | fallback =>
    have hstep : s.sm.step (.freeze reason) = (s.sm, ⟨false, s.sm.state, .showFallback, none,
        some "no_active_creative"⟩) := by
      simp only [StateMachine.step, StateMachine.onFreeze, hs]
    exact follows_nothing h hstep (by simp [onTransition, prev_eq_none h (Or.inl hs)])
  | safeMode =>
    have hstep : s.sm.step (.freeze reason) = (s.sm, ⟨false, s.sm.state, .showFallback, none,
        some "safe_mode"⟩) := by
      simp only [StateMachine.step, StateMachine.onFreeze, hs]
    exact follows_nothing h hstep (by simp [onTransition, prev_eq_none h (Or.inr hs)])
  | active =>
    have hstep : s.sm.step (.freeze reason) =
        ({ s.sm with state := .frozen, freezeReason := reason },
          ⟨true, .frozen, .hold, s.sm.activeManifestId, none⟩) := by
      simp only [StateMachine.step, StateMachine.onFreeze, hs]
    exact follows_frozen h hstep rfl rfl rfl rfl rfl
  | frozen =>
    have hstep : s.sm.step (.freeze reason) = ({ s.sm with freezeReason := reason },
        ⟨true, s.sm.state, .hold, s.sm.activeManifestId, none⟩) := by
      simp only [StateMachine.step, StateMachine.onFreeze, hs]
    exact follows_frozen h hstep rfl hs rfl hs rfl

theorem safeMode_follows (reason : Option String) (now : ℚ) (hs : s.sm.state ≠ .fallback) :
    Follows s (.safeMode reason now) := by
  have hstep : s.sm.step (.safeMode reason now) = (_, _) := rfl
  refine follows_fallback h hstep rfl rfl rfl rfl (Or.inr rfl) ?_
  cases hstate : s.sm.state with
  | fallback => exact absurd hstate hs
  | active => exact Or.inl (Or.inl rfl)
  | frozen => exact Or.inl (Or.inr rfl)
  | safeMode => exact Or.inr rfl

theorem safeMode_not_replays (reason : Option String) (now : ℚ) (hs : s.sm.state = .fallback) :
    ¬ Replays s (.safeMode reason now) := by
  have hstep : s.sm.step (.safeMode reason now) = (_, _) := rfl
  refine not_replays_of_silent h hstep ?_ ?_
  · simp [onTransition, prev_eq_none h (Or.inl hs)]
  · intro hsame
    have hstate := congrArg Replayed.state hsame
    rw [StateMachine.shown, hs] at hstate
    cases hstate

theorem clearSafeMode_follows (hs : s.sm.state ≠ .safeMode) (hf : s.sm.state ≠ .frozen) :
    Follows s .clearSafeMode := by
  have hstep : s.sm.step .clearSafeMode = (s.sm, ⟨false, s.sm.state, .hold, none,
      some "not_in_safe_mode"⟩) := if_pos hs
  exact follows_nothing h hstep (by simp [onTransition, hf])

theorem clearSafeMode_not_replays (hs : s.sm.state = .safeMode ∨ s.sm.state = .frozen) :
    ¬ Replays s .clearSafeMode := by
  rcases hs with hs | hs
  · have hstep := StateMachine.onClearSafeMode_eq s.sm hs
    refine not_replays_of_silent h hstep ?_ ?_
    · simp [onTransition, prev_eq_none h (Or.inr hs)]
    · intro hsame
      have hstate := congrArg Replayed.state hsame
      rw [StateMachine.shown, hs] at hstate
      cases hstate
  · have hstep : s.sm.step .clearSafeMode = (s.sm, ⟨false, s.sm.state, .hold, none,
        some "not_in_safe_mode"⟩) := if_pos (by simp [hs])
    exact not_replays_of_rejected hstep rfl rfl hs

theorem connectionLost_follows (now : ℚ) : Follows s (.connectionLost now) := by
  by_cases hs : s.sm.state = .safeMode
  · have hstep : s.sm.step (.connectionLost now) = (s.sm, ⟨true, s.sm.state, .showFallback, none,
        some "connection_lost_in_safe_mode"⟩) := if_pos hs
    exact follows_fallback h hstep rfl rfl (h.wellFormed.active_eq_none (Or.inr hs)) rfl
      (Or.inr hs) (Or.inr rfl)
  · have hstep : s.sm.step (.connectionLost now) =
        ({ s.sm with
            state := .fallback
            activeManifestId := none
            activatedAt := none
            freezeReason := none
            cooldowns := s.sm.recordCooldown now },
          ⟨true, .fallback, .showFallback, none, some "connection_lost"⟩) := if_neg hs
    refine follows_fallback h hstep rfl rfl rfl rfl (Or.inl rfl) ?_
    cases hstate : s.sm.state with
    | fallback => exact Or.inr rfl
    | active => exact Or.inl (Or.inl rfl)
    | frozen => exact Or.inl (Or.inr rfl)
    | safeMode => exact absurd hstate hs

theorem follows_of_announced {op : Op} (ha : Announced s op) : Follows s op := by
  cases op with
  | activateCreative m d c rationale t =>
    by_cases haccepts : s.sm.Accepts m t
    · exact activate_follows haccepts (ha.1 haccepts)
    · exact activate_rejected_follows h haccepts (ha.2 haccepts)
  | freeze reason => exact freeze_follows h reason
  | safeMode reason now => exact safeMode_follows h reason now ha
  | clearSafeMode => exact clearSafeMode_follows h ha.1 ha.2
  | connectionLost now => exact connectionLost_follows h now

theorem announced_of_replays {op : Op} (hr : Replays s op) : Announced s op := by
  cases op with
  | activateCreative m d c rationale t =>
    refine ⟨fun haccepts hm => ?_, fun haccepts hs => ?_⟩
    · subst hm
      exact activate_empty_not_replays h haccepts hr
    · exact activate_frozen_not_replays haccepts hs hr
  | freeze reason => trivial
  | safeMode reason now => exact fun hs => safeMode_not_replays h reason now hs hr
  | clearSafeMode =>
    exact ⟨fun hs => clearSafeMode_not_replays h (Or.inl hs) hr,
      fun hs => clearSafeMode_not_replays h (Or.inr hs) hr⟩
  | connectionLost now => trivial

end Operations

/-! ### Whole runs -/

theorem init_inStep : InStep eventStream.init where
  wellFormed := StateMachine.init_wellFormed
  named := by simp [eventStream, StateMachine.init]
  prev := rfl
  replayed := rfl

/-- The stream replays a run exactly where no operation of it goes untold or is told of in vain. -/
theorem stream_replays_iff (ops : List Op) :
    eventStream.EachStep Replays eventStream.init ops ↔
      eventStream.EachStep Announced eventStream.init ops :=
  Machine.eachStep_iff_of_inv (I := InStep) (fun _ _ h ha => (follows_of_announced h ha).inStep h)
    (fun _ _ h => ⟨announced_of_replays h, fun ha => (follows_of_announced h ha).replays⟩)
    init_inStep ops

/-- An operator enters safe mode during a creative and clears it. -/
def safeModeCleared : List Op :=
  [.activateCreative "m-1" 5000 0 none (.at 0), .safeMode none 10, .clearSafeMode]

theorem safeModeCleared_untold :
    ¬ ∀ ops, eventStream.EachStep Replays eventStream.init ops := by
  intro h
  obtain ⟨-, -, hclear, -⟩ := h safeModeCleared
  have hstate := congrArg Replayed.state hclear.shown
  exact absurd hstate (by decide +kernel)

end AdaptiveAdvertisement.Player
