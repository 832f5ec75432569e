import AdaptiveAdvertisement.Player.CommandOrder
import AdaptiveAdvertisement.Player.CommandTotality
import AdaptiveAdvertisement.Player.ControlSession
import Mathlib.Data.List.Induction

/-!
# The control session as calls of the state machine

Whatever comes over the wire or from the control endpoint, a run of `CommandHandler.run` is a run
of the state machine on operations that the checks have passed, and its play events are the
activations that the machine has accepted.
-/

namespace AdaptiveAdvertisement.Player
open Library

variable {τ : Type}

/-- What a step schedules for publishing. -/
def ControlSession.published (rt : Runtime τ) (s : ControlSession) :
    SessionStep τ → Option PlayEvent
  | .frame raw t =>
    match s.phase with
    | .session _ => eventOf (s.handler.handleRaw rt raw t).2
    | _ => none
  | _ => none

/-- The control loop; its output is the event that a step schedules. -/
def publishing (rt : Runtime τ) (store : ManifestStore) :
    Machine ControlSession (SessionStep τ) (Option PlayEvent) where
  init := (controlLoop rt store).init
  step := fun s i => (s.step rt i, s.published rt i)

def eventsOf (outs : List (Option PlayEvent)) : List PlayEvent := outs.filterMap id

theorem eventsOf_snoc (outs : List (Option PlayEvent)) (event : Option PlayEvent) :
    eventsOf (outs ++ [event]) = eventsOf outs ++ event.toList := by
  rw [eventsOf, List.filterMap_append]
  cases event <;> rfl

/-! ### The operations of a session -/

/-- An accepted activation, with the manifest that was active before. -/
def StateMachine.announces (sm : StateMachine) : Op → Option PlayEvent
  | .activateCreative m d c r t =>
    if (sm.onActivateCreative m d c r t).2.accepted then some ⟨m, r, sm.activeManifestId⟩
    else none
  | _ => none

/-- The state machine; its output is the event that an operation is worth. -/
def announcing : Machine StateMachine Op (Option PlayEvent) where
  init := machine.init
  step := fun sm op => ((sm.step op).1, sm.announces op)

/-- The manifest is stored, approved, and at this instant not expired. -/
def Admissible (rt : Runtime τ) (store : ManifestStore) (m : String) (utcNow : ℚ) : Prop :=
  ∃ manifest, store.get m = some manifest ∧
    ManifestStore.checkManifest rt manifest utcNow = .ok none

/-- The clock at which a frame is handled. -/
def clockOf : SessionStep τ → Option FrameClock
  | .frame _ t => some t
  | _ => none

/-- An activation is a frame's, and the manifest passes the check on the clock of that frame. -/
def Checked (rt : Runtime τ) (store : ManifestStore) (clock : Option FrameClock) : Op → Prop
  | .activateCreative m _ _ _ now =>
    ∃ t, clock = some t ∧ now = t.monotonic ∧ Admissible rt store m t.utcNow
  | _ => True

/-- At most one operation, and what it announces is what is published. -/
inductive Performs (rt : Runtime τ) (store : ManifestStore) (clock : Option FrameClock)
    (sm : StateMachine) : StateMachine → Option PlayEvent → Prop
  | nothing : Performs rt store clock sm sm none
  | op (op : Op) (hchecked : Checked rt store clock op) :
    Performs rt store clock sm (sm.step op).1 (sm.announces op)

section Session

variable {rt : Runtime τ} {h : CommandHandler} {sm : StateMachine} {result : TransitionResult}
  {event : Option PlayEvent} {t : FrameClock}

theorem activateManifest_performs {id : String} {d c : ℤ} {rationale : Option String}
    (hr : CommandHandler.activateManifest rt h id d c rationale t = .ok (sm, result, event)) :
    Performs rt h.store (some t) h.sm sm event := by
  unfold CommandHandler.activateManifest at hr
  cases hm : h.store.get id with
  | none =>
    simp only [hm, Except.ok.injEq, Prod.mk.injEq] at hr
    obtain ⟨rfl, -, rfl⟩ := hr
    exact .nothing
  | some manifest =>
    cases hcheck : ManifestStore.checkManifest rt manifest t.utcNow with
    | error e => simp [hm, hcheck] at hr
    | ok rejection =>
      cases rejection with
      | some reason =>
        simp only [hm, hcheck, Except.ok.injEq, Prod.mk.injEq] at hr
        obtain ⟨rfl, -, rfl⟩ := hr
        exact .nothing
      | none =>
        simp only [hm, hcheck, Except.ok.injEq, Prod.mk.injEq] at hr
        obtain ⟨rfl, -, rfl⟩ := hr
        exact .op (.activateCreative id d c rationale t.monotonic)
          ⟨t, rfl, rfl, manifest, hm, hcheck⟩

theorem dispatch_performs {msg : Json} {commandType : String}
    (hr : h.dispatch rt msg commandType t = .ok (sm, result, event)) :
    Performs rt h.store (some t) h.sm sm event := by
  unfold CommandHandler.dispatch at hr
  split_ifs at hr
  · obtain ⟨id, -, hr⟩ := bind_ok hr
    obtain ⟨d, -, hr⟩ := bind_ok hr
    exact activateManifest_performs hr
  · obtain ⟨rfl, -, rfl⟩ : (h.sm.onFreeze _).1 = sm ∧ _ ∧ none = event := by
      simpa only [Except.ok.injEq, Prod.mk.injEq] using hr
    exact .op (.freeze _) trivial
  · obtain ⟨rfl, -, rfl⟩ : (h.sm.onSafeMode _ _).1 = sm ∧ _ ∧ none = event := by
      simpa only [Except.ok.injEq, Prod.mk.injEq] using hr
    exact .op (.safeMode _ _) trivial
  · obtain ⟨rfl, -, rfl⟩ : h.sm.onClearSafeMode.1 = sm ∧ _ ∧ none = event := by
      simpa only [Except.ok.injEq, Prod.mk.injEq] using hr
    exact .op .clearSafeMode trivial

theorem handleRaw_performs (rt : Runtime τ) (h : CommandHandler) (raw : τ) (t : FrameClock) :
    (h.handleRaw rt raw t).1.store = h.store ∧
      Performs rt h.store (some t) h.sm (h.handleRaw rt raw t).1.sm
        (eventOf (h.handleRaw rt raw t).2) := by
  cases ha : h.admits rt raw with
  | none =>
    obtain ⟨hsame, hnone⟩ := CommandHandler.handleRaw_unadmitted t ha
    rw [hsame, eventOf_undispatched hnone]
    exact ⟨rfl, .nothing⟩
  | some hd =>
    obtain ⟨msg, -, hhandled⟩ := CommandHandler.handleRaw_admitted t ha
    rw [hhandled]
    cases hdispatch :
      (h.record hd.sequenceNumber hd.commandId).dispatch rt msg hd.commandType t with
    | error e => exact ⟨rfl, .nothing⟩
    | ok r => exact ⟨rfl, dispatch_performs hdispatch⟩

theorem step_performs (rt : Runtime τ) (s : ControlSession) (i : SessionStep τ) :
    (s.step rt i).handler.store = s.handler.store ∧
      Performs rt s.handler.store (clockOf i) s.handler.sm (s.step rt i).handler.sm
        (s.published rt i) := by
  have hlost : ∀ now, (s.lost now).handler.store = s.handler.store ∧
      Performs rt s.handler.store none s.handler.sm (s.lost now).handler.sm none :=
    fun now => ⟨rfl, .op (.connectionLost now) trivial⟩
  cases i with
  | frame raw t =>
    cases hp : s.phase with
    | connecting =>
      simp only [ControlSession.step, ControlSession.published, hp]
      exact ⟨trivial, .nothing⟩
    | stopped =>
      simp only [ControlSession.step, ControlSession.published, hp]
      exact ⟨trivial, .nothing⟩
    | session before =>
      have hframe := handleRaw_performs rt s.handler raw t
      simp only [ControlSession.step, ControlSession.published, hp]
      rcases hr : s.handler.handleRaw rt raw t with ⟨handler, outcome⟩
      rw [hr] at hframe
      cases outcome <;> exact hframe
  | connectFails now =>
    simp only [ControlSession.step, ControlSession.published]
    split_ifs
    · exact hlost now
    · exact ⟨rfl, .nothing⟩
  | connects =>
    simp only [ControlSession.step, ControlSession.published]
    split_ifs <;> exact ⟨rfl, .nothing⟩
  | ends how now =>
    simp only [ControlSession.step, ControlSession.published]
    cases s.phase with
    | connecting => exact ⟨rfl, .nothing⟩
    | stopped => exact ⟨rfl, .nothing⟩
    | session before =>
      cases how with
      | normal => exact ⟨rfl, .nothing⟩
      | abnormal => exact hlost now
  | engageSafeMode reason now => exact ⟨rfl, .op (.safeMode reason now) trivial⟩
  | clearSafeMode => exact ⟨rfl, .op .clearSafeMode trivial⟩

theorem Performs.wellFormed {store : ManifestStore} {clock : Option FrameClock}
    {sm' : StateMachine} (h : Performs rt store clock sm sm' event) (hsm : WellFormed sm) :
    WellFormed sm' := by
  cases h with
  | nothing => exact hsm
  | op op hchecked => exact StateMachine.step_wellFormed sm op hsm

theorem Performs.admissible {store : ManifestStore} {sm' : StateMachine} {e : PlayEvent}
    (h : Performs rt store (some t) sm sm' event) (hevent : event = some e) :
    Admissible rt store e.manifestId t.utcNow := by
  cases h with
  | nothing => cases hevent
  | op op hchecked =>
    cases op with
    | activateCreative m d c r now =>
      rw [StateMachine.announces] at hevent
      split_ifs at hevent
      obtain rfl := Option.some.inj hevent
      obtain ⟨t', ht, -, hadmissible⟩ := hchecked
      obtain rfl := Option.some.inj ht
      exact hadmissible
    | freeze reason => cases hevent
    | safeMode reason now => cases hevent
    | clearSafeMode => cases hevent
    | connectionLost now => cases hevent

end Session

/-! ### A run of the session -/

section Run

variable {rt : Runtime τ} {store : ManifestStore} {is : List (SessionStep τ)}
  {log : List (SessionStep τ × Op)}

theorem store_run (rt : Runtime τ) (store : ManifestStore) (is : List (SessionStep τ)) :
    ((publishing rt store).run (publishing rt store).init is).handler.store = store :=
  Machine.run_inv (M := publishing rt store) (I := fun s => s.handler.store = store)
    (fun s i h => (step_performs rt s i).1.trans h) rfl is

/-- The log holds the operations of a run in order, each with the step that has performed it. -/
structure PerformedBy (rt : Runtime τ) (store : ManifestStore) (is : List (SessionStep τ))
    (log : List (SessionStep τ × Op)) : Prop where
  steps : (log.map Prod.fst).Sublist is
  checked : ∀ p ∈ log, Checked rt store (clockOf p.1) p.2
  state : ((publishing rt store).run (publishing rt store).init is).handler.sm =
    machine.run machine.init (log.map Prod.snd)
  events : eventsOf ((publishing rt store).outputs (publishing rt store).init is) =
    eventsOf (announcing.outputs announcing.init (log.map Prod.snd))

/-- A step of the session performs one operation more, or none. -/
theorem PerformedBy.snoc (h : PerformedBy rt store is log) (i : SessionStep τ) :
    ∃ log', PerformedBy rt store (is ++ [i]) log' := by
  have hperforms := (step_performs rt ((publishing rt store).run (publishing rt store).init is) i).2
  rw [store_run] at hperforms
  have hstate : ((publishing rt store).run (publishing rt store).init (is ++ [i])).handler.sm =
      (((publishing rt store).run (publishing rt store).init is).step rt i).handler.sm := by
    rw [Machine.run_snoc]
    rfl
  have hevents : eventsOf ((publishing rt store).outputs (publishing rt store).init (is ++ [i])) =
      eventsOf ((publishing rt store).outputs (publishing rt store).init is) ++
        (((publishing rt store).run (publishing rt store).init is).published rt i).toList := by
    rw [Machine.outputs_append]
    exact eventsOf_snoc _ _
  generalize (((publishing rt store).run (publishing rt store).init is).step rt i).handler.sm = sm'
    at hperforms hstate
  generalize ((publishing rt store).run (publishing rt store).init is).published rt i = event
    at hperforms hevents
  cases hperforms with
  | nothing =>
    refine ⟨log, h.steps.trans (List.sublist_append_left is [i]), h.checked, ?_, ?_⟩
    · rw [hstate, h.state]
    · rw [hevents, h.events, Option.toList_none, List.append_nil]
  | op op hchecked =>
    refine ⟨log ++ [(i, op)], ?_, fun p hp => ?_, ?_, ?_⟩
    · rw [List.map_append]
      exact h.steps.append_right [i]
    · rcases List.mem_append.mp hp with hold | hnew
      · exact h.checked p hold
      · obtain rfl := List.mem_singleton.mp hnew
        exact hchecked
    · rw [hstate, h.state, List.map_append]
      exact (Machine.run_snoc machine machine.init (log.map Prod.snd) op).symm
    · rw [hevents, h.events, h.state, List.map_append, Machine.outputs_append]
      exact (eventsOf_snoc _ _).symm

/-- Every run of the control session is a run of the state machine on checked operations. -/
theorem session_refines (rt : Runtime τ) (store : ManifestStore) (is : List (SessionStep τ)) :
    ∃ log, PerformedBy rt store is log := by
  induction is using List.reverseRecOn with
  | nil => exact ⟨[], List.Sublist.refl [], fun _ h => absurd h List.not_mem_nil, rfl, rfl⟩
  | append_singleton is i ih =>
    obtain ⟨log, h⟩ := ih
    exact h.snoc i

end Run

end AdaptiveAdvertisement.Player
