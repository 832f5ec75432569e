import AdaptiveAdvertisement.Player.SessionRefinement

/-!
# Play events (`player/play_event_publisher.py`)

An accepted activation schedules one event, with the manifest that was active before
(`command_handler.py:202`, `242-248`). The events of a run tell in order what was activated.

Source lines: `_publish_task` 43-54, up to the payload.
-/

namespace AdaptiveAdvertisement.Player
open Library Contracts

/-- The payload, with the text of the time at which the task starts. -/
def PlayEvent.payload (e : PlayEvent) (activatedAt : String) : Json :=
  .obj [("manifest_id", .str e.manifestId), ("activated_at", .str activatedAt),
    ("reason", Json.ofOption .str e.reason),
    ("prev_manifest_id", Json.ofOption .str e.prevManifestId)]

variable {τ : Type}

/-! ### One step -/

/-- An id that the contracts allow. -/
def Named (id : String) : Prop := 1 ≤ id.length ∧ id.length ≤ 128

theorem named_of_stored {store : ManifestStore} {id : String} {manifest : Json}
    (h : store.get id = some manifest) : Named id := by
  obtain ⟨hvalid, hid⟩ := ManifestStore.get_valid h
  obtain ⟨v, hv, hidentifier⟩ := Schema.object_required (k := "manifest_id") (s := identifier)
    hvalid (by simp) (by simp)
  rw [get?_manifestId hvalid, Option.some.injEq] at hv
  rw [← hv, hid] at hidentifier
  exact (identifier_str_iff id).mp hidentifier

/-- What becomes of the active manifest: an event tells the old one and the new one, and without
one there is no new one. -/
structure ToldBy (before after : Option String) (event : Option PlayEvent) : Prop where
  told : ∀ e, event = some e → after = some e.manifestId ∧ e.prevManifestId = before ∧
    Named e.manifestId
  untold : event = none → after = before ∨ after = none

theorem onFreeze_active (sm : StateMachine) (reason : Option String) :
    (sm.onFreeze reason).1.activeManifestId = sm.activeManifestId := by
  unfold StateMachine.onFreeze
  split <;> rfl

theorem Performs.toldBy {rt : Runtime τ} {store : ManifestStore} {clock : Option FrameClock}
    {sm sm' : StateMachine} {event : Option PlayEvent} (h : Performs rt store clock sm sm' event) :
    ToldBy sm.activeManifestId sm'.activeManifestId event := by
  have hquiet : ∀ {after}, (after = sm.activeManifestId ∨ after = none) →
      ToldBy sm.activeManifestId after none := fun hafter =>
    ⟨fun _ he => (by cases he), fun _ => hafter⟩
  cases h with
  | nothing => exact hquiet (Or.inl rfl)
  | op op hchecked =>
    cases op with
    | activateCreative m d c r t =>
      by_cases haccepts : sm.Accepts m t
      · obtain ⟨-, -, -, manifest, hstored, -⟩ := hchecked
        rw [StateMachine.announces, StateMachine.step,
          StateMachine.onActivateCreative_accepted _ _ _ _ _ _ haccepts]
        refine ⟨fun e he => ?_, fun he => by simp at he⟩
        obtain rfl := Option.some.inj he
        exact ⟨rfl, rfl, named_of_stored hstored⟩
      · obtain ⟨res, hrejected, hrefused, -⟩ :=
          StateMachine.onActivateCreative_rejected sm m d c r t haccepts
        rw [StateMachine.announces, StateMachine.step, hrejected, hrefused]
        exact hquiet (Or.inl rfl)
    | freeze reason => exact hquiet (Or.inl (onFreeze_active sm reason))
    | safeMode reason now => exact hquiet (Or.inr rfl)
    | clearSafeMode => exact hquiet (Or.inl (StateMachine.onClearSafeMode_active sm))
    | connectionLost now =>
      have hactive := StateMachine.onConnectionLost_active sm now
      by_cases hs : sm.state = .safeMode
      · rw [if_pos hs] at hactive
        exact hquiet (Or.inl hactive)
      · rw [if_neg hs] at hactive
        exact hquiet (Or.inr hactive)

/-! ### The events of a run -/

theorem published_toldBy (rt : Runtime τ) (s : ControlSession) (i : SessionStep τ) :
    ToldBy s.handler.sm.activeManifestId (s.step rt i).handler.sm.activeManifestId
      (s.published rt i) := (step_performs rt s i).2.toldBy

/-- What is active is what the last event has activated, or nothing. -/
def Tells (events : List PlayEvent) (active : Option String) : Prop :=
  ∀ m, active = some m → ∃ e ∈ events.getLast?, e.manifestId = m

theorem Tells.toldBy {events : List PlayEvent} {before after : Option String}
    {event : Option PlayEvent} (h : Tells events before) (hstep : ToldBy before after event) :
    Tells (events ++ event.toList) after := by
  intro m hm
  cases event with
  | none =>
    rw [Option.toList_none, List.append_nil]
    rcases hstep.untold rfl with rfl | rfl
    · exact h m hm
    · cases hm
  | some e =>
    obtain ⟨rfl, -, -⟩ := hstep.told e rfl
    exact ⟨e, by simp, Option.some.inj hm⟩

theorem tells_init (rt : Runtime τ) (store : ManifestStore) :
    Tells (eventsOf []) (publishing rt store).init.handler.sm.activeManifestId := by
  intro m hm
  cases hm

theorem tells_step {rt : Runtime τ} {outs : List (Option PlayEvent)} {s : ControlSession}
    (h : Tells (eventsOf outs) s.handler.sm.activeManifestId) (i : SessionStep τ) :
    Tells (eventsOf (outs ++ [s.published rt i])) (s.step rt i).handler.sm.activeManifestId := by
  rw [eventsOf_snoc]
  exact h.toldBy (published_toldBy rt s i)

/-! ### The screen between two events -/

section Chain

variable {rt : Runtime τ} {store : ManifestStore} {s : ControlSession}
  {is before between : List (SessionStep τ)} {i : SessionStep τ} {e : PlayEvent}

def Unannounced (rt : Runtime τ) (store : ManifestStore) (s : ControlSession)
    (is : List (SessionStep τ)) : Prop :=
  eventsOf ((publishing rt store).outputs s is) = []

/-- Somewhere on these steps the player shows the fallback. -/
def FallsBack (rt : Runtime τ) (store : ManifestStore) (s : ControlSession)
    (is : List (SessionStep τ)) : Prop :=
  ∃ before, before <+: is ∧ ¬ ((publishing rt store).run s before).handler.sm.state.showing

/-- What was active still is, or nothing is where the player has fallen back. -/
structure LeftBy (fellBack : Prop) (before after : Option String) : Prop where
  fallen : fellBack → after = none
  kept : ¬ fellBack → after = before

theorem wellFormed_run (rt : Runtime τ) (store : ManifestStore) (hs : WellFormed s.handler.sm)
    (is : List (SessionStep τ)) :
    WellFormed ((publishing rt store).run s is).handler.sm :=
  Machine.run_inv (M := publishing rt store) (I := fun s => WellFormed s.handler.sm)
    (fun s i h => (step_performs rt s i).2.wellFormed h) hs is

theorem unannounced_snoc : Unannounced rt store s (is ++ [i]) ↔
    Unannounced rt store s is ∧ ((publishing rt store).run s is).published rt i = none := by
  rw [Unannounced, Machine.outputs_append, Machine.outputs_cons, Machine.outputs_nil,
    eventsOf_snoc, List.append_eq_nil_iff, Option.toList_eq_nil_iff]
  exact Iff.rfl

theorem fallsBack_snoc : FallsBack rt store s (is ++ [i]) ↔ FallsBack rt store s is ∨
    ¬ ((publishing rt store).run s (is ++ [i])).handler.sm.state.showing := by
  refine ⟨fun h => ?_, fun h => ?_⟩
  · obtain ⟨before, hbefore, hfallen⟩ := h
    rcases List.prefix_concat_iff.mp hbefore with rfl | hshort
    · exact Or.inr hfallen
    · exact Or.inl ⟨before, hshort, hfallen⟩
  · rcases h with ⟨before, hbefore, hfallen⟩ | hfallen
    · exact ⟨before, hbefore.trans (List.prefix_append _ _), hfallen⟩
    · exact ⟨_, List.prefix_rfl, hfallen⟩

/-- Without an event only a fallback changes what is active. -/
theorem leftBy_unannounced (hs : WellFormed s.handler.sm) (hquiet : Unannounced rt store s is) :
    LeftBy (FallsBack rt store s is) s.handler.sm.activeManifestId
      ((publishing rt store).run s is).handler.sm.activeManifestId := by
  have hnone : ∀ {sm : StateMachine}, WellFormed sm → ¬ sm.state.showing →
      sm.activeManifestId = none := fun hwf hfallen => by simpa [← hwf.active_iff] using hfallen
  induction is using List.reverseRecOn with
  | nil =>
    refine ⟨fun hfell => ?_, fun _ => rfl⟩
    obtain ⟨before, hbefore, hfallen⟩ := hfell
    obtain rfl := List.prefix_nil.mp hbefore
    exact hnone hs hfallen
  | append_singleton is i ih =>
    obtain ⟨hbefore, hlast⟩ := unannounced_snoc.mp hquiet
    have hleft := ih hbefore
    have hwf := wellFormed_run rt store hs (is ++ [i])
    have hstep := (published_toldBy rt ((publishing rt store).run s is) i).untold hlast
    have hrun : (publishing rt store).run s (is ++ [i]) =
        ((publishing rt store).run s is).step rt i := Machine.run_snoc _ s is i
    rw [← hrun] at hstep
    refine ⟨fun hfell => ?_, fun hkept => ?_⟩
    · rcases fallsBack_snoc.mp hfell with hfell | hfallen
      · rcases hstep with hsame | hgone
        · exact hsame.trans (hleft.fallen hfell)
        · exact hgone
      · exact hnone hwf hfallen
    · obtain ⟨hnot, hshown⟩ := not_or.mp (mt fallsBack_snoc.mpr hkept)
      have hsome := hwf.active_iff.mpr (not_not.mp hshown)
      rcases hstep with hsame | hgone
      · exact hsame.trans (hleft.kept hnot)
      · rw [hgone] at hsome
        cases hsome

/-! ### The events of a run -/

def sessionAfter (rt : Runtime τ) (store : ManifestStore) (is : List (SessionStep τ)) :
    ControlSession :=
  (publishing rt store).run (publishing rt store).init is

/-- The step `i` after `before` publishes `e`. -/
def Announces (rt : Runtime τ) (store : ManifestStore) (before : List (SessionStep τ))
    (i : SessionStep τ) (e : PlayEvent) : Prop :=
  (sessionAfter rt store before).published rt i = some e

/-- The events tell one activation after the other: each names as previous what the one before it
has activated, or nothing exactly where the player has shown the fallback between the two. The
first names nothing, and what the last has activated is active unless the player has fallen back. -/
structure Chained (rt : Runtime τ) (store : ManifestStore) (is : List (SessionStep τ)) :
    Prop where
  first : ∀ before i rest e, is = before ++ i :: rest →
    Unannounced rt store (publishing rt store).init before → Announces rt store before i e →
      e.prevManifestId = none
  linked : ∀ before i between j rest e e', is = before ++ i :: (between ++ j :: rest) →
    Announces rt store before i e →
    Unannounced rt store (sessionAfter rt store (before ++ [i])) between →
    Announces rt store (before ++ i :: between) j e' →
      LeftBy (FallsBack rt store (sessionAfter rt store (before ++ [i])) between)
        (some e.manifestId) e'.prevManifestId
  shown : ∀ before i since e, is = before ++ i :: since → Announces rt store before i e →
    Unannounced rt store (sessionAfter rt store (before ++ [i])) since →
      LeftBy (FallsBack rt store (sessionAfter rt store (before ++ [i])) since) (some e.manifestId)
        (sessionAfter rt store is).handler.sm.activeManifestId
  idle : Unannounced rt store (publishing rt store).init is →
    (sessionAfter rt store is).handler.sm.activeManifestId = none

theorem init_wellFormed (rt : Runtime τ) (store : ManifestStore) :
    WellFormed (publishing rt store).init.handler.sm := StateMachine.init_wellFormed

theorem idle_after (hquiet : Unannounced rt store (publishing rt store).init is) :
    (sessionAfter rt store is).handler.sm.activeManifestId = none := by
  have hleft := leftBy_unannounced (init_wellFormed rt store) hquiet
  by_cases hfell : FallsBack rt store (publishing rt store).init is
  · exact hleft.fallen hfell
  · exact hleft.kept hfell

theorem shown_since (h : Announces rt store before i e)
    (hquiet : Unannounced rt store (sessionAfter rt store (before ++ [i])) between) :
    LeftBy (FallsBack rt store (sessionAfter rt store (before ++ [i])) between) (some e.manifestId)
      (sessionAfter rt store (before ++ i :: between)).handler.sm.activeManifestId := by
  have hactive : (sessionAfter rt store (before ++ [i])).handler.sm.activeManifestId =
      some e.manifestId := by
    rw [sessionAfter, Machine.run_snoc]
    exact ((published_toldBy rt (sessionAfter rt store before) i).told e h).1
  have hwf : WellFormed (sessionAfter rt store (before ++ [i])).handler.sm :=
    wellFormed_run rt store (init_wellFormed rt store) (before ++ [i])
  have hleft := leftBy_unannounced hwf hquiet
  have hrun : sessionAfter rt store (before ++ i :: between) =
      (publishing rt store).run (sessionAfter rt store (before ++ [i])) between := by
    rw [List.append_cons]
    exact Machine.run_append _ _ _ _
  rwa [hactive, ← hrun] at hleft

/-- Over every run of the control session the published events are a history of the screen. -/
theorem publishing_tells (rt : Runtime τ) (store : ManifestStore) (is : List (SessionStep τ)) :
    Chained rt store is where
  first := by
    intro before i rest e _ hquiet h
    rw [((published_toldBy rt _ i).told e h).2.1]
    exact idle_after hquiet
  linked := by
    intro before i between j rest e e' _ h hquiet h'
    rw [((published_toldBy rt _ j).told e' h').2.1]
    exact shown_since h hquiet
  shown := by
    intro before i since e his h hquiet
    rw [his]
    exact shown_since h hquiet
  idle := idle_after

end Chain

end AdaptiveAdvertisement.Player
