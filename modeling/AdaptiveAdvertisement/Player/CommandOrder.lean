import AdaptiveAdvertisement.Player.CommandHandler
import AdaptiveAdvertisement.Library.RecentIds

/-!
# At most once, and in order (`player/command_handler.py`)

Which commands reach `_dispatch` over any sequence of frames and session resets. Between two
frames other tasks of the player may drive the state machine or reload the store.
-/

namespace AdaptiveAdvertisement.Player
open Library Contracts

namespace CommandHandler

variable {τ : Type}

/-- The command of a frame that `handle_raw` hands to `_dispatch`. -/
def admits (rt : Runtime τ) (h : CommandHandler) (raw : τ) : Option Header :=
  match rt.loads raw with
  | .value msg =>
    if playerCommand msg then
      match header msg with
      | .ok hd =>
        if h.seenCommandIds.contains hd.commandId then none
        else if hd.sequenceNumber ≤ h.lastSequence then none
        else some hd
      | .error _ => none
    else none
  | _ => none

section Admits

variable {rt : Runtime τ} {h : CommandHandler} {raw : τ} {hd : Header}

theorem admits_some (ha : h.admits rt raw = some hd) :
    ∃ msg, rt.loads raw = .value msg ∧ playerCommand msg = true ∧ header msg = .ok hd ∧
      hd.commandId ∉ h.seenCommandIds.keys ∧ h.lastSequence < hd.sequenceNumber := by
  unfold admits at ha
  cases hload : rt.loads raw with
  | decodeError => simp [hload] at ha
  | unicodeError => simp [hload] at ha
  | raised => simp [hload] at ha
  | value msg =>
    cases hvalid : playerCommand msg with
    | false => simp [hload, hvalid] at ha
    | true =>
      cases hhd : header msg with
      | error e => simp [hload, hvalid, hhd] at ha
      | ok hd' =>
        simp only [hload, hvalid, hhd, if_true] at ha
        split at ha
        next => cases ha
        next hnew =>
          split at ha
          next => cases ha
          next hlate =>
            cases ha
            have hkey : hd.commandId ∉ h.seenCommandIds.keys := fun hmem =>
              hnew ((Dict.contains_iff _ _).mpr hmem)
            exact ⟨msg, rfl, hvalid, hhd, hkey, by omega⟩

theorem admits_of {msg : Json} (hload : rt.loads raw = .value msg)
    (hvalid : playerCommand msg = true) (hhd : header msg = .ok hd)
    (hnew : hd.commandId ∉ h.seenCommandIds.keys) (hlate : h.lastSequence < hd.sequenceNumber) :
    h.admits rt raw = some hd := by
  have hcontains : h.seenCommandIds.contains hd.commandId = false :=
    (Dict.contains_eq_false_iff _ _).mpr hnew
  have horder : ¬ hd.sequenceNumber ≤ h.lastSequence := by omega
  simp only [admits, hload, hvalid, hhd, hcontains, horder, if_true, if_false, Bool.false_eq_true]

theorem handleRaw_admitted (t : FrameClock) (ha : h.admits rt raw = some hd) :
    ∃ msg, rt.loads raw = .value msg ∧ h.handleRaw rt raw t =
      match (h.record hd.sequenceNumber hd.commandId).dispatch rt msg hd.commandType t with
      | .error e => (h.record hd.sequenceNumber hd.commandId, .error e)
      | .ok (sm, result, event) =>
        ({ h.record hd.sequenceNumber hd.commandId with sm := sm },
          .ok (.dispatched result event)) := by
  obtain ⟨msg, hload, hvalid, hhd, hnew, hlate⟩ := admits_some ha
  refine ⟨msg, hload, ?_⟩
  have hcontains : h.seenCommandIds.contains hd.commandId = false :=
    (Dict.contains_eq_false_iff _ _).mpr hnew
  have horder : ¬ hd.sequenceNumber ≤ h.lastSequence := by omega
  cases hdispatch : (h.record hd.sequenceNumber hd.commandId).dispatch rt msg hd.commandType t with
  | error e => simp [handleRaw, handleValid, hload, hvalid, hhd, hcontains, horder, hdispatch]
  | ok r => simp [handleRaw, handleValid, hload, hvalid, hhd, hcontains, horder, hdispatch]

/-- A frame whose command is not handed on changes nothing. -/
theorem handleRaw_unadmitted (t : FrameClock) (ha : h.admits rt raw = none) :
    (h.handleRaw rt raw t).1 = h ∧
      ∀ result event, (h.handleRaw rt raw t).2 ≠ .ok (.dispatched result event) := by
  unfold admits at ha
  unfold handleRaw
  cases hload : rt.loads raw with
  | decodeError => simp
  | unicodeError => simp
  | raised => simp
  | value msg =>
    cases hvalid : playerCommand msg with
    | false => simp [hvalid]
    | true =>
      cases hhd : header msg with
      | error e => simp [hvalid, handleValid, hhd]
      | ok hd =>
        cases hcontains : h.seenCommandIds.contains hd.commandId with
        | true => simp [hvalid, handleValid, hhd, hcontains]
        | false =>
          by_cases horder : hd.sequenceNumber ≤ h.lastSequence
          · simp [hvalid, handleValid, hhd, hcontains, horder]
          · simp [hload, hvalid, hhd, hcontains, horder] at ha

/-- What a frame leaves in the handler's memory. -/
theorem handleRaw_memory (rt : Runtime τ) (h : CommandHandler) (raw : τ) (t : FrameClock) :
    match h.admits rt raw with
    | none => (h.handleRaw rt raw t).1 = h
    | some hd => (h.handleRaw rt raw t).1.lastSequence = hd.sequenceNumber ∧
        (h.handleRaw rt raw t).1.seenCommandIds =
          h.seenCommandIds.remember maxSeenIds hd.commandId := by
  cases ha : h.admits rt raw with
  | none => exact (handleRaw_unadmitted t ha).1
  | some hd =>
    obtain ⟨msg, -, hhandled⟩ := handleRaw_admitted t ha
    rw [hhandled]
    cases (h.record hd.sequenceNumber hd.commandId).dispatch rt msg hd.commandType t with
    | error e => exact ⟨rfl, rfl⟩
    | ok r => exact ⟨rfl, rfl⟩

end Admits

end CommandHandler

/-! ### The event of a frame -/

def Outcome.event : Outcome → Option PlayEvent
  | .dispatched _ event => event
  | _ => none

def eventOf : Except Raised Outcome → Option PlayEvent
  | .ok outcome => outcome.event
  | .error _ => none

theorem eventOf_undispatched {answer : Except Raised Outcome}
    (hnone : ∀ result event, answer ≠ .ok (.dispatched result event)) :
    eventOf answer = none := by
  cases answer with
  | error e => rfl
  | ok outcome =>
    cases outcome with
    | dispatched result event => exact absurd rfl (hnone result event)
    | parseError => rfl
    | schemaError => rfl
    | alreadyApplied => rfl
    | outOfOrder => rfl

/-! ### Runs -/

inductive HandlerStep (τ : Type) where
  | frame (raw : τ) (t : FrameClock)
  | resetSession
  | outside (sm : StateMachine) (store : ManifestStore)

variable {τ : Type}

def HandlerStep.resets : HandlerStep τ → Bool
  | .resetSession => true
  | _ => false

/-- The handler; its output is the command that a step hands to `_dispatch`. -/
def handling (rt : Runtime τ) (sm : StateMachine) (store : ManifestStore) :
    Machine CommandHandler (HandlerStep τ) (Option Header) where
  init := { sm := sm, store := store }
  step := fun h i =>
    match i with
    | .frame raw t => ((h.handleRaw rt raw t).1, h.admits rt raw)
    | .resetSession => (h.resetSession, none)
    | .outside sm store => ({ h with sm := sm, store := store }, none)

def handled (rt : Runtime τ) (sm : StateMachine) (store : ManifestStore)
    (is : List (HandlerStep τ)) : CommandHandler :=
  (handling rt sm store).run (handling rt sm store).init is

/-- The commands that the steps `is`, taken from `h` on, hand to `_dispatch`. -/
def dispatched (rt : Runtime τ) (sm : StateMachine) (store : ManifestStore) (h : CommandHandler)
    (is : List (HandlerStep τ)) : List Header := ((handling rt sm store).outputs h is).filterMap id

def dispatchOrder (rt : Runtime τ) (sm : StateMachine) (store : ManifestStore)
    (is : List (HandlerStep τ)) : List Header :=
  dispatched rt sm store (handling rt sm store).init is

section Runs

variable {rt : Runtime τ} {sm : StateMachine} {store : ManifestStore} {h : CommandHandler}
  {i : HandlerStep τ}

/-- Either nothing is dispatched and the ids stay, or one command is, and it is remembered. -/
theorem handling_step (rt : Runtime τ) (sm : StateMachine) (store : ManifestStore)
    (h : CommandHandler) (i : HandlerStep τ) :
    ((handling rt sm store).out h i = none ∧
      ((handling rt sm store).next h i).seenCommandIds = h.seenCommandIds ∧
      (i.resets = false → ((handling rt sm store).next h i).lastSequence = h.lastSequence)) ∨
    ∃ hd, (handling rt sm store).out h i = some hd ∧ hd.commandId ∉ h.seenCommandIds.keys ∧
      h.lastSequence < hd.sequenceNumber ∧
      ((handling rt sm store).next h i).lastSequence = hd.sequenceNumber ∧
      ((handling rt sm store).next h i).seenCommandIds =
        h.seenCommandIds.remember maxSeenIds hd.commandId := by
  cases i with
  | resetSession => exact Or.inl ⟨rfl, rfl, fun hr => by cases hr⟩
  | outside sm' store' => exact Or.inl ⟨rfl, rfl, fun _ => rfl⟩
  | frame raw t =>
    have hmemory := CommandHandler.handleRaw_memory rt h raw t
    cases ha : h.admits rt raw with
    | none =>
      rw [ha] at hmemory
      refine Or.inl ⟨ha, ?_, fun _ => ?_⟩
      · exact congrArg CommandHandler.seenCommandIds hmemory
      · exact congrArg CommandHandler.lastSequence hmemory
    | some hd =>
      rw [ha] at hmemory
      obtain ⟨-, -, -, -, hnew, hlate⟩ := CommandHandler.admits_some ha
      exact Or.inr ⟨hd, ha, hnew, hlate, hmemory.1, hmemory.2⟩

/-- In a session every dispatched number lies above the ones before. -/
theorem session_numbers (rt : Runtime τ) (sm : StateMachine) (store : ManifestStore)
    (h : CommandHandler) {session : List (HandlerStep τ)}
    (hs : ∀ i ∈ session, i.resets = false) :
    (∀ hd ∈ dispatched rt sm store h session, h.lastSequence < hd.sequenceNumber) ∧
      ((dispatched rt sm store h session).map Header.sequenceNumber).Pairwise (· < ·) := by
  induction session generalizing h with
  | nil => simp [dispatched]
  | cons i is ih =>
    have hrest := ih ((handling rt sm store).next h i) fun j hj => hs j (List.mem_cons_of_mem i hj)
    unfold dispatched at hrest ⊢
    rw [Machine.outputs_cons]
    rcases handling_step rt sm store h i with
      ⟨hout, -, hsame⟩ | ⟨hd, hout, -, hlate, hseq, -⟩
    · rw [hsame (hs i List.mem_cons_self)] at hrest
      rw [hout]
      exact hrest
    · rw [hout]
      rw [hseq] at hrest
      obtain ⟨habove, hsorted⟩ := hrest
      refine ⟨fun hd' hmem => ?_, List.pairwise_cons.mpr ⟨fun n hn => ?_, hsorted⟩⟩
      · rcases List.mem_cons.mp hmem with rfl | hmem
        · exact hlate
        · have hfirst := habove hd' hmem
          omega
      · obtain ⟨hd', hmem, rfl⟩ := List.mem_map.mp hn
        exact habove hd' hmem

/-- The remembered ids are the last ones of the dispatch order, which repeats an id only after
2501 other ones. -/
theorem handled_recalls (rt : Runtime τ) (sm : StateMachine) (store : ManifestStore)
    (is : List (HandlerStep τ)) :
    Recalls maxSeenIds ((dispatchOrder rt sm store is).map Header.commandId)
        (handled rt sm store is).seenCommandIds ∧
      Spaced 2501 ((dispatchOrder rt sm store is).map Header.commandId) := by
  refine Machine.outputs_inv (l := []) (M := handling rt sm store)
    (J := fun outs h =>
      Recalls maxSeenIds ((outs.filterMap id).map Header.commandId) h.seenCommandIds ∧
        Spaced 2501 ((outs.filterMap id).map Header.commandId)) ?_ ?_ is
  · intro outs h i ⟨hrecalls, hspaced⟩
    rcases handling_step rt sm store h i with ⟨hout, hids, -⟩ | ⟨hd, hout, hnew, -, -, hids⟩
    · have hlog : (outs ++ [(handling rt sm store).out h i]).filterMap id = outs.filterMap id := by
        simp [hout]
      rw [hlog, hids]
      exact ⟨hrecalls, hspaced⟩
    · have hlog : (outs ++ [(handling rt sm store).out h i]).filterMap id =
          outs.filterMap id ++ [hd] := by simp [hout]
      rw [hlog, hids, List.map_append]
      exact ⟨hrecalls.remember (by decide) hnew, hrecalls.spaced hnew hspaced⟩
  · exact ⟨recalls_empty _, spaced_nil _⟩

/-- Over every run of frames and session resets: the numbers dispatched in a session increase,
an id comes again only after 2501 other ones, and the remembered ids are the latest. -/
theorem dispatched_once_in_order (rt : Runtime τ) (sm : StateMachine) (store : ManifestStore)
    (is : List (HandlerStep τ)) :
    (∀ before session after, is = before ++ session ++ after →
      (∀ i ∈ session, i.resets = false) →
      ((dispatched rt sm store (handled rt sm store before) session).map
        Header.sequenceNumber).Pairwise (· < ·)) ∧
    Spaced 2501 ((dispatchOrder rt sm store is).map Header.commandId) ∧
    (handled rt sm store is).seenCommandIds.keys.length ≤ 5000 ∧
    (handled rt sm store is).seenCommandIds.keys <:+
      (dispatchOrder rt sm store is).map Header.commandId := by
  obtain ⟨hrecalls, hspaced⟩ := handled_recalls rt sm store is
  refine ⟨?_, hspaced, hrecalls.bounded, hrecalls.suffix⟩
  intro before session after _ hs
  exact (session_numbers rt sm store _ hs).2

end Runs

end AdaptiveAdvertisement.Player
