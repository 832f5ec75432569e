import AdaptiveAdvertisement.Player.ControlSession
import AdaptiveAdvertisement.Player.CommandOrder
import AdaptiveAdvertisement.Player.FallbackSelection
import Mathlib.Data.NNRat.Defs

/-!
# Content that expires on screen

The control session of the player with the wall clock, reloads of the manifest store
(`_manifest_reload_loop`, `main.py:284-291`) and refreshes of the fallback selection. The expiry of
a manifest is checked where it is activated (`command_handler.py:219-233`), and nowhere else.
-/

namespace AdaptiveAdvertisement.Player
open Library

variable {τ : Type}

/-! ### What a frame does to the content -/

/-- Content that is shown after was shown before. -/
def Continues (sm sm' : StateMachine) : Prop :=
  sm'.state.showing → sm.state.showing ∧ sm'.activeManifestId = sm.activeManifestId

/-- The manifest that is shown was in the store and passed its check. -/
def Activates (rt : Runtime τ) (store : ManifestStore) (utcNow : ℚ) (event : PlayEvent)
    (sm' : StateMachine) : Prop :=
  sm'.activeManifestId = some event.manifestId ∧
    ∃ manifest, store.get event.manifestId = some manifest ∧
      ManifestStore.checkManifest rt manifest utcNow = .ok none

/-- The content after a frame is what its event tells. -/
def ShownChecked (rt : Runtime τ) (h : CommandHandler) (utcNow : ℚ) (event : Option PlayEvent)
    (sm' : StateMachine) : Prop :=
  match event with
  | some event => Activates rt h.store utcNow event sm'
  | none => Continues h.sm sm'

section Frames

variable {rt : Runtime τ} {h : CommandHandler} {t : FrameClock}

theorem continues_refl (sm : StateMachine) : Continues sm sm := fun hs => ⟨hs, rfl⟩

theorem onFreeze_continues (sm : StateMachine) (reason : Option String) :
    Continues sm (sm.onFreeze reason).1 := by
  intro hs
  cases hstate : sm.state <;>
    simp [StateMachine.onFreeze, hstate, PlayerState.showing] at hs ⊢

theorem onSafeMode_continues (sm : StateMachine) (reason : Option String) (now : ℚ) :
    Continues sm (sm.onSafeMode reason now).1 := by
  intro hs
  simp [PlayerState.showing] at hs

theorem onClearSafeMode_continues (sm : StateMachine) : Continues sm sm.onClearSafeMode.1 :=
  fun hs => ⟨(onClearSafeMode_showing sm).mp hs, sm.onClearSafeMode_active⟩

theorem onConnectionLost_continues (sm : StateMachine) (now : ℚ) :
    Continues sm (sm.onConnectionLost now).1 :=
  fun hs => absurd hs (onConnectionLost_hidden sm now)

theorem activateManifest_checked {id : String} {d c : ℤ} {rationale : Option String}
    {sm : StateMachine} {result : TransitionResult} {event : Option PlayEvent}
    (hok : CommandHandler.activateManifest rt h id d c rationale t = .ok (sm, result, event)) :
    ShownChecked rt h t.utcNow event sm := by
  unfold CommandHandler.activateManifest at hok
  cases hm : h.store.get id with
  | none =>
    simp only [hm, Except.ok.injEq, Prod.mk.injEq] at hok
    obtain ⟨rfl, -, rfl⟩ := hok
    exact continues_refl _
  | some manifest =>
    cases hcheck : ManifestStore.checkManifest rt manifest t.utcNow with
    | error e => simp [hm, hcheck] at hok
    | ok rejection =>
      cases rejection with
      | some reason =>
        simp only [hm, hcheck, Except.ok.injEq, Prod.mk.injEq] at hok
        obtain ⟨rfl, -, rfl⟩ := hok
        exact continues_refl _
      | none =>
        simp only [hm, hcheck, Except.ok.injEq, Prod.mk.injEq] at hok
        obtain ⟨rfl, -, rfl⟩ := hok
        by_cases ha : h.sm.Accepts id t.monotonic
        · rw [StateMachine.onActivateCreative_accepted h.sm id d c rationale t.monotonic ha]
          exact ⟨rfl, manifest, hm, hcheck⟩
        · obtain ⟨r, hr, hacc, -⟩ :=
            StateMachine.onActivateCreative_rejected h.sm id d c rationale t.monotonic ha
          rw [hr]
          simp only [hacc, Bool.false_eq_true, if_false]
          exact continues_refl _

theorem dispatch_checked {msg : Json} {commandType : String} {sm : StateMachine}
    {result : TransitionResult} {event : Option PlayEvent}
    (hok : h.dispatch rt msg commandType t = .ok (sm, result, event)) :
    ShownChecked rt h t.utcNow event sm := by
  unfold CommandHandler.dispatch at hok
  split_ifs at hok with hactivate hfreeze hsafe hclear
  · simp only [CommandHandler.handleActivateCreative] at hok
    obtain ⟨id, -, hok⟩ := bind_ok hok
    obtain ⟨d, -, hok⟩ := bind_ok hok
    exact activateManifest_checked hok
  · simp only [Except.ok.injEq, Prod.mk.injEq] at hok
    obtain ⟨rfl, -, rfl⟩ := hok
    exact onFreeze_continues h.sm _
  · simp only [Except.ok.injEq, Prod.mk.injEq] at hok
    obtain ⟨rfl, -, rfl⟩ := hok
    exact onSafeMode_continues h.sm _ _
  · simp only [Except.ok.injEq, Prod.mk.injEq] at hok
    obtain ⟨rfl, -, rfl⟩ := hok
    exact onClearSafeMode_continues h.sm

theorem handleRaw_checked (rt : Runtime τ) (h : CommandHandler) (raw : τ) (t : FrameClock) :
    ShownChecked rt h t.utcNow (eventOf (h.handleRaw rt raw t).2) (h.handleRaw rt raw t).1.sm := by
  cases ha : h.admits rt raw with
  | none =>
    obtain ⟨hsame, hnone⟩ := CommandHandler.handleRaw_unadmitted t ha
    rw [eventOf_undispatched hnone, hsame]
    exact continues_refl h.sm
  | some hd =>
    obtain ⟨msg, -, heq⟩ := CommandHandler.handleRaw_admitted t ha
    rw [heq]
    cases hdispatch :
        (h.record hd.sequenceNumber hd.commandId).dispatch rt msg hd.commandType t with
    | error e => exact continues_refl h.sm
    | ok r =>
      obtain ⟨sm, result, event⟩ := r
      exact dispatch_checked hdispatch

end Frames

/-! ### The player with its clock -/

/-- A manifest as the store held it when it was activated, and when that was. -/
structure ShownContent where
  manifest : Json
  since : ℚ

/-- `shown` is the last accepted activation. -/
structure Playback where
  session : ControlSession
  bundle : BundleState
  utcNow : ℚ
  shown : Option ShownContent := none

/-- A session step, an iteration of one of the two background loops, or time that passes. A frame
is handled at the time of the wall clock. -/
inductive PlaybackStep (τ : Type) where
  | session (i : SessionStep τ)
  | reload (dir : Option Directory)
  | refresh (sources : FallbackSources)
  | passes (utcNow : ℚ)

def PlaybackStep.background : PlaybackStep τ → Bool
  | .session _ => false
  | .reload _ => true
  | .refresh _ => true
  | .passes _ => true

def SessionStep.at (utcNow : ℚ) : SessionStep τ → SessionStep τ
  | .frame raw t => .frame raw { t with utcNow := utcNow }
  | i => i

namespace Playback

variable (rt : Runtime τ)

/-- The activation that a step of the session accepts. -/
def eventAt (s : ControlSession) : SessionStep τ → Option PlayEvent
  | .frame raw t =>
    match s.phase with
    | .session _ => eventOf (s.handler.handleRaw rt raw t).2
    | _ => none
  | _ => none

def shownAfter (s : Playback) (i : SessionStep τ) : Option ShownContent :=
  match eventAt rt s.session i with
  | some event =>
    (s.session.handler.store.get event.manifestId).map fun manifest => ⟨manifest, s.utcNow⟩
  | none => s.shown

def step (s : Playback) : PlaybackStep τ → Playback
  | .session i =>
    { s with
      session := s.session.step rt (i.at s.utcNow)
      shown := s.shownAfter rt (i.at s.utcNow) }
  | .reload dir =>
    { s with session := { s.session with handler :=
        { s.session.handler with store := (s.session.handler.store.reload dir).1 } } }
  | .refresh sources => { s with bundle := (s.bundle.refresh sources).1 }
  | .passes utcNow => { s with utcNow := utcNow }

def sm (s : Playback) : StateMachine := s.session.handler.sm

end Playback

def playback (rt : Runtime τ) (store : ManifestStore) (bundle : BundleState) (utcNow : ℚ) :
    Machine Playback (PlaybackStep τ) Unit where
  init := ⟨{ handler := { sm := StateMachine.init, store := store } }, bundle, utcNow, none⟩
  step := fun s i => (s.step rt i, ())

/-! ### The law -/

/-- The instant from which a manifest is expired. -/
def expiresAt (rt : Runtime τ) (manifest : Json) : Option ℚ :=
  match ManifestStore.parsedExpiry rt manifest with
  | some (.aware expiry) => some expiry
  | _ => none

/-- Content that is shown has not been expired for longer than the interval. -/
def NotOverdue (rt : Runtime τ) (interval : NNRat) (s : Playback) : Prop :=
  s.sm.state.showing → ∀ content ∈ s.shown, ∀ expiry ∈ expiresAt rt content.manifest,
    s.utcNow ≤ expiry + interval

instance (rt : Runtime τ) (interval : NNRat) (s : Playback) :
    Decidable (NotOverdue rt interval s) :=
  inferInstanceAs (Decidable (s.sm.state.showing → ∀ content ∈ s.shown,
    ∀ expiry ∈ expiresAt rt content.manifest, s.utcNow ≤ expiry + interval))

/-- Content that is shown was activated before it expired. -/
def ActivatedInTime (rt : Runtime τ) (s : Playback) : Prop :=
  s.sm.state.showing → ∃ content, s.shown = some content ∧
    s.sm.activeManifestId = some (manifestId content.manifest) ∧
      ∀ expiry ∈ expiresAt rt content.manifest, content.since ≤ expiry

/-- Neither time nor a background loop takes content off the screen. -/
structure ChecksAtActivation (rt : Runtime τ) (s : Playback) (i : PlaybackStep τ) : Prop where
  activated : ActivatedInTime rt (s.step rt i)
  stays : i.background = true → (s.step rt i).sm = s.sm ∧ (s.step rt i).shown = s.shown

section Steps

variable {rt : Runtime τ} {s : Playback}

theorem eventAt_quiet (rt : Runtime τ) {s : ControlSession} {i : SessionStep τ}
    (h : s.Quiet i) : Playback.eventAt rt s i = none := by
  cases i with
  | frame raw t =>
    cases hp : s.phase with
    | session handled => exact absurd hp (h raw t handled rfl)
    | connecting => simp only [Playback.eventAt, hp]
    | stopped => simp only [Playback.eventAt, hp]
  | connectFails now => rfl
  | connects => rfl
  | ends how now => rfl
  | engageSafeMode reason now => rfl
  | clearSafeMode => rfl

theorem at_utcNow {utcNow : ℚ} {i : SessionStep τ} {raw : τ} {t : FrameClock}
    (h : i.at utcNow = .frame raw t) : t.utcNow = utcNow := by
  cases i <;> cases h
  rfl

theorem sessionStep_checked (rt : Runtime τ) (s : ControlSession) {i : SessionStep τ}
    {utcNow : ℚ} (hclock : ∀ raw t, i = .frame raw t → t.utcNow = utcNow) :
    ShownChecked rt s.handler utcNow (Playback.eventAt rt s i) (s.step rt i).handler.sm := by
  have hmoves := s.step_moves rt i
  generalize s.step rt i = s' at hmoves
  cases hmoves with
  | ignored hquiet =>
    rw [eventAt_quiet rt hquiet]
    exact continues_refl s.handler.sm
  | lost now hquiet =>
    rw [eventAt_quiet rt hquiet]
    exact onConnectionLost_continues s.handler.sm now
  | connected => exact continues_refl s.handler.sm
  | handled raw t before phase hsession =>
    have hframe := handleRaw_checked rt s.handler raw t
    rw [hclock raw t rfl] at hframe
    simpa only [Playback.eventAt, hsession] using hframe
  | closed now => exact continues_refl s.handler.sm
  | engaged reason now => exact onSafeMode_continues s.handler.sm reason now
  | cleared => exact onClearSafeMode_continues s.handler.sm

/-- A manifest that passes its check is not expired. -/
theorem expiresAt_checked {manifest : Json} {utcNow expiry : ℚ}
    (hvalid : Contracts.creativeManifest manifest = true)
    (hcheck : ManifestStore.checkManifest rt manifest utcNow = .ok none)
    (hexpiry : expiry ∈ expiresAt rt manifest) : utcNow ≤ expiry := by
  cases happroved : ManifestStore.approved manifest with
  | false =>
    rw [ManifestStore.checkManifest_unapproved happroved] at hcheck
    cases hcheck
  | true =>
    rcases ManifestStore.checkManifest_approved rt utcNow hvalid happroved with
      ⟨-, hnone | ⟨instant, haware, hle⟩⟩ | ⟨⟨reason, hreason⟩, -⟩ |
        ⟨hraised, -⟩
    · simp [expiresAt, hnone] at hexpiry
    · have hinstant : instant = expiry := by simpa [expiresAt, haware] using hexpiry
      exact hinstant ▸ hle
    · rw [hreason] at hcheck
      cases hcheck
    · rw [hraised] at hcheck
      cases hcheck

theorem session_activated (h : ActivatedInTime rt s) (i : SessionStep τ) :
    ActivatedInTime rt (s.step rt (.session i)) := by
  intro hshowing
  have hclock : ∀ raw t, i.at s.utcNow = .frame raw t → t.utcNow = s.utcNow :=
    fun _ _ => at_utcNow
  have hchecked := sessionStep_checked rt s.session hclock
  have hafter : (s.step rt (.session i)).shown = s.shownAfter rt (i.at s.utcNow) := rfl
  rw [hafter, Playback.shownAfter]
  cases hevent : Playback.eventAt rt s.session (i.at s.utcNow) with
  | none =>
    rw [hevent] at hchecked
    obtain ⟨hbefore, hactive⟩ := hchecked hshowing
    obtain ⟨content, hshown, hid, hexpiry⟩ := h hbefore
    exact ⟨content, hshown, hactive.trans hid, hexpiry⟩
  | some event =>
    rw [hevent] at hchecked
    obtain ⟨hactive, manifest, hstored, hcheck⟩ := hchecked
    obtain ⟨hvalid, hid⟩ := ManifestStore.get_valid hstored
    refine ⟨⟨manifest, s.utcNow⟩, ?_, ?_, fun expiry => expiresAt_checked hvalid hcheck⟩
    · simp only [hstored, Option.map_some]
    · rw [hid]
      exact hactive

theorem step_activated (h : ActivatedInTime rt s) (i : PlaybackStep τ) :
    ActivatedInTime rt (s.step rt i) := by
  cases i with
  | session i => exact session_activated h i
  | reload dir => exact h
  | refresh sources => exact h
  | passes utcNow => exact h

theorem background_stays (rt : Runtime τ) (s : Playback) {i : PlaybackStep τ}
    (h : i.background = true) : (s.step rt i).sm = s.sm ∧ (s.step rt i).shown = s.shown := by
  cases i with
  | session i => cases h
  | reload dir => exact ⟨rfl, rfl⟩
  | refresh sources => exact ⟨rfl, rfl⟩
  | passes utcNow => exact ⟨rfl, rfl⟩

end Steps

/-- In every run the content on screen had not expired when it was activated, and stays whatever
time passes and whatever a reload or a refresh finds. -/
theorem checksAtActivation_run (rt : Runtime τ) (store : ManifestStore) (bundle : BundleState)
    (utcNow : ℚ) (is : List (PlaybackStep τ)) :
    (playback rt store bundle utcNow).EachStep (ChecksAtActivation rt)
      (playback rt store bundle utcNow).init is := by
  refine Machine.eachStep_of_inv (M := playback rt store bundle utcNow) (I := ActivatedInTime rt)
    (fun s i h => step_activated h i)
    (fun s i h => ⟨step_activated h i, fun hback => background_stays rt s hback⟩) ?_ is
  intro hshowing
  simp [playback, Playback.sm, StateMachine.init, PlayerState.showing] at hshowing

/-! ### A poster that stays -/

/-- A runtime that reads one date, the first instant of 2026 in seconds. -/
def newYearRuntime : Runtime Json where
  toCodec := jsonCodec
  fromisoformat := fun s =>
    if s = "2026-01-01T00:00:00+00:00" then .aware 1767225600
    else .invalid "Invalid isoformat string"

def expiringPoster : Json :=
  .obj [("schema_version", .str "1.0.0"), ("manifest_id", .str "poster"),
    ("approved_at", .str "2025-12-01T00:00:00Z"), ("approved_by", .str "ops"),
    ("expires_at", .str "2026-01-01T00:00:00Z"),
    ("items", .arr [.obj [("item_id", .str "i-1"), ("asset_id", .str "a-1"),
      ("asset_type", .str "image"), ("duration_ms", .int 5000)]])]

def expiringStore : ManifestStore := (ManifestStore.empty.put expiringPoster).1

/-- The poster is activated ten seconds before it expires. Reloads every minute, the second of
which finds it removed, leave it on screen. -/
def quietMinutes : List (PlaybackStep Json) :=
  [.session .connects, .session (.frame posterCommand ⟨0, .at 0⟩), .passes 1767225650,
    .reload (some (Dict.ofList [("poster.json", .content (.value expiringPoster))])),
    .passes 1767225710, .reload (some Dict.empty)]

theorem poster_overdue : ¬ ∀ (rt : Runtime Json) (interval : NNRat) (store : ManifestStore)
    (bundle : BundleState) (utcNow : ℚ) (is : List (PlaybackStep Json)),
    (playback rt store bundle utcNow).EachStep
      (fun s i => NotOverdue rt interval ((playback rt store bundle utcNow).next s i))
      (playback rt store bundle utcNow).init is := by
  intro h
  have hrun := h newYearRuntime 60 expiringStore {} 1767225590 quietMinutes
  exact absurd hrun.2.2.2.2.2.1 (by decide +kernel)

end AdaptiveAdvertisement.Player
