import AdaptiveAdvertisement.System.FreshCommands

/-!
# When an activation is lost

Over every run: a player that would take the manifest the policy returned shows it, unless the
loop is silent on a false belief. The belief is true as long as each activation lands.
-/

namespace AdaptiveAdvertisement.System
open Library Contracts Player DecisionOptimizer

variable {τ δ : Type}

/-! ### The law -/

structure Ready (rt : Runtime τ) (player : CommandHandler) (m : String) (now utcNow : ℚ) :
    Prop where
  notSafe : player.sm.state ≠ .safeMode
  stored : ∃ manifest, player.store.get m = some manifest ∧
    ManifestStore.checkManifest rt manifest utcNow = .ok none
  cooled : player.sm.inCooldown m now = false
  dwelt : player.sm.dwellElapsed now = true

/-- Right after a tick that returned `m`, a connected player that would take `m` shows it. -/
def NoLostActivation (w : World τ δ) (s : Delivery) : Step τ δ → Prop
  | .tick t => ∀ m, (s.decision w t).candidate = some m →
    (s.tick w t).connected = true →
    Ready w.rt (s.tick w t).player m t.now t.utcNow →
    (s.tick w t).player.sm.activeManifestId = some m
  | _ => True

def Sendable (cfg : LoopConfig δ) (rationale : String) : Prop :=
  0 ≤ cfg.policy.minDwellMs ∧ 0 ≤ cfg.policy.cooldownMs ∧ rationale.length ≤ 500

/-- A tick that returns `m` to a connected player that would take it sends a valid activation,
or the player shows `m` already: the loop is not silent on a false belief. -/
def SilenceJustified (w : World τ δ) (s : Delivery) : Step τ δ → Prop
  | .tick t => ∀ m, (s.decision w t).candidate = some m →
    s.connected = true → Ready w.rt s.player m t.now t.utcNow →
    (∃ rationale, s.decision w t = .activate m rationale ∧ Sendable w.cfg rationale) ∨
      s.player.sm.activeManifestId = some m
  | _ => True

/-- What the loop believes the player shows: nothing in particular while it holds the player
frozen or has never activated. -/
def Believes (s : Delivery) (m : String) : Prop :=
  s.loop.playerFrozen = false ∧ s.loop.currentManifestId = some m

/-- Each activation finds a connected player that takes it, or that shows it already; and the
player loses its creative only while the loop believes nothing. -/
def Lands (w : World τ δ) (s : Delivery) : Step τ δ → Prop
  | .tick t => ∀ m rationale, s.decision w t = .activate m rationale →
    (s.connected = true ∧ Sendable w.cfg rationale ∧
      (∃ manifest, s.player.store.get m = some manifest ∧
        ManifestStore.checkManifest w.rt manifest t.utcNow = .ok none) ∧
      s.player.sm.Accepts m (.at t.now)) ∨
    s.player.sm.activeManifestId = some m
  | .disconnect abnormal _ => s.running = true → abnormal = true →
    s.player.sm.state ≠ .safeMode → ∀ m, ¬ Believes s m
  | .engageSafeMode _ _ => s.running = true → ∀ m, ¬ Believes s m
  | _ => True

/-! ### What a tick that returned a manifest leaves behind -/

section Activation

variable {w : World τ δ} {s : Delivery} {m : String} {t : Tick δ}

theorem Ready.accepts {rt : Runtime τ} {player : CommandHandler} {now utcNow : ℚ}
    (h : Ready rt player m now utcNow) : player.sm.Accepts m (.at now) :=
  ⟨h.notSafe, fun _ => h.dwelt, h.cooled⟩

theorem activateManifest_stored (rt : Runtime τ) (h : CommandHandler) (d c : ℤ)
    (rationale : Option String) (t : FrameClock) {manifest : Json}
    (hget : h.store.get m = some manifest)
    (hcheck : ManifestStore.checkManifest rt manifest t.utcNow = .ok none) :
    ∃ result event, h.activateManifest rt m d c rationale t =
      .ok ((h.sm.onActivateCreative m d c rationale t.monotonic).1, result, event) := by
  simp [CommandHandler.activateManifest, hget, hcheck]

theorem stored_id_length {store : ManifestStore} {manifest : Json}
    (h : store.get m = some manifest) : 1 ≤ m.length ∧ m.length ≤ 128 := by
  obtain ⟨hvalid, hid⟩ := ManifestStore.get_valid h
  have hget := get?_manifestId hvalid
  rw [hid] at hget
  have hident : identifier (.str m) = true :=
    Schema.object_property hvalid (k := "manifest_id") (by simp) hget
  exact (identifier_str_iff m).mp hident

theorem outgoing_activate_iff (rationale : String)
    (hstored : ∃ manifest, s.player.store.get m = some manifest) :
    (∃ msg, outgoing w s t (.activate m rationale) = some msg) ↔
      s.connected = true ∧ Sendable w.cfg rationale := by
  obtain ⟨manifest, hget⟩ := hstored
  have hvalid := activateCommand_valid_iff (s.gateway.sequence + 1)
    t.stamp m w.cfg.policy.minDwellMs w.cfg.policy.cooldownMs rationale
  simp only [stored_id_length hget, true_and] at hvalid
  simp only [outgoing, sending, Option.bind_some, built, hvalid, Sendable]
  split
  next h => simp [h]
  next h => simp [h]

theorem activateManifest_active {rt : Runtime τ} {h : CommandHandler} {d c : ℤ}
    {rationale : Option String} {t : FrameClock}
    {r : StateMachine × TransitionResult × Option PlayEvent}
    (hok : h.activateManifest rt m d c rationale t = .ok r) :
    r.1 = h.sm ∨ r.1.activeManifestId = some m := by
  unfold CommandHandler.activateManifest at hok
  split at hok
  · cases hok
    exact Or.inl rfl
  · split at hok
    · cases hok
    · cases hok
      exact Or.inl rfl
    · cases hok
      by_cases ha : h.sm.Accepts m t.monotonic
      · rw [StateMachine.onActivateCreative_accepted _ _ _ _ _ _ ha]
        exact Or.inr rfl
      · obtain ⟨r, hr, -⟩ := StateMachine.onActivateCreative_rejected h.sm m d c rationale
          t.monotonic ha
        rw [hr]
        exact Or.inl rfl

theorem tick_store : (s.tick w t).player.store = s.player.store := by
  cases hout : outgoing w s t (s.decision w t) with
  | none => rw [(tick_unsent hout).2]
  | some msg =>
    obtain ⟨-, hplayer⟩ := tick_sent hout
    obtain ⟨p, -, rfl, -⟩ := outgoing_some hout
    rw [hplayer]
    exact (handleRaw_remembers _ _ _ header_command).store

theorem activate_of_sent {msg : Json} {d : Decision} (hm : d.candidate = some m)
    (hout : outgoing w s t d = some msg) : ∃ rationale, d = .activate m rationale := by
  obtain ⟨p, hp, -⟩ := outgoing_some hout
  cases d with
  | activate m' rationale =>
    cases hm
    exact ⟨rationale, rfl⟩
  | freeze reason => cases hm
  | hold => cases hm
  | noSignal => cases hm
  | noMatch => cases hm
  | raised e => cases hm
  | unchanged m' => cases hp

-- an activation that the loop decides on, with a new id and no number above the gateway's seen
section Decided

variable {rationale : String} (hfresh : Fresh s) (hnew : t.stamp.commandId ∉ s.issued)
  (hd : s.decision w t = .activate m rationale)

include hfresh hnew hd

theorem tick_handled {msg : Json} (hout : outgoing w s t (.activate m rationale) = some msg) :
    (s.tick w t).player =
      match (s.player.record (s.gateway.sequence + 1 : ℕ) t.stamp.commandId).activateManifest
          w.rt m w.cfg.policy.minDwellMs w.cfg.policy.cooldownMs (heard rationale)
          t.clock with
      | .error _ => s.player.record (s.gateway.sequence + 1 : ℕ) t.stamp.commandId
      | .ok (sm, _, _) =>
        { s.player.record (s.gateway.sequence + 1 : ℕ) t.stamp.commandId with sm := sm } := by
  obtain ⟨-, hplayer⟩ := tick_sent (hd ▸ hout)
  obtain ⟨p, hp, rfl, -, hvalid⟩ := outgoing_some hout
  obtain rfl := (Option.some.inj hp).symm
  have hs := hfresh.sequence
  have hseq : s.player.lastSequence < (s.gateway.sequence + 1 : ℕ) := by omega
  have hhandled := handleRaw_activate w.rt (h := s.player) t.clock
    hvalid (hfresh.unseen hnew) hseq
  rw [hplayer]
  refine (congrArg Prod.fst hhandled).trans ?_
  cases (s.player.record (s.gateway.sequence + 1 : ℕ) t.stamp.commandId).activateManifest w.rt m
      w.cfg.policy.minDwellMs w.cfg.policy.cooldownMs (heard rationale) t.clock with
  | error e => rfl
  | ok r => rfl

theorem tick_activates (hconnected : s.connected = true) (hsendable : Sendable w.cfg rationale)
    {manifest : Json} (hget : s.player.store.get m = some manifest)
    (hcheck : ManifestStore.checkManifest w.rt manifest t.utcNow = .ok none) :
    (s.tick w t).player.sm =
      (s.player.sm.onActivateCreative m w.cfg.policy.minDwellMs w.cfg.policy.cooldownMs
        (heard rationale) (.at t.now)).1 := by
  obtain ⟨msg, hout⟩ := (outgoing_activate_iff (w := w) (t := t) rationale
    ⟨manifest, hget⟩).mpr ⟨hconnected, hsendable⟩
  obtain ⟨result, event, hactivate⟩ := activateManifest_stored w.rt
    (s.player.record (s.gateway.sequence + 1 : ℕ) t.stamp.commandId) w.cfg.policy.minDwellMs
    w.cfg.policy.cooldownMs (heard rationale) t.clock hget hcheck
  rw [tick_handled hfresh hnew hd hout, hactivate]
  rfl

theorem activate_shown (hconnected : s.connected = true) (hsendable : Sendable w.cfg rationale)
    (hready : Ready w.rt (s.tick w t).player m t.now t.utcNow) :
    (s.tick w t).player.sm.activeManifestId = some m := by
  obtain ⟨manifest, hget, hcheck⟩ := hready.stored
  rw [tick_store] at hget
  have hsm := tick_activates hfresh hnew hd hconnected hsendable hget hcheck
  have haccepts := hready.accepts
  rw [hsm] at haccepts ⊢
  by_cases h : s.player.sm.Accepts m (.at t.now)
  · rw [StateMachine.onActivateCreative_accepted _ _ _ _ _ _ h]
    rfl
  · obtain ⟨r, hr, -⟩ := StateMachine.onActivateCreative_rejected s.player.sm m
      w.cfg.policy.minDwellMs w.cfg.policy.cooldownMs (heard rationale) (.at t.now) h
    rw [hr] at haccepts
    exact absurd haccepts h

theorem tick_activate_active :
    (s.tick w t).player.sm = s.player.sm ∨
      (s.tick w t).player.sm.activeManifestId = some m := by
  cases hout : outgoing w s t (.activate m rationale) with
  | none => exact Or.inl (by rw [(tick_unsent (hd ▸ hout)).2])
  | some msg =>
    rw [tick_handled hfresh hnew hd hout]
    split
    next => exact Or.inl rfl
    next hactivate => exact activateManifest_active hactivate

end Decided

/-- A tick loses no activation exactly where its silence, if it is silent, is justified. -/
theorem noLost_iff (hfresh : Fresh s) {i : Step τ δ} (hnew : DrawsNew s i) :
    NoLostActivation w s i ↔ SilenceJustified w s i := by
  cases i with
  | tick t =>
    refine forall_congr' fun m => imp_congr_right fun hm => ?_
    cases hout : outgoing w s t (s.decision w t) with
    | none =>
      obtain ⟨hgateway, hplayer⟩ := tick_unsent hout
      have hconnected : (s.tick w t).connected = s.connected := by
        rw [Delivery.connected, Delivery.connected, hgateway]
      rw [hplayer, hconnected]
      refine imp_congr_right fun hc => imp_congr_right fun hready => ?_
      refine ⟨Or.inr, fun hjustified => ?_⟩
      · rcases hjustified with ⟨rationale, hd, hsendable⟩ | hshown
        · obtain ⟨manifest, hget, -⟩ := hready.stored
          obtain ⟨msg, hmsg⟩ := (outgoing_activate_iff (w := w) (t := t) rationale
            ⟨manifest, hget⟩).mpr ⟨hc, hsendable⟩
          rw [hd, hmsg] at hout
          cases hout
        · exact hshown
    | some msg =>
      obtain ⟨rationale, hd⟩ := activate_of_sent hm hout
      have hsent : (∃ manifest, s.player.store.get m = some manifest) →
          s.connected = true ∧ Sendable w.cfg rationale :=
        fun hstored => (outgoing_activate_iff rationale hstored).mp ⟨msg, hd ▸ hout⟩
      refine iff_of_true ?_ ?_
      · intro _ hready
        obtain ⟨manifest, hget, -⟩ := hready.stored
        rw [tick_store] at hget
        obtain ⟨hc, hsendable⟩ := hsent ⟨manifest, hget⟩
        exact activate_shown hfresh (hnew _ rfl) hd hc hsendable hready
      · intro _ hready
        obtain ⟨manifest, hget, -⟩ := hready.stored
        exact Or.inl ⟨rationale, hd, (hsent ⟨manifest, hget⟩).2⟩
  | signal raw now => exact Iff.rfl
  | connect => exact Iff.rfl
  | disconnect abnormal now => exact Iff.rfl
  | engageSafeMode reason now => exact Iff.rfl
  | clearSafeMode => exact Iff.rfl

end Activation

/-! ### The loop's belief -/

section Belief

variable {w : World τ δ} {s : Delivery} {m : String} {t : Tick δ}

def BeliefTrue (s : Delivery) : Prop :=
  ∀ m, Believes s m → s.player.sm.activeManifestId = some m

theorem beliefTrue_tick (hfresh : Fresh s) (hnew : t.stamp.commandId ∉ s.issued)
    (hbelief : BeliefTrue s) (hlands : Lands w s (.tick t)) : BeliefTrue (s.tick w t) := by
  obtain ⟨sent, hloop⟩ := tick_loop w s t
  -- a decision that sends nothing and keeps what the loop believes
  have hkeep : sending w.cfg (s.decision w t) = none →
      (s.loop.settle sent (s.decision w t)).playerFrozen = s.loop.playerFrozen →
      (s.loop.settle sent (s.decision w t)).currentManifestId = s.loop.currentManifestId →
        BeliefTrue (s.tick w t) := by
    intro hsending hfrozen hcurrent m hm
    have hout : outgoing w s t (s.decision w t) = none := by
      rw [outgoing, hsending]
      rfl
    rw [Believes, hloop, hfrozen, hcurrent] at hm
    rw [(tick_unsent hout).2]
    exact hbelief m hm
  cases hd : s.decision w t with
  | freeze reason =>
    intro m hm
    rw [hd] at hloop
    have hfrozen := hm.1
    rw [hloop] at hfrozen
    cases hfrozen
  | activate m rationale =>
    intro m' hm
    rw [hd] at hloop
    have hcurrent := hm.2
    rw [hloop] at hcurrent
    obtain rfl := Option.some.inj hcurrent
    rcases hlands m rationale hd with ⟨hconnected, hsendable, hstored, haccepts⟩ | hshown
    · obtain ⟨manifest, hget, hcheck⟩ := hstored
      rw [tick_activates hfresh hnew hd hconnected hsendable hget hcheck,
        StateMachine.onActivateCreative_accepted _ _ _ _ _ _ haccepts]
      rfl
    · rcases tick_activate_active hfresh hnew hd with hsm | hactive
      · rw [hsm, hshown]
      · exact hactive
  | unchanged m =>
    have hfrozen := (DecisionLoop.decide_unchanged hd).2
    rw [hd] at hkeep
    exact hkeep rfl hfrozen.symm rfl
  | hold =>
    rw [hd] at hkeep
    exact hkeep rfl rfl rfl
  | noSignal =>
    rw [hd] at hkeep
    exact hkeep rfl rfl rfl
  | noMatch =>
    rw [hd] at hkeep
    exact hkeep rfl rfl rfl
  | raised e =>
    rw [hd] at hkeep
    exact hkeep rfl rfl rfl

theorem beliefTrue_control (hbelief : BeliefTrue s) {sm : StateMachine}
    (hsm : s.running = true → ∀ m, Believes s m →
      s.player.sm.activeManifestId = some m → sm.activeManifestId = some m) :
    BeliefTrue (s.control sm) := by
  unfold Delivery.control
  split
  next hrunning => exact fun m hm => hsm hrunning m hm (hbelief m hm)
  next => exact hbelief

theorem beliefTrue_step (hfresh : Fresh s) (hbelief : BeliefTrue s) {i : Step τ δ}
    (hnew : DrawsNew s i) (hlands : Lands w s i) : BeliefTrue (s.step w i) := by
  cases i with
  | signal raw now => exact hbelief
  | tick t => exact beliefTrue_tick hfresh (hnew _ rfl) hbelief hlands
  | connect =>
    change BeliefTrue s.connect
    unfold Delivery.connect
    split
    · exact hbelief
    · exact hbelief
  | disconnect abnormal now =>
    intro m hm
    change (if s.running && abnormal then (s.player.sm.onConnectionLost now).1
      else s.player.sm).activeManifestId = some m
    split
    next hlost =>
      rw [Bool.and_eq_true] at hlost
      by_cases hsafe : s.player.sm.state = .safeMode
      · rw [StateMachine.onConnectionLost_active, if_pos hsafe]
        exact hbelief m hm
      · exact absurd hm (hlands hlost.1 hlost.2 hsafe m)
    next => exact hbelief m hm
  | engageSafeMode reason now =>
    exact beliefTrue_control hbelief fun hrunning m hm => absurd hm (hlands hrunning m)
  | clearSafeMode =>
    refine beliefTrue_control hbelief fun _ m _ hactive => ?_
    rw [StateMachine.onClearSafeMode_active, hactive]

/-- A loop whose belief is true is rightly silent. -/
theorem justified_of_lands (hbelief : BeliefTrue s) {i : Step τ δ} (hlands : Lands w s i) :
    SilenceJustified w s i := by
  cases i with
  | tick t =>
    intro m hm _ _
    cases hd : s.decision w t with
    | activate m' rationale =>
      rw [hd] at hm
      obtain rfl := Option.some.inj hm
      rcases hlands m' rationale hd with ⟨-, hsendable, -⟩ | hshown
      · exact Or.inl ⟨rationale, rfl, hsendable⟩
      · exact Or.inr hshown
    | unchanged m' =>
      rw [hd] at hm
      obtain rfl := Option.some.inj hm
      obtain ⟨hcurrent, hfrozen⟩ := DecisionLoop.decide_unchanged hd
      exact Or.inr (hbelief m' ⟨hfrozen, hcurrent⟩)
    | freeze reason => rw [hd] at hm; cases hm
    | hold => rw [hd] at hm; cases hm
    | noSignal => rw [hd] at hm; cases hm
    | noMatch => rw [hd] at hm; cases hm
    | raised e => rw [hd] at hm; cases hm
  | signal raw now => trivial
  | connect => trivial
  | disconnect abnormal now => trivial
  | engageSafeMode reason now => trivial
  | clearSafeMode => trivial

end Belief

/-! ### Runs -/

section Runs

variable {w : World τ δ} {s : Delivery}

theorem step_store (w : World τ δ) (s : Delivery) (i : Step τ δ) :
    (s.step w i).player.store = s.player.store := by
  have hcontrol : ∀ sm, (s.control sm).player.store = s.player.store := by
    intro sm
    unfold Delivery.control
    split <;> rfl
  cases i with
  | signal raw now => rfl
  | tick t => exact tick_store
  | connect =>
    change s.connect.player.store = s.player.store
    unfold Delivery.connect
    split <;> rfl
  | disconnect abnormal now => rfl
  | engageSafeMode reason now => exact hcontrol _
  | clearSafeMode => exact hcontrol _

theorem run_store (w : World τ δ) (store : ManifestStore) (is : List (Step τ δ)) :
    ((delivery w store).run (Delivery.start store) is).player.store = store :=
  Machine.run_inv (M := delivery w store) (I := fun s => s.player.store = store)
    (fun s i hs => (step_store w s i).trans hs) rfl is

theorem beliefTrue_start (store : ManifestStore) : BeliefTrue (Delivery.start store) := by
  intro m hm
  cases hm.2

/-- For every run whose ticks draw distinct command ids: no activation is lost exactly where
every silence is justified; and every silence is justified where each activation lands and the
player loses its creative only while the loop believes nothing. -/
theorem noLostActivation_iff (w : World τ δ) (store : ManifestStore) (is : List (Step τ δ))
    (hdistinct : (is.filterMap Step.commandId?).Nodup) :
    ((delivery w store).EachStep (NoLostActivation w) (Delivery.start store) is ↔
      (delivery w store).EachStep (SilenceJustified w) (Delivery.start store) is) ∧
    ((delivery w store).EachStep (Lands w) (Delivery.start store) is →
      (delivery w store).EachStep (NoLostActivation w) (Delivery.start store) is) := by
  have hnew : (delivery w store).EachStep DrawsNew (Delivery.start store) is :=
    drawsNew_run w store hdistinct fun _ _ hmem => by cases hmem
  refine ⟨?_, fun hlands => ?_⟩
  · exact Machine.eachStep_iff_under (M := delivery w store) (I := Fresh)
      (fun s i hfresh _ => fresh_step hfresh i) (fun s i hfresh hi => noLost_iff hfresh hi)
      (fresh_start store) hnew
  · -- the belief is true at every step, and a true belief justifies the silence
    refine Machine.eachStep_of_inv_under (M := delivery w store)
      (I := fun s => Fresh s ∧ BeliefTrue s) (C := fun s i => DrawsNew s i ∧ Lands w s i) ?_ ?_
      ⟨fresh_start store, beliefTrue_start store⟩
      ((delivery w store).eachStep_and.mpr ⟨hnew, hlands⟩)
    · intro s i hinv hstep
      exact ⟨fresh_step hinv.1 i, beliefTrue_step hinv.1 hinv.2 hstep.1 hstep.2⟩
    · intro s i hinv hstep
      exact (noLost_iff hinv.1 hstep.1).mpr (justified_of_lands hinv.2 hstep.2)

end Runs

/-! ### A lost activation -/

def lobbyWorld : World Json Unit where
  rt := jsonRuntime
  cfg :=
    { policy :=
        { minDwellMs := 10000, cooldownMs := 5000, evaluate := fun _ _ => .ok (some "lobby") }
      formatting := { str := fun _ => "2", fixed2 := fun _ => "0.90" }
      staleSignalThresholdMs := 5000 }

def lobbyManifest : Json :=
  .obj [("schema_version", .str "1.0.0"), ("manifest_id", .str "lobby"),
    ("approved_at", .str "2026-01-01T00:00:00Z"), ("approved_by", .str "operator"),
    ("items", .arr [.obj [("item_id", .str "i-1"), ("asset_id", .str "a-1"),
      ("asset_type", .str "image"), ("duration_ms", .int 5000)]])]

def lobbyStore : ManifestStore := (ManifestStore.empty.put lobbyManifest).1

def lobbySignal : Json :=
  .obj [("schema_version", .str "1.0.0"), ("message_type", .str "audience_state_signal"),
    ("message_id", .str "m-1"), ("produced_at", .str "2026-01-01T00:00:00Z"),
    ("tenant_id", .str "t-1"), ("site_id", .str "s-1"), ("camera_id", .str "c-1"),
    ("state", .obj [("presence", .obj [("count", .int 2), ("confidence", .num (9 / 10))]),
      ("stability", .obj [("state_stable", .bool true), ("freeze_decision", .bool false)])]),
    ("source_quality", .obj [("signal_age_ms", .int 0), ("pipeline_degraded", .bool false)]),
    ("privacy", .obj [("contains_images", .bool false), ("contains_frame_urls", .bool false),
      ("contains_face_embeddings", .bool false)])]

def firstTick : Tick Unit where
  now := 1
  utcNow := 1
  draw := ()
  stamp :=
    ⟨"0b9e0b7c-54a1-4d6c-9f0e-3a2b1c4d5e6f", "2026-01-01T00:00:01.000Z", commandId_length⟩

def secondTick : Tick Unit where
  now := 2
  utcNow := 2
  draw := ()
  stamp :=
    ⟨"5f6e7d8c-9b0a-4c1d-8e2f-3a4b5c6d7e8f", "2026-01-01T00:00:02.000Z", by decide +kernel⟩

theorem lobbyStore_get : lobbyStore.get "lobby" = some lobbyManifest := by
  rw [lobbyStore, ManifestStore.get_put, if_pos ⟨by decide +kernel, by decide +kernel⟩]

theorem lobbyManifest_check (utcNow : ℚ) :
    ManifestStore.checkManifest jsonRuntime lobbyManifest utcNow = .ok none := by
  have happroved : ManifestStore.present lobbyManifest "approved_at" = true ∧
      ManifestStore.present lobbyManifest "approved_by" = true := by
    exact ⟨by decide +kernel, by decide +kernel⟩
  have hexpires : lobbyManifest.get? "expires_at" = none := by simp [lobbyManifest, Dict.find]
  simp [ManifestStore.checkManifest, happroved, hexpires]

/-- The loop ticks before the player connects and notes the manifest as current; after that
it stays silent, and the player stays in fallback. -/
theorem activation_lost_before_connect :
    ¬ ∀ (w : World Json Unit) (store : ManifestStore) (is : List (Step Json Unit)),
      (is.filterMap Step.commandId?).Nodup → (is.filterMap Step.now?).Pairwise (· ≤ ·) →
        (delivery w store).EachStep (NoLostActivation w) (Delivery.start store) is := by
  intro h
  have hrun := h lobbyWorld lobbyStore
    [.signal lobbySignal 0, .tick firstTick, .connect, .tick secondTick]
    (by decide +kernel) (by decide +kernel)
  have hlost := hrun.2.2.2.1 "lobby" (by decide +kernel) (by decide +kernel) ?_
  · exact absurd hlost (by decide +kernel)
  · refine ⟨by decide +kernel, ⟨lobbyManifest, ?_, lobbyManifest_check 2⟩, by decide +kernel,
      by decide +kernel⟩
    have hstore := run_store lobbyWorld lobbyStore
      [.signal lobbySignal 0, .tick firstTick, .connect, .tick secondTick]
    exact (congrArg (fun store => store.get "lobby") hstore).trans lobbyStore_get

theorem activation_lands_after_connect :
    (delivery lobbyWorld lobbyStore).EachStep (NoLostActivation lobbyWorld)
      (Delivery.start lobbyStore)
      [.signal lobbySignal 0, .connect, .tick firstTick, .tick secondTick] := by
  refine (noLostActivation_iff lobbyWorld lobbyStore _ (by decide +kernel)).2 ?_
  refine ⟨trivial, trivial, ?_, ?_, trivial⟩
  · intro m rationale hd
    have hdecision : Delivery.decision lobbyWorld ((delivery lobbyWorld lobbyStore).run
        (Delivery.start lobbyStore) [.signal lobbySignal 0, .connect]) firstTick =
          .activate "lobby" "policy rule match; presence_count=2 confidence=0.90" := by
      decide +kernel
    obtain ⟨rfl, rfl⟩ := Decision.activate.inj (hdecision.symm.trans hd)
    exact Or.inl ⟨by decide +kernel, ⟨by decide, by decide, by decide +kernel⟩,
      ⟨lobbyManifest, lobbyStore_get, lobbyManifest_check 1⟩, by decide +kernel⟩
  · intro m rationale hd
    have hdecision : Delivery.decision lobbyWorld ((delivery lobbyWorld lobbyStore).run
        (Delivery.start lobbyStore) [.signal lobbySignal 0, .connect, .tick firstTick])
          secondTick = .unchanged "lobby" := by
      decide +kernel
    cases hdecision.symm.trans hd

end AdaptiveAdvertisement.System
