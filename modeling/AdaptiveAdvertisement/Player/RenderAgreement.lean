import AdaptiveAdvertisement.Player.RenderOrder
import AdaptiveAdvertisement.Player.StateInvariant

/-!
# The renderer agrees with the state machine

Only the latest callback counts: what it still has to send brings the screen to what the state
machine shows, and once it has sent everything nothing older may undo that.
-/

namespace AdaptiveAdvertisement.Player
open Library

/-! ### What a transition says about the manifest on screen -/

namespace Trigger

variable {sm : StateMachine} (t : Trigger)

theorem fire_wellFormed (h : WellFormed sm) : WellFormed (t.fire sm).1 := by
  cases t with
  | op o => exact StateMachine.step_wellFormed sm o h
  | refused reason => exact h

theorem fire_hold (h : (t.fire sm).2.action = .hold) :
    (t.fire sm).1.activeManifestId = sm.activeManifestId := by
  cases t with
  | op o => exact StateMachine.step_hold h
  | refused reason => rfl

theorem fire_fallback (hwf : WellFormed sm) (h : (t.fire sm).2.action = .showFallback) :
    (t.fire sm).1.activeManifestId = none := by
  cases t with
  | op o =>
    exact (StateMachine.step_wellFormed sm o hwf).active_eq_none
      ((StateMachine.step_law sm o).fallback_state h)
  | refused reason =>
    refine hwf.active_eq_none (Or.inl ?_)
    by_contra hs
    simp [fire, CommandHandler.refuse, hs] at h

theorem fire_play (h : (t.fire sm).2.action = .playManifest) :
    ∃ m, (t.fire sm).2.manifestId = some m ∧ (t.fire sm).1.activeManifestId = some m := by
  cases t with
  | op o =>
    obtain ⟨hsome, hactive⟩ := (StateMachine.step_law sm o).play_names_active h
    obtain ⟨m, hm⟩ := Option.isSome_iff_exists.mp hsome
    exact ⟨m, hm, hactive.symm.trans hm⟩
  | refused reason =>
    have hne : (CommandHandler.refuse sm reason).action ≠ .playManifest := by
      unfold CommandHandler.refuse
      split <;> simp
    exact absurd h hne

end Trigger

/-! ### What the latest callback is after -/

section Laws

variable (store : ManifestStore)

/-- The fallback asset is right for the manifest that the state machine shows. -/
def MayFallBack (gaveUp : Bool) : Option String → Prop
  | none => True
  | some m => (store.get m).bind firstItem = none ∨ gaveUp = true

def IsItem (shown : Option String) (item : Item) : Prop :=
  ∃ m manifest, shown = some m ∧ store.get m = some manifest ∧ firstItem manifest = some item

/-- A callback that stands at this command brings the screen to what the state machine shows. -/
def Toward (s : Stage) : Rendering → Prop
  | .loadFallback _ => MayFallBack store s.gaveUp s.sm.activeManifestId
  | .loopFallback => MayFallBack store s.gaveUp s.sm.activeManifestId ∧ s.loadedBy = s.started ∧
      ∃ path, s.screen.asset = some (.fallback path)
  | .loadItem item => IsItem store s.sm.activeManifestId item
  | .loopItem item => IsItem store s.sm.activeManifestId item ∧ s.loadedBy = s.started ∧
      s.screen.asset = some (.item item.assetId)

/-- The latest callback has sent everything. -/
structure Settled (s : Stage) : Prop where
  fits : Fits store s.gaveUp s.screen s.sm.activeManifestId
  loadedBy_eq : s.loadedBy = s.started
  loopBy_eq : s.loopBy = s.started

structure Coherent (s : Stage) : Prop where
  wellFormed : WellFormed s.sm
  numbered : ∀ n c, s.inFlight.get n = some c → n ≤ s.started
  loadedBy_le : s.loadedBy ≤ s.started
  loopBy_le : s.loopBy ≤ s.started
  latest : ∀ c, s.inFlight.get s.started = some c → Toward store s c.rendering
  settled : s.inFlight.get s.started = none → Settled store s

variable {store} {gaveUp : Bool} {screen : Screen} {shown : Option String}

theorem fits_fallback (h : MayFallBack store gaveUp shown) (hs : ShowsFallback screen) :
    Fits store gaveUp screen shown := by
  cases shown with
  | none => exact hs
  | some m => exact Or.inr ⟨h, hs⟩

theorem fits_item {item : Item} (h : IsItem store shown item)
    (hs : screen = ⟨some (.item item.assetId), item.loop⟩) :
    Fits store gaveUp screen shown := by
  obtain ⟨m, manifest, rfl, hget, hitem⟩ := h
  exact Or.inl ⟨manifest, item, hget, hitem, hs⟩

theorem Asset.isFallback_iff {asset : Asset} :
    asset.isFallback = true ↔ ∃ path, asset = .fallback path := by
  cases asset <;> simp [Asset.isFallback]

/-- The same asset, or a fallback asset in the place of a fallback asset. -/
def Alike (old new : Option Asset) : Prop :=
  new = old ∨ ∃ path path', old = some (.fallback path) ∧ new = some (.fallback path')

theorem fits_alike {screen' : Screen} (h : Fits store gaveUp screen shown)
    (hasset : Alike screen.asset screen'.asset) (hloop : screen'.loopFile = screen.loopFile) :
    Fits store gaveUp screen' shown := by
  obtain ⟨asset', loop'⟩ := screen'
  obtain rfl : loop' = screen.loopFile := hloop
  rcases hasset with rfl | ⟨path, path', hold, rfl⟩
  · exact h
  · have hreload :
        ShowsFallback screen → ShowsFallback ⟨some (.fallback path'), screen.loopFile⟩ := by
      rintro ⟨old, rfl⟩
      exact ⟨path', rfl⟩
    cases shown with
    | none => exact hreload h
    | some m =>
      rcases h with ⟨manifest, item, -, -, rfl⟩ | ⟨hmay, hs⟩
      · cases hold
      · exact Or.inr ⟨hmay, hreload hs⟩

end Laws

/-! ### What a send does -/

namespace Stage

section Send

variable {s : Stage} {n : ℕ} {c : InFlight}

theorem send_frame (s : Stage) (n : ℕ) (ok : Bool) :
    (s.send n ok).sm = s.sm ∧ (s.send n ok).started = s.started := by
  cases h : s.inFlight.get n with
  | none => simp [send, h]
  | some c => cases hc : c.rendering.command <;> cases ok <;> simp [send, h, hc]

theorem send_none (h : s.inFlight.get n = none) (ok : Bool) : s.send n ok = s := by simp [send, h]

theorem send_get (h : s.inFlight.get n = some c) (ok : Bool) (k : ℕ) :
    (s.send n ok).inFlight.get k = if k = n then
      (c.rendering.next s.bundle ok).map fun r => { c with rendering := r }
    else s.inFlight.get k := by
  cases hnext : c.rendering.next s.bundle ok with
  | none =>
    cases hc : c.rendering.command <;> cases ok <;> simp [send, h, hc, hnext, Dict.get_erase]
  | some r =>
    cases hc : c.rendering.command <;> cases ok <;> simp [send, h, hc, hnext, Dict.get_set]

theorem send_loadfile (h : s.inFlight.get n = some c) {asset : Asset}
    (hc : c.rendering.command = .loadfile asset) :
    (s.send n true).screen = s.screen.send (.loadfile asset) ∧
      (s.send n true).loadedBy = max s.loadedBy n ∧ (s.send n true).loopBy = s.loopBy ∧
      (s.send n true).gaveUp = s.gaveUp := by
  simp [send, h, hc]

theorem send_loopFile (h : s.inFlight.get n = some c) {inf : Bool}
    (hc : c.rendering.command = .loopFile inf) :
    (s.send n true).screen = s.screen.send (.loopFile inf) ∧
      (s.send n true).loadedBy = s.loadedBy ∧ (s.send n true).loopBy = max s.loopBy n ∧
      (s.send n true).gaveUp = s.gaveUp := by
  simp [send, h, hc]

theorem send_failed (h : s.inFlight.get n = some c) :
    (s.send n false).screen = s.screen ∧ (s.send n false).loadedBy = s.loadedBy ∧
      (s.send n false).loopBy = s.loopBy ∧
      (s.send n false).gaveUp = (s.gaveUp || (c.rendering.ofItem && decide (n = s.started))) := by
  cases hc : c.rendering.command <;> simp [send, h, hc]

theorem send_counts (s : Stage) (n : ℕ) (ok : Bool) :
    (s.send n ok).loadedBy ≤ max s.loadedBy n ∧ (s.send n ok).loopBy ≤ max s.loopBy n := by
  cases h : s.inFlight.get n with
  | none => simp [send, h]
  | some c => cases hc : c.rendering.command <;> cases ok <;> simp [send, h, hc]

end Send

end Stage

/-! ### The invariant is kept -/

section Steps

variable {store : ManifestStore} {s : Stage}

theorem ready_coherent (path : String) : Coherent store (Stage.ready path) where
  wellFormed := StateMachine.init_wellFormed
  numbered := by simp [Stage.ready]
  loadedBy_le := le_rfl
  loopBy_le := le_rfl
  latest := by simp [Stage.ready]
  settled := fun _ => ⟨⟨path, rfl⟩, rfl, rfl⟩

/-- A transition that holds the screen, and a refresh, leave the callbacks alone. -/
theorem Coherent.keep (h : Coherent store s) {sm : StateMachine} (b : FallbackBundle)
    (hwf : WellFormed sm) (hactive : sm.activeManifestId = s.sm.activeManifestId) :
    Coherent store { s with sm := sm, bundle := b } where
  wellFormed := hwf
  numbered := h.numbered
  loadedBy_le := h.loadedBy_le
  loopBy_le := h.loopBy_le
  latest := fun c hc => by
    have htoward := h.latest c hc
    cases hr : c.rendering <;> simpa [Toward, hr, hactive] using htoward
  settled := fun hnone => by
    obtain ⟨hfits, hloaded, hloop⟩ := h.settled hnone
    exact ⟨by simpa [hactive] using hfits, hloaded, hloop⟩

/-- The first command of a transition goes toward the state that the transition leads to. -/
theorem toward_begin (h : Coherent store s) {t : Trigger} {r : Rendering}
    (hr : s.rendering store t = some r) {s' : Stage} (hsm : s'.sm = (t.fire s.sm).1) :
    Toward store s' r := by
  rcases Rendering.ofTransition_some hr with ⟨path, rfl, hwhy⟩ | ⟨item, rfl, haction, hitem⟩
  · rcases hwhy with haction | ⟨haction, hnone⟩
    · have hactive := t.fire_fallback h.wellFormed haction
      simp [Toward, MayFallBack, hsm, hactive]
    · obtain ⟨m, hm, hactive⟩ := t.fire_play haction
      rw [hm] at hnone
      simp only [Toward, MayFallBack, hsm, hactive]
      exact Or.inl hnone
  · obtain ⟨m, hm, hactive⟩ := t.fire_play haction
    rw [hm] at hitem
    obtain ⟨manifest, hget, hfirst⟩ := Option.bind_eq_some_iff.mp hitem
    exact ⟨m, manifest, by rw [hsm, hactive], hget, hfirst⟩

theorem begin_coherent (h : Coherent store s) (owner : Owner) (t : Trigger)
    (hneed : (t.fire s.sm).2.action ≠ .hold → (s.rendering store t).isSome) :
    Coherent store (s.begin store owner t) := by
  have hwf := t.fire_wellFormed h.wellFormed
  cases hr : s.rendering store t with
  | none =>
    have hhold : (t.fire s.sm).2.action = .hold := by
      by_contra hne
      have hsome := hneed hne
      simp [hr] at hsome
    simp only [Stage.begin, hr]
    exact h.keep s.bundle hwf (t.fire_hold hhold)
  | some r =>
    simp only [Stage.begin, hr]
    refine ⟨hwf, fun n c hc => ?_, ?_, ?_, fun c hc => ?_, fun hnone => ?_⟩
    · simp only [Stage.start, Dict.get_set] at hc ⊢
      split at hc
      · omega
      · exact (h.numbered n c hc).trans (Nat.le_succ _)
    · exact h.loadedBy_le.trans (Nat.le_succ _)
    · exact h.loopBy_le.trans (Nat.le_succ _)
    · simp only [Stage.start, Dict.get_set_self, Option.some.injEq] at hc
      subst hc
      exact toward_begin h hr rfl
    · simp [Stage.start] at hnone

theorem refresh_coherent (h : Coherent store s) (resolved : Option String) :
    Coherent store (s.refresh resolved) := by
  simp only [Stage.refresh, refreshes_never]
  exact h.keep _ h.wellFormed rfl

/-! ### A send of an earlier callback -/

/-- What an earlier callback may change: nothing that the latest one has brought about. -/
structure Spares (s s' : Stage) : Prop where
  sm_eq : s'.sm = s.sm
  started_eq : s'.started = s.started
  gaveUp_eq : s'.gaveUp = s.gaveUp
  latest_eq : s'.inFlight.get s.started = s.inFlight.get s.started
  loaded : s.loadedBy = s.started →
    s'.loadedBy = s.started ∧ Alike s.screen.asset s'.screen.asset
  looped : s.loopBy = s.started → s'.loopBy = s.started ∧ s'.screen.loopFile = s.screen.loopFile

theorem Spares.toward {s' : Stage} (hspare : Spares s s') {r : Rendering} (h : Toward store s r) :
    Toward store s' r := by
  cases r with
  | loadFallback path => simpa [Toward, hspare.sm_eq, hspare.gaveUp_eq] using h
  | loadItem item => simpa [Toward, hspare.sm_eq] using h
  | loopFallback =>
    obtain ⟨hmay, hloaded, path, hpath⟩ := h
    obtain ⟨hloaded', halike⟩ := hspare.loaded hloaded
    refine ⟨by simpa [hspare.sm_eq, hspare.gaveUp_eq] using hmay,
      hloaded'.trans hspare.started_eq.symm, ?_⟩
    rcases halike with hsame | ⟨-, path', -, hnew⟩
    · exact ⟨path, hsame.trans hpath⟩
    · exact ⟨path', hnew⟩
  | loopItem item =>
    obtain ⟨hitem, hloaded, hasset⟩ := h
    obtain ⟨hloaded', halike⟩ := hspare.loaded hloaded
    refine ⟨by simpa [hspare.sm_eq] using hitem, hloaded'.trans hspare.started_eq.symm, ?_⟩
    rcases halike with hsame | ⟨path, -, hold, -⟩
    · exact hsame.trans hasset
    · simp [hasset] at hold

theorem Spares.settled {s' : Stage} (hspare : Spares s s') (h : Settled store s) :
    Settled store s' := by
  obtain ⟨hloaded, halike⟩ := hspare.loaded h.loadedBy_eq
  obtain ⟨hlooped, hloop⟩ := hspare.looped h.loopBy_eq
  refine ⟨?_, hloaded.trans hspare.started_eq.symm, hlooped.trans hspare.started_eq.symm⟩
  rw [hspare.sm_eq, hspare.gaveUp_eq]
  exact fits_alike h.fits halike hloop

theorem send_spares {n : ℕ} {ok : Bool} {c : InFlight} (hc : s.inFlight.get n = some c)
    (hn : n < s.started) (hturn : ok = true → InTurn s n c.rendering.command) :
    Spares s (s.send n ok) := by
  obtain ⟨hsm, hstarted⟩ := Stage.send_frame s n ok
  have hlatest : (s.send n ok).inFlight.get s.started = s.inFlight.get s.started := by
    rw [Stage.send_get hc ok, if_neg hn.ne']
  cases ok with
  | false =>
    obtain ⟨hscreen, hloaded, hloop, hgave⟩ := Stage.send_failed hc
    refine ⟨hsm, hstarted, by simp [hgave, hn.ne], hlatest, fun h => ⟨hloaded.trans h, ?_⟩,
      fun h => ⟨hloop.trans h, by rw [hscreen]⟩⟩
    exact Or.inl (by rw [hscreen])
  | true =>
    have hin := hturn rfl
    cases hcmd : c.rendering.command with
    | loadfile asset =>
      obtain ⟨hscreen, hloaded, hloop, hgave⟩ := Stage.send_loadfile hc hcmd
      refine ⟨hsm, hstarted, hgave, hlatest, fun h => ⟨by omega, ?_⟩,
        fun h => ⟨hloop.trans h, by rw [hscreen]; rfl⟩⟩
      rw [hcmd] at hin
      -- a later callback has loaded its asset, so this one loads nothing else
      rcases hin with hle | hsame | ⟨hfall, hshown⟩
      · omega
      · exact Or.inl (by rw [hscreen, hsame]; rfl)
      · obtain ⟨old, hold, hisold⟩ := (Option.any_eq_true _ _).mp hshown
        obtain ⟨path, rfl⟩ := Asset.isFallback_iff.mp hisold
        obtain ⟨path', rfl⟩ := Asset.isFallback_iff.mp hfall
        exact Or.inr ⟨path, path', hold, by rw [hscreen]; rfl⟩
    | loopFile inf =>
      obtain ⟨hscreen, hloaded, hloop, hgave⟩ := Stage.send_loopFile hc hcmd
      refine ⟨hsm, hstarted, hgave, hlatest, fun h => ⟨hloaded.trans h, ?_⟩,
        fun h => ⟨by omega, ?_⟩⟩
      · exact Or.inl (by rw [hscreen]; rfl)
      · rw [hcmd] at hin
        rcases hin with hle | hsame
        · omega
        · rw [hscreen, hsame]
          rfl

/-! ### A send of the latest callback -/

theorem send_numbered (h : Coherent store s) (n : ℕ) (ok : Bool) :
    ∀ k c, (s.send n ok).inFlight.get k = some c → k ≤ (s.send n ok).started := by
  rw [(Stage.send_frame s n ok).2]
  intro k c hk
  cases hc : s.inFlight.get n with
  | none =>
    rw [Stage.send_none hc] at hk
    exact h.numbered k c hk
  | some c' =>
    rw [Stage.send_get hc ok] at hk
    split at hk
    next hkn => exact hkn ▸ h.numbered n c' hc
    next => exact h.numbered k c hk

/-- After a send of the latest callback that goes on with `r`, or is the last. -/
theorem send_latest (h : Coherent store s) {ok : Bool} {c : InFlight}
    (hc : s.inFlight.get s.started = some c)
    (hnext : ∀ r, c.rendering.next s.bundle ok = some r → Toward store (s.send s.started ok) r)
    (hlast : c.rendering.next s.bundle ok = none → Settled store (s.send s.started ok)) :
    Coherent store (s.send s.started ok) := by
  obtain ⟨hsm, hstarted⟩ := Stage.send_frame s s.started ok
  obtain ⟨hloaded, hloop⟩ := Stage.send_counts s s.started ok
  have hget := Stage.send_get hc ok s.started
  rw [if_pos rfl] at hget
  refine ⟨hsm ▸ h.wellFormed, send_numbered h s.started ok, ?_, ?_, fun c' hc' => ?_,
    fun hnone => hlast ?_⟩
  · have hle := h.loadedBy_le
    omega
  · have hle := h.loopBy_le
    omega
  · rw [hstarted, hget, Option.map_eq_some_iff] at hc'
    obtain ⟨r, hr, rfl⟩ := hc'
    exact hnext r hr
  · rw [hstarted, hget] at hnone
    simpa using hnone

theorem toward_loaded {c : InFlight} {path : String} (h : Coherent store s)
    (hc : s.inFlight.get s.started = some c) (hr : c.rendering = .loadFallback path) :
    Toward store (s.send s.started true) .loopFallback := by
  obtain ⟨hsm, hstarted⟩ := Stage.send_frame s s.started true
  have hcommand : c.rendering.command = .loadfile (.fallback path) := by rw [hr]; rfl
  obtain ⟨hscreen, hloaded, -, hgave⟩ := Stage.send_loadfile hc hcommand
  have hmay := h.latest c hc
  rw [hr] at hmay
  have hle := h.loadedBy_le
  exact ⟨by rw [hsm, hgave]; exact hmay, by omega, path, by rw [hscreen]; rfl⟩

theorem toward_loaded_item {c : InFlight} {item : Item} (h : Coherent store s)
    (hc : s.inFlight.get s.started = some c) (hr : c.rendering = .loadItem item) :
    Toward store (s.send s.started true) (.loopItem item) := by
  obtain ⟨hsm, hstarted⟩ := Stage.send_frame s s.started true
  have hcommand : c.rendering.command = .loadfile (.item item.assetId) := by rw [hr]; rfl
  obtain ⟨hscreen, hloaded, -, -⟩ := Stage.send_loadfile hc hcommand
  have hitem := h.latest c hc
  rw [hr] at hitem
  have hle := h.loadedBy_le
  exact ⟨by rw [hsm]; exact hitem, by omega, by rw [hscreen]; rfl⟩

theorem settled_looped {c : InFlight} (h : Coherent store s)
    (hc : s.inFlight.get s.started = some c) (hr : c.rendering = .loopFallback) :
    Settled store (s.send s.started true) := by
  obtain ⟨hsm, hstarted⟩ := Stage.send_frame s s.started true
  have hcommand : c.rendering.command = .loopFile true := by rw [hr]; rfl
  obtain ⟨hscreen, hloaded, hloop, hgave⟩ := Stage.send_loopFile hc hcommand
  have htoward := h.latest c hc
  rw [hr] at htoward
  obtain ⟨hmay, hloadedBy, path, hpath⟩ := htoward
  have hle := h.loopBy_le
  refine ⟨?_, by omega, by omega⟩
  rw [hsm, hgave, hscreen]
  exact fits_fallback hmay ⟨path, by simp [Screen.send, hpath]⟩

theorem settled_looped_item {c : InFlight} {item : Item} (h : Coherent store s)
    (hc : s.inFlight.get s.started = some c) (hr : c.rendering = .loopItem item) :
    Settled store (s.send s.started true) := by
  obtain ⟨hsm, hstarted⟩ := Stage.send_frame s s.started true
  have hcommand : c.rendering.command = .loopFile item.loop := by rw [hr]; rfl
  obtain ⟨hscreen, hloaded, hloop, hgave⟩ := Stage.send_loopFile hc hcommand
  have htoward := h.latest c hc
  rw [hr] at htoward
  obtain ⟨hitem, hloadedBy, hasset⟩ := htoward
  have hle := h.loopBy_le
  refine ⟨?_, by omega, by omega⟩
  rw [hsm, hgave, hscreen]
  exact fits_item hitem (by simp [Screen.send, hasset])

/-- An item that fails is answered with the fallback asset. -/
theorem toward_gaveUp {c : InFlight} (hc : s.inFlight.get s.started = some c)
    (hitem : c.rendering.ofItem = true) (path : String) :
    Toward store (s.send s.started false) (.loadFallback path) := by
  obtain ⟨-, -, -, hgave⟩ := Stage.send_failed hc
  simp only [Toward, hgave, hitem, decide_true, Bool.and_true, Bool.or_true]
  cases (s.send s.started false).sm.activeManifestId with
  | none => trivial
  | some m => exact Or.inr rfl

theorem send_latest_coherent (h : Coherent store s) {ok : Bool} {c : InFlight}
    (hc : s.inFlight.get s.started = some c)
    (hfail : ok = false → c.rendering.ofItem = true ∧ s.bundle.assetPath.isSome) :
    Coherent store (s.send s.started ok) := by
  cases ok with
  | false =>
    obtain ⟨hitem, hpath⟩ := hfail rfl
    obtain ⟨path, hpath⟩ := Option.isSome_iff_exists.mp hpath
    have hnext : c.rendering.next s.bundle false = some (.loadFallback path) := by
      cases hr : c.rendering with
      | loadFallback path => simp [hr, Rendering.ofItem] at hitem
      | loopFallback => simp [hr, Rendering.ofItem] at hitem
      | loadItem item => simp [Rendering.next, Rendering.showFallback, hpath]
      | loopItem item => simp [Rendering.next, Rendering.showFallback, hpath]
    refine send_latest h hc (fun r hr => ?_) fun hnone => ?_
    · obtain rfl := Option.some.inj (hnext.symm.trans hr)
      exact toward_gaveUp hc hitem path
    · rw [hnext] at hnone
      cases hnone
  | true =>
    refine send_latest h hc (fun r hr => ?_) fun hnone => ?_
    · cases hrendering : c.rendering with
      | loadFallback path =>
        simp only [hrendering, Rendering.next, Option.some.injEq] at hr
        exact hr ▸ toward_loaded h hc hrendering
      | loadItem item =>
        simp only [hrendering, Rendering.next, Option.some.injEq] at hr
        exact hr ▸ toward_loaded_item h hc hrendering
      | loopFallback => simp [hrendering, Rendering.next] at hr
      | loopItem item => simp [hrendering, Rendering.next] at hr
    · cases hrendering : c.rendering with
      | loadFallback path => simp [hrendering, Rendering.next] at hnone
      | loadItem item => simp [hrendering, Rendering.next] at hnone
      | loopFallback => exact settled_looped h hc hrendering
      | loopItem item => exact settled_looped_item h hc hrendering

theorem send_coherent (h : Coherent store s) {n : ℕ} {ok : Bool}
    (hsend : Orderly store s (.send n ok)) : Coherent store (s.send n ok) := by
  cases hc : s.inFlight.get n with
  | none =>
    rw [Stage.send_none hc]
    exact h
  | some c =>
    obtain ⟨hturn, hfail⟩ := hsend c hc
    rcases (h.numbered n c hc).lt_or_eq with hn | rfl
    · have hspare := send_spares hc hn hturn
      obtain ⟨hloaded, hloop⟩ := Stage.send_counts s n ok
      have hloadedBy := h.loadedBy_le
      have hloopBy := h.loopBy_le
      have hstarted := hspare.started_eq
      refine ⟨hspare.sm_eq ▸ h.wellFormed, send_numbered h n ok, by omega, by omega,
        fun c' hc' => ?_, fun hnone => ?_⟩
      · rw [hstarted, hspare.latest_eq] at hc'
        exact hspare.toward (h.latest c' hc')
      · rw [hstarted, hspare.latest_eq] at hnone
        exact hspare.settled (h.settled hnone)
    · exact send_latest_coherent h hc hfail

theorem step_coherent (h : Coherent store s) {i : StageStep} (hi : Orderly store s i) :
    Coherent store (s.step store i) := by
  cases i with
  | command t =>
    by_cases hbusy : s.commandLoopBusy = true
    · simpa [Stage.step, hbusy] using h
    · simpa [Stage.step, hbusy] using begin_coherent h .commandLoop t (hi (by simpa using hbusy))
  | engage reason now => exact begin_coherent h .request _ fun _ => hi
  | clear => exact begin_coherent h .request _ hi
  | refresh resolved => exact refresh_coherent h resolved
  | send n ok => exact send_coherent h hi

theorem Coherent.agrees (h : Coherent store s) : RendererAgrees store s := by
  intro hidle
  have hnone : s.inFlight.get s.started = none := by simp [Dict.get_eq_none_iff, hidle]
  have hfits := (h.settled hnone).fits
  refine ⟨fun hs => ?_, fun hs => ?_⟩
  · rw [h.wellFormed.active_eq_none hs] at hfits
    exact hfits
  · obtain ⟨m, hm⟩ := Option.isSome_iff_exists.mp (h.wellFormed.active_iff.mpr hs)
    rw [hm] at hfits
    exact ⟨m, hm, hfits⟩

end Steps

/-! ### Runs -/

theorem rendererAgrees_run {store : ManifestStore} {path : String} {is : List StageStep}
    (h : (staging store path).EachStep (Orderly store) (staging store path).init is) :
    RendererAgrees store ((staging store path).run (staging store path).init is) :=
  (Machine.run_inv_under (M := staging store path) (I := Coherent store)
    (fun _ _ hs hi => step_coherent hs hi) (ready_coherent path) h).agrees

/-- Safe mode is engaged between the commands of an activation, and its own commands come last. -/
def engagedInTurn : List StageStep :=
  [.command (.op (.activateCreative "poster" 0 0 none (.at 0))), .send 1 true,
    .engage (some "operator_manual") 1, .send 1 true, .send 2 true, .send 2 true]

theorem engagedInTurn_agrees : RendererAgrees posterStore
    ((staging posterStore "default.png").run (staging posterStore "default.png").init
      engagedInTurn) :=
  rendererAgrees_run ⟨by decide +kernel, by decide +kernel, by decide +kernel, by decide +kernel,
    by decide +kernel, by decide +kernel, trivial⟩

/-! ### A creative over safe mode -/

/-- The same commands, of which those of the activation come last. -/
def engagedFirst : List StageStep :=
  [.command (.op (.activateCreative "poster" 0 0 none (.at 0))),
    .engage (some "operator_manual") 1, .send 2 true, .send 2 true, .send 1 true, .send 1 true]

theorem creative_over_safeMode : ¬ ∀ (store : ManifestStore) (path : String)
    (is : List StageStep),
    RendererAgrees store ((staging store path).run (staging store path).init is) := by
  intro h
  have hrun := h posterStore "default.png" engagedFirst
  have hidle : ((staging posterStore "default.png").run (staging posterStore "default.png").init
      engagedFirst).inFlight.keys = [] := by decide +kernel
  have hsafe : ((staging posterStore "default.png").run (staging posterStore "default.png").init
      engagedFirst).sm.state = .safeMode := by decide +kernel
  obtain ⟨path, hpath⟩ := (hrun hidle).1 (Or.inr hsafe)
  have hscreen : ((staging posterStore "default.png").run
      (staging posterStore "default.png").init engagedFirst).screen =
        ⟨some (.item "a-1"), false⟩ := by decide +kernel
  rw [hscreen] at hpath
  cases hpath

end AdaptiveAdvertisement.Player
