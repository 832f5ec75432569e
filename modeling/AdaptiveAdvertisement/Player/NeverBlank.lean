import AdaptiveAdvertisement.Player.Renderer

/-!
# Never blank

The player after startup, with every IPC command succeeding: transitions, refreshes of the
fallback selection, and the end of the file on screen at any time. Nothing in the player reacts
to that end.
-/

namespace AdaptiveAdvertisement.Player
open Library

structure Display where
  sm : StateMachine := StateMachine.init
  bundle : FallbackBundle
  screen : Screen

inductive Act where
  | transition (t : Trigger)
  | refresh (resolved : Option String)

inductive DisplayStep where
  | act (a : Act)
  | fileEnds

def DisplayStep.act? : DisplayStep → Option Act
  | .act a => some a
  | .fileEnds => none

namespace Display

variable (store : ManifestStore)

/-- What the callback of a transition renders. -/
def rendering (s : Display) (t : Trigger) : Option Rendering :=
  Rendering.ofTransition store s.bundle (t.fire s.sm).2

def act (s : Display) : Act → Display
  | .transition t =>
    { s with
      sm := (t.fire s.sm).1
      screen := match s.rendering store t with
        | some r => r.complete s.screen
        | none => s.screen }
  | .refresh resolved =>
    let r := s.bundle.refresh resolved
    { s with
      bundle := r.1
      screen := match Rendering.showFallback r.1 with
        | some shown => if refreshes s.sm r.2 then shown.complete s.screen else s.screen
        | none => s.screen }

def step (s : Display) : DisplayStep → Display
  | .act a => s.act store a
  | .fileEnds => { s with screen := s.screen.fileEnds }

/-- After startup the fallback asset is on screen (`main.py` 143-145). -/
def started (path : String) : Display where
  bundle := ⟨some path⟩
  screen := (Rendering.loadFallback path).complete {}

end Display

def displaying (store : ManifestStore) (path : String) : Machine Display DisplayStep Unit where
  init := Display.started path
  step := fun s i => (s.step store i, ())

/-! ### The law -/

def NotBlank (store : ManifestStore) (s : Display) (i : DisplayStep) : Prop :=
  (s.step store i).screen.asset.isSome

instance (store : ManifestStore) (s : Display) (i : DisplayStep) : Decidable (NotBlank store s i) :=
  inferInstanceAs (Decidable (_ = true))

/-- An item that a transition puts on screen loops. -/
def PlaysLooping (store : ManifestStore) (s : Display) : DisplayStep → Prop
  | .act (.transition t) =>
    ∀ item, s.rendering store t = some (.loadItem item) → item.loop = true
  | _ => True

section Steps

variable {store : ManifestStore} {s s' : Display}

/-- There is a file on screen that does not end. -/
structure Lasting (s : Display) : Prop where
  shown : s.screen.asset.isSome
  loops : s.screen.loopFile = true

theorem refresh_screen (store : ManifestStore) (s : Display) (resolved : Option String) :
    (s.act store (.refresh resolved)).screen = s.screen := by
  simp only [Display.act, refreshes_never]
  cases Rendering.showFallback (s.bundle.refresh resolved).1 with
  | none => rfl
  | some shown => rfl

theorem lasting_step (h : Lasting s) {i : DisplayStep} (hloop : PlaysLooping store s i) :
    Lasting (s.step store i) := by
  cases i with
  | fileEnds =>
    have hscreen : (s.step store .fileEnds).screen = s.screen := if_pos h.loops
    exact ⟨by rw [hscreen]; exact h.shown, by rw [hscreen]; exact h.loops⟩
  | act a =>
    cases a with
    | refresh resolved =>
      have hscreen := refresh_screen store s resolved
      exact ⟨hscreen ▸ h.shown, hscreen ▸ h.loops⟩
    | transition t =>
      cases hr : s.rendering store t with
      | none =>
        have hscreen : (s.step store (.act (.transition t))).screen = s.screen := by
          simp [Display.step, Display.act, hr]
        exact ⟨hscreen ▸ h.shown, hscreen ▸ h.loops⟩
      | some r =>
        have hscreen : (s.step store (.act (.transition t))).screen = r.complete s.screen := by
          simp [Display.step, Display.act, hr]
        rcases Rendering.ofTransition_some hr with ⟨path, rfl, -⟩ | ⟨item, rfl, -⟩
        · exact ⟨by rw [hscreen]; rfl, by rw [hscreen]; rfl⟩
        · exact ⟨by rw [hscreen]; rfl, by rw [hscreen]; exact hloop item hr⟩

/-- What a transition renders does not depend on the screen. -/
theorem playsLooping_congr (hsm : s'.sm = s.sm) (hbundle : s'.bundle = s.bundle)
    (i : DisplayStep) : PlaysLooping store s' i ↔ PlaysLooping store s i := by
  cases i with
  | fileEnds => exact Iff.rfl
  | act a =>
    cases a with
    | refresh resolved => exact Iff.rfl
    | transition t => simp only [PlaysLooping, Display.rendering, hsm, hbundle]

theorem act_congr (store : ManifestStore) (hsm : s'.sm = s.sm) (hbundle : s'.bundle = s.bundle)
    (a : Act) : (s'.act store a).sm = (s.act store a).sm ∧
      (s'.act store a).bundle = (s.act store a).bundle := by
  cases a with
  | transition t => exact ⟨by simp [Display.act, hsm], hbundle⟩
  | refresh resolved => exact ⟨hsm, by simp [Display.act, FallbackBundle.refresh]⟩

end Steps

/-! ### Runs -/

theorem filterMap_acts (acts : List Act) :
    (acts.map DisplayStep.act).filterMap DisplayStep.act? = acts := by
  rw [List.filterMap_map]
  exact List.filterMap_some

section Runs

variable (store : ManifestStore) (path : String)

theorem notBlank_of_looping {acts : List Act} {is : List DisplayStep}
    (his : is.filterMap DisplayStep.act? = acts) {s s' : Display} (hsm : s'.sm = s.sm)
    (hbundle : s'.bundle = s.bundle) (hlasting : Lasting s')
    (h : (displaying store path).EachStep (PlaysLooping store) s (acts.map .act)) :
    (displaying store path).EachStep (NotBlank store) s' is := by
  induction is generalizing acts s s' with
  | nil => trivial
  | cons i is ih =>
    cases i with
    | fileEnds =>
      have hnext : Lasting (s'.step store .fileEnds) := lasting_step hlasting trivial
      exact ⟨hnext.shown, ih his hsm hbundle hnext h⟩
    | act a =>
      rw [List.filterMap_cons_some (rfl : DisplayStep.act? (.act a) = some a)] at his
      subst his
      obtain ⟨hhead, hrest⟩ := h
      have hnext : Lasting (s'.step store (.act a)) :=
        lasting_step hlasting ((playsLooping_congr hsm hbundle (.act a)).mpr hhead)
      obtain ⟨hsm', hbundle'⟩ := act_congr store hsm hbundle a
      exact ⟨hnext.shown, ih rfl hsm' hbundle' hnext hrest⟩

theorem looping_of_notBlank {acts : List Act} {s : Display}
    (h : ∀ is, is.filterMap DisplayStep.act? = acts →
      (displaying store path).EachStep (NotBlank store) s is) :
    (displaying store path).EachStep (PlaysLooping store) s (acts.map .act) := by
  induction acts generalizing s with
  | nil => trivial
  | cons a acts ih =>
    refine ⟨?_, ih fun is his => ?_⟩
    · cases a with
      | refresh resolved => trivial
      | transition t =>
        intro item hr
        have hacts : (DisplayStep.act (.transition t) :: .fileEnds :: acts.map .act).filterMap
            DisplayStep.act? = .transition t :: acts := by
          rw [List.filterMap_cons_some (rfl : DisplayStep.act? (.act (.transition t)) = _),
            List.filterMap_cons_none (rfl : DisplayStep.act? .fileEnds = none), filterMap_acts]
        have hrun := h _ hacts
        have hblank := hrun.2.1
        have hscreen : (s.step store (.act (.transition t))).screen =
            (Rendering.loadItem item).complete s.screen := by
          simp [Display.step, Display.act, hr]
        by_contra hloop
        have hends : ((s.step store (.act (.transition t))).step store .fileEnds).screen.asset =
            none := by
          change (s.step store (.act (.transition t))).screen.fileEnds.asset = none
          rw [hscreen]
          simp [Screen.fileEnds, Rendering.complete, Screen.send, hloop]
        have hsome :
            ((s.step store (.act (.transition t))).step store .fileEnds).screen.asset.isSome :=
          hblank
        rw [hends] at hsome
        cases hsome
    · have hrun := h (.act a :: is) (by
        rw [List.filterMap_cons_some (rfl : DisplayStep.act? (.act a) = some a), his])
      exact hrun.2

/-- Whatever the times at which files end, the screen is never blank exactly when every item that
is put on it loops. -/
theorem neverBlank_iff (acts : List Act) :
    (∀ is, is.filterMap DisplayStep.act? = acts →
      (displaying store path).EachStep (NotBlank store) (displaying store path).init is) ↔
    (displaying store path).EachStep (PlaysLooping store) (displaying store path).init
      (acts.map .act) :=
  ⟨looping_of_notBlank store path, fun h _ his => notBlank_of_looping store path his rfl rfl
    ⟨rfl, rfl⟩ h⟩

end Runs

/-! ### An item that ends -/

theorem blank_after_item :
    ¬ ∀ (store : ManifestStore) (path : String) (is : List DisplayStep),
      (displaying store path).EachStep (NotBlank store) (displaying store path).init is := by
  intro h
  have hrun := h posterStore "fallback-builtin.png"
    [.act (.transition (.op (.activateCreative "poster" 0 0 none (.at 0)))), .fileEnds]
  exact absurd hrun.2.1 (by decide +kernel)

end AdaptiveAdvertisement.Player
