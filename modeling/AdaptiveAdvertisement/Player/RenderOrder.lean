import AdaptiveAdvertisement.Player.Renderer

/-!
# Callbacks that interleave (`player/main.py`, `player/health.py`)

A transition starts a callback, which sends its commands one await after the other, without a
lock. The command loop runs one callback at a time; each request to the control endpoint and the
refresh loop run their own. Callbacks are numbered in the order of the transitions.
-/

namespace AdaptiveAdvertisement.Player
open Library

inductive Owner where
  | commandLoop
  | request
  | refreshLoop
  deriving DecidableEq

structure InFlight where
  owner : Owner
  rendering : Rendering

/-- `started` counts the callbacks, `loadedBy` and `loopBy` name the latest of them that has sent
a `loadfile` or a `loop-file`, and `gaveUp` tells that the item of the last one was not rendered. -/
structure Stage where
  sm : StateMachine := StateMachine.init
  bundle : FallbackBundle
  screen : Screen
  inFlight : Dict ℕ InFlight := Dict.empty
  started : ℕ := 0
  loadedBy : ℕ := 0
  loopBy : ℕ := 0
  gaveUp : Bool := false

inductive StageStep where
  | command (t : Trigger)
  | engage (reason : Option String) (now : ℚ)
  | clear
  | refresh (resolved : Option String)
  | send (n : ℕ) (ok : Bool)

namespace Stage

variable (store : ManifestStore)

def start (s : Stage) (owner : Owner) (r : Rendering) : Stage :=
  { s with
    inFlight := s.inFlight.set (s.started + 1) ⟨owner, r⟩
    started := s.started + 1
    gaveUp := false }

def rendering (s : Stage) (t : Trigger) : Option Rendering :=
  Rendering.ofTransition store s.bundle (t.fire s.sm).2

/-- The state machine is called, and the callback of the transition starts with that. -/
def begin (s : Stage) (owner : Owner) (t : Trigger) : Stage :=
  match s.rendering store t with
  | some r => { s.start owner r with sm := (t.fire s.sm).1 }
  | none => { s with sm := (t.fire s.sm).1 }

def commandLoopBusy (s : Stage) : Bool :=
  s.inFlight.entries.any fun e => decide (e.2.owner = .commandLoop)

def refresh (s : Stage) (resolved : Option String) : Stage :=
  let r := s.bundle.refresh resolved
  let s' := { s with bundle := r.1 }
  if refreshes s.sm r.2 then
    match Rendering.showFallback r.1 with
    | some shown => s'.start .refreshLoop shown
    | none => s'
  else s'

/-- The callback `n` sends its next command. -/
def send (s : Stage) (n : ℕ) (ok : Bool) : Stage :=
  match s.inFlight.get n with
  | none => s
  | some c =>
    let inFlight := match c.rendering.next s.bundle ok with
      | some r => s.inFlight.set n { c with rendering := r }
      | none => s.inFlight.erase n
    match c.rendering.command, ok with
    | .loadfile asset, true =>
      { s with
        inFlight := inFlight
        screen := s.screen.send (.loadfile asset)
        loadedBy := max s.loadedBy n }
    | .loopFile inf, true =>
      { s with
        inFlight := inFlight
        screen := s.screen.send (.loopFile inf)
        loopBy := max s.loopBy n }
    | _, false =>
      { s with
        inFlight := inFlight
        gaveUp := s.gaveUp || (c.rendering.ofItem && decide (n = s.started)) }

def step (s : Stage) : StageStep → Stage
  | .command t => if s.commandLoopBusy then s else s.begin store .commandLoop t
  | .engage reason now => s.begin store .request (.op (.safeMode reason now))
  | .clear => s.begin store .request (.op .clearSafeMode)
  | .refresh resolved => s.refresh resolved
  | .send n ok => s.send n ok

def ready (path : String) : Stage where
  bundle := ⟨some path⟩
  screen := (Rendering.loadFallback path).complete {}

end Stage

def staging (store : ManifestStore) (path : String) : Machine Stage StageStep Unit where
  init := Stage.ready path
  step := fun s i => (s.step store i, ())

/-! ### The law -/

def ShowsFallback (screen : Screen) : Prop :=
  ∃ path, screen = ⟨some (.fallback path), true⟩

/-- What is on screen where the state machine shows `m`, or nothing. -/
def Fits (store : ManifestStore) (gaveUp : Bool) (screen : Screen) : Option String → Prop
  | none => ShowsFallback screen
  | some m =>
    (∃ manifest item, store.get m = some manifest ∧ firstItem manifest = some item ∧
      screen = ⟨some (.item item.assetId), item.loop⟩) ∨
    ((store.get m).bind firstItem = none ∨ gaveUp = true) ∧ ShowsFallback screen

/-- With no callback in flight the screen agrees with the state machine. -/
def RendererAgrees (store : ManifestStore) (s : Stage) : Prop :=
  s.inFlight.keys = [] →
    (s.sm.state = .fallback ∨ s.sm.state = .safeMode → ShowsFallback s.screen) ∧
    (s.sm.state = .active ∨ s.sm.state = .frozen →
      ∃ m, s.sm.activeManifestId = some m ∧ Fits store s.gaveUp s.screen (some m))

/-- The callback does not send over a different command of a later one. -/
def InTurn (s : Stage) (n : ℕ) : Ipc → Prop
  | .loadfile asset => s.loadedBy ≤ n ∨
    s.screen.asset = some asset ∨
      asset.isFallback = true ∧ s.screen.asset.any Asset.isFallback = true
  | .loopFile inf => s.loopBy ≤ n ∨ s.screen.loopFile = inf

/-- Sends come in turn, and a fallback asset that is needed is there and can be shown. -/
def Orderly (store : ManifestStore) (s : Stage) : StageStep → Prop
  | .command t => s.commandLoopBusy = false → (t.fire s.sm).2.action ≠ .hold →
    (s.rendering store t).isSome
  | .engage reason now => (s.rendering store (.op (.safeMode reason now))).isSome
  | .clear => (s.sm.onClearSafeMode).2.action ≠ .hold →
    (s.rendering store (.op .clearSafeMode)).isSome
  | .refresh _ => True
  | .send n ok => ∀ c, s.inFlight.get n = some c →
    (ok = true → InTurn s n c.rendering.command) ∧
    (ok = false → c.rendering.ofItem = true ∧ s.bundle.assetPath.isSome)

instance (s : Stage) (n : ℕ) (command : Ipc) : Decidable (InTurn s n command) :=
  match command with
  | .loadfile _ => inferInstanceAs (Decidable (_ ∨ _ ∨ _ ∧ _))
  | .loopFile _ => inferInstanceAs (Decidable (_ ∨ _))

instance (store : ManifestStore) (s : Stage) (i : StageStep) : Decidable (Orderly store s i) :=
  match i with
  | .command _ => inferInstanceAs (Decidable (_ → _ → _))
  | .engage _ _ => inferInstanceAs (Decidable (_ = true))
  | .clear => inferInstanceAs (Decidable (_ → _))
  | .refresh _ => inferInstanceAs (Decidable True)
  | .send n ok => inferInstanceAs (Decidable (∀ c ∈ s.inFlight.get n,
      (ok = true → InTurn s n c.rendering.command) ∧
        (ok = false → c.rendering.ofItem = true ∧ s.bundle.assetPath.isSome)))

end AdaptiveAdvertisement.Player
