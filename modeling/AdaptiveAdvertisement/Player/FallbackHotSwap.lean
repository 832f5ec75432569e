import AdaptiveAdvertisement.Player.NeverBlank
import AdaptiveAdvertisement.Player.FallbackSelection

/-!
# The hot swap of the fallback asset

The player after startup, in transitions, iterations of `_fallback_refresh_loop`
(`main.py:267-281`) and reloads of the manifest store, one at a time. Between two iterations the
fallback directories may change in any way, and each IPC command of a transition may fail.
-/

namespace AdaptiveAdvertisement.Player
open Library

/-- The commands of a callback, with whether each succeeds; those that are not listed fail. -/
def Rendering.attempt (b : FallbackBundle) : Rendering → List Bool → Screen → Screen
  | _, [], screen => screen
  | r, ok :: sent, screen =>
    let after := if ok then screen.send r.command else screen
    match r.next b ok with
    | some r' => r'.attempt b sent after
    | none => after

theorem Rendering.attempt_succeeds (b : FallbackBundle) (r : Rendering) (screen : Screen) :
    r.attempt b [true, true] screen = r.complete screen := by
  cases r <;> rfl

structure HotSwap where
  display : Display
  store : ManifestStore

inductive HotSwapStep where
  | transition (t : Trigger) (sent : List Bool)
  | refresh (sources : FallbackSources)
  | reload (dir : Option Directory)

namespace HotSwap

/-- An exception of the search is logged, and the iteration is over. -/
def refreshIteration (s : HotSwap) (sources : FallbackSources) : HotSwap :=
  match sources.resolve with
  | .error _ => s
  | .ok found =>
    { s with display := s.display.act s.store (.refresh (found.map fun sel => sel.path.str)) }

def transition (s : HotSwap) (t : Trigger) (sent : List Bool) : HotSwap :=
  { s with display :=
    { s.display with
      sm := (t.fire s.display.sm).1
      screen := match s.display.rendering s.store t with
        | some r => r.attempt s.display.bundle sent s.display.screen
        | none => s.display.screen } }

def step (s : HotSwap) : HotSwapStep → HotSwap
  | .transition t sent => s.transition t sent
  | .refresh sources => s.refreshIteration sources
  | .reload dir => { s with store := (s.store.reload dir).1 }

end HotSwap

def hotSwapping (path : String) (store : ManifestStore) : Machine HotSwap HotSwapStep Unit where
  init := ⟨Display.started path, store⟩
  step := fun s i => (s.step i, ())

/-- The states in which the player shows the fallback asset. -/
def PlayerState.showsFallback (s : PlayerState) : Prop := s = .fallback ∨ s = .safeMode

instance (s : PlayerState) : Decidable s.showsFallback := inferInstanceAs (Decidable (_ ∨ _))

/-! ### The law -/

/-- An iteration that resolves an asset leaves the current one on screen, in the states that show
it. -/
def ShowsSelection (s : HotSwap) : HotSwapStep → Prop
  | .refresh sources => ∀ sel, sources.resolve = .ok (some sel) →
      (s.refreshIteration sources).display.sm.state.showsFallback →
        (s.refreshIteration sources).display.screen.asset =
          (s.refreshIteration sources).display.bundle.assetPath.map Asset.fallback
  | _ => True

/-- The asset that is resolved in these states is the one on screen before. -/
def ResolvesShown (s : HotSwap) : HotSwapStep → Prop
  | .refresh sources => ∀ sel, sources.resolve = .ok (some sel) →
      s.display.sm.state.showsFallback → s.display.screen.asset = some (.fallback sel.path.str)
  | _ => True

section Steps

variable {s : HotSwap} {sources : FallbackSources} {sel : Selection}

theorem transition_succeeds (s : HotSwap) (t : Trigger) :
    (s.transition t [true, true]).display = s.display.act s.store (.transition t) := by
  cases hr : s.display.rendering s.store t with
  | none => simp only [HotSwap.transition, Display.act, hr]
  | some r => simp only [HotSwap.transition, Display.act, hr, Rendering.attempt_succeeds]

/-- An iteration updates the selection, and neither the screen nor the state of the player. -/
theorem refreshIteration_of_resolve (h : sources.resolve = .ok (some sel)) :
    (s.refreshIteration sources).display.sm = s.display.sm ∧
      (s.refreshIteration sources).display.screen = s.display.screen ∧
      (s.refreshIteration sources).display.bundle.assetPath = some sel.path.str := by
  have hscreen := refresh_screen s.store s.display (some sel.path.str)
  simp only [HotSwap.refreshIteration, h, Option.map_some]
  exact ⟨rfl, hscreen, rfl⟩

theorem showsSelection_iff (s : HotSwap) (i : HotSwapStep) :
    ShowsSelection s i ↔ ResolvesShown s i := by
  cases i with
  | transition t sent => exact Iff.rfl
  | reload dir => exact Iff.rfl
  | refresh sources =>
    refine forall₂_congr fun sel hsel => ?_
    obtain ⟨hsm, hscreen, hpath⟩ := refreshIteration_of_resolve (s := s) hsel
    rw [hsm, hscreen, hpath]
    exact Iff.rfl

end Steps

/-- In every run, an iteration leaves the asset that it resolved on screen exactly where that asset
was there already: no changed selection reaches the screen. -/
theorem showsSelection_run_iff (path : String) (store : ManifestStore) (is : List HotSwapStep) :
    (hotSwapping path store).EachStep ShowsSelection (hotSwapping path store).init is ↔
      (hotSwapping path store).EachStep ResolvesShown (hotSwapping path store).init is :=
  Machine.eachStep_congr _ (fun i _ s => showsSelection_iff s i) _

/-! ### A new asset in the library -/

theorem promo_not_shown : ¬ ∀ (path : String) (store : ManifestStore) (is : List HotSwapStep),
    (hotSwapping path store).EachStep ShowsSelection (hotSwapping path store).init is := by
  intro h
  have hrun := h (bundlePath.join builtinName).str ManifestStore.empty
    [.refresh (slateAnd "promo.mp4")]
  have hsel : (slateAnd "promo.mp4").resolve =
      .ok (some ⟨libraryPath.join "promo.mp4", "video", "library-auto"⟩) := by decide +kernel
  have hshown := hrun.1 _ hsel (Or.inl rfl)
  revert hshown
  decide +kernel

end AdaptiveAdvertisement.Player
