import AdaptiveAdvertisement.Player.CommandHandler

/-!
# What the player renders (`player/main.py`, `player/renderer.py`, `player/fallback.py`)

A transition is rendered by commands sent to the media player over its IPC socket, each an
awaited step that succeeds or raises `RendererError`.

Source lines: `main.py` `_execute_transition` 48-112, `_fallback_refresh_loop` 267-281;
`renderer.py` `show_fallback` 189-192, `play_manifest_item` 194-211, `_ipc` 232-243;
`fallback.py` `refresh` 126-150, `asset_path` 190-194. The search of the fallback directories
(`_resolve`) is an outcome of the environment: a path, or nothing.
-/

namespace AdaptiveAdvertisement.Player
open Library Contracts

/-- A file that the media player loads: a fallback asset, or a cached asset by its id. -/
inductive Asset where
  | fallback (path : String)
  | item (assetId : String)
  deriving DecidableEq

def Asset.isFallback : Asset → Bool
  | .fallback _ => true
  | .item _ => false

structure Item where
  assetId : String
  assetType : String
  durationMs : ℤ
  loop : Bool
  deriving DecidableEq

def itemOf (item : Json) : Item where
  assetId := ((item.get? "asset_id").bind Json.asStr?).getD ""
  assetType := ((item.get? "asset_type").bind Json.asStr?).getD ""
  durationMs := ((item.get? "duration_ms").bind Json.asInt?).getD 0
  loop := ((item.get? "loop").bind Json.asBool?).getD false

def firstItem (manifest : Json) : Option Item :=
  match manifest.get? "items" with
  | some (.arr (item :: _)) => some (itemOf item)
  | _ => none

/-! ### The media player -/

inductive Ipc where
  | loadfile (asset : Asset)
  | loopFile (inf : Bool)
  deriving DecidableEq

/-- The file on screen, none for an empty window, and the `loop-file` property. -/
structure Screen where
  asset : Option Asset := none
  loopFile : Bool := true
  deriving DecidableEq

def Screen.send (s : Screen) : Ipc → Screen
  | .loadfile asset => { s with asset := some asset }
  | .loopFile inf => { s with loopFile := inf }

/-- A file that does not loop leaves an empty window when it ends. -/
def Screen.fileEnds (s : Screen) : Screen := if s.loopFile then s else { s with asset := none }

/-! ### The fallback bundle -/

structure FallbackBundle where
  assetPath : Option String

/-- `refresh`, of which `resolved` is what the selection comes to. -/
def FallbackBundle.refresh (b : FallbackBundle) (resolved : Option String) :
    FallbackBundle × Bool := (⟨resolved⟩, decide (resolved ≠ b.assetPath))

def PlayerState.value : PlayerState → String
  | .fallback => "fallback"
  | .active => "active"
  | .frozen => "frozen"
  | .safeMode => "safe_mode"

/-! ### Rendering a transition -/

/-- Where a callback stands: the command that it sends next. -/
inductive Rendering where
  | loadFallback (path : String)
  | loopFallback
  | loadItem (item : Item)
  | loopItem (item : Item)
  deriving DecidableEq

namespace Rendering

def command : Rendering → Ipc
  | .loadFallback path => .loadfile (.fallback path)
  | .loopFallback => .loopFile true
  | .loadItem item => .loadfile (.item item.assetId)
  | .loopItem item => .loopFile item.loop

def ofItem : Rendering → Bool
  | .loadItem _ => true
  | .loopItem _ => true
  | _ => false

/-- `show_fallback(fallback.asset_path)`; without a path the property raises. -/
def showFallback (b : FallbackBundle) : Option Rendering := b.assetPath.map .loadFallback

/-- Where the callback stands after its command: a `RendererError` of an item is answered with
the fallback asset, one of the fallback asset leaves the callback. -/
def next (b : FallbackBundle) : Rendering → Bool → Option Rendering
  | .loadFallback _, true => some .loopFallback
  | .loadItem item, true => some (.loopItem item)
  | .loadItem _, false => showFallback b
  | .loopItem _, false => showFallback b
  | _, _ => none

/-- The beginning of `_execute_transition`, up to its first command. -/
def ofTransition (store : ManifestStore) (b : FallbackBundle) (r : TransitionResult) :
    Option Rendering :=
  match r.action with
  | .showFallback => showFallback b
  | .playManifest =>
    match (r.manifestId.bind store.get).bind firstItem with
    | none => showFallback b
    | some item => some (.loadItem item)
  | .hold => none

/-- All of it, where every command succeeds. -/
def complete : Rendering → Screen → Screen
  | .loadFallback path, s => (s.send (.loadfile (.fallback path))).send (.loopFile true)
  | .loopFallback, s => s.send (.loopFile true)
  | .loadItem item, s => (s.send (.loadfile (.item item.assetId))).send (.loopFile item.loop)
  | .loopItem item, s => s.send (.loopFile item.loop)

theorem showFallback_some {b : FallbackBundle} {r : Rendering} (h : showFallback b = some r) :
    ∃ path, r = .loadFallback path := by
  obtain ⟨path, -, hr⟩ := Option.map_eq_some_iff.mp h
  exact ⟨path, hr.symm⟩

/-- A callback begins with a fallback asset, or with the first item of the manifest. -/
theorem ofTransition_some {store : ManifestStore} {b : FallbackBundle} {t : TransitionResult}
    {r : Rendering} (h : ofTransition store b t = some r) :
    (∃ path, r = .loadFallback path ∧ (t.action = .showFallback ∨ t.action = .playManifest ∧
      (t.manifestId.bind store.get).bind firstItem = none)) ∨
    ∃ item, r = .loadItem item ∧ t.action = .playManifest ∧
      (t.manifestId.bind store.get).bind firstItem = some item := by
  unfold ofTransition at h
  cases ha : t.action with
  | hold => simp [ha] at h
  | showFallback =>
    simp only [ha] at h
    obtain ⟨path, hr⟩ := showFallback_some h
    exact Or.inl ⟨path, hr, Or.inl rfl⟩
  | playManifest =>
    cases hitem : (t.manifestId.bind store.get).bind firstItem with
    | none =>
      simp only [ha, hitem] at h
      obtain ⟨path, hr⟩ := showFallback_some h
      exact Or.inl ⟨path, hr, Or.inr ⟨rfl, rfl⟩⟩
    | some item =>
      simp only [ha, hitem, Option.some.injEq] at h
      exact Or.inr ⟨item, h.symm, rfl, rfl⟩

end Rendering

/-! ### Stored manifests have a first item -/

theorem firstItem_stored {store : ManifestStore} {m : String} {manifest : Json}
    (h : store.get m = some manifest) : ∃ item, firstItem manifest = some item := by
  obtain ⟨items, hitems, hvalid⟩ := Schema.object_required (ManifestStore.get_valid h).1
    (k := "items") (s := Schema.array manifestItem 1) (by simp) (by simp)
  cases items with
  | arr xs =>
    cases xs with
    | nil => simp [Schema.array] at hvalid
    | cons item rest => exact ⟨itemOf item, by simp [firstItem, hitems]⟩
  | null => simp [Schema.array] at hvalid
  | bool b => simp [Schema.array] at hvalid
  | num q => simp [Schema.array] at hvalid
  | nonfinite x => simp [Schema.array] at hvalid
  | str s => simp [Schema.array] at hvalid
  | obj ms => simp [Schema.array] at hvalid

/-- A manifest whose only item leaves `loop` to its default. -/
def posterManifest : Json :=
  .obj [("schema_version", .str "1.0.0"), ("manifest_id", .str "poster"),
    ("approved_at", .str "2026-01-01T00:00:00Z"), ("approved_by", .str "ops"),
    ("items", .arr [.obj [("item_id", .str "i-1"), ("asset_id", .str "a-1"),
      ("asset_type", .str "image"), ("duration_ms", .int 5000)]])]

def posterStore : ManifestStore := (ManifestStore.empty.put posterManifest).1

/-! ### What makes a transition -/

/-- A call of the state machine, or an activation that the store refuses (`refuse`). -/
inductive Trigger where
  | op (o : Op)
  | refused (reason : String)

def Trigger.fire (sm : StateMachine) : Trigger → StateMachine × TransitionResult
  | .op o => sm.step o
  | .refused reason => (sm, CommandHandler.refuse sm reason)

/-- `_fallback_refresh_loop` shows a changed asset in a state whose value is one of these two
names. The values of `PlayerState` are in lower case. -/
def refreshes (sm : StateMachine) (changed : Bool) : Bool :=
  changed && decide (sm.state.value ∈ ["FALLBACK", "SAFE_MODE"])

theorem refreshes_never (sm : StateMachine) (changed : Bool) : refreshes sm changed = false := by
  cases h : sm.state <;> simp [refreshes, PlayerState.value, h]

end AdaptiveAdvertisement.Player
