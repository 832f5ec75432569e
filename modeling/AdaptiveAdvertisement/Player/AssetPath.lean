import AdaptiveAdvertisement.Player.Renderer
import AdaptiveAdvertisement.Library.LexicalPath

/-!
# Where the asset of a manifest lies (`player/main.py`)

`_execute_transition` joins the asset id of the first item to the cache directory (line 90). The
schema asks of an asset id only that it has 1 to 128 characters, so it may be an absolute path or
climb out of the directory; the fallback marker, read a directory away, is checked for that.
-/

namespace AdaptiveAdvertisement.Player
open Library Contracts

/-- `str(Path(config.ASSET_CACHE_PATH) / item["asset_id"])`, where an item is played. -/
def handedPath (cache : Path) (store : ManifestStore) (b : FallbackBundle) (r : TransitionResult) :
    Option Path :=
  match Rendering.ofTransition store b r with
  | some (.loadItem item) => some (cache.join item.assetId)
  | _ => none

def Confined (cache : Path) (store : ManifestStore) (b : FallbackBundle) (r : TransitionResult) :
    Prop :=
  ∀ p, handedPath cache store b r = some p → p.Inside cache

section Activation

variable {τ : Type} {rt : Runtime τ} {h : CommandHandler} {m : String}
  {minDwellMs cooldownMs : ℤ}
  {rationale : Option String} {t : FrameClock} {sm : StateMachine} {result : TransitionResult}
  {event : Option PlayEvent}

theorem activated_item
    (hactivate : h.activateManifest rt m minDwellMs cooldownMs rationale t =
      .ok (sm, result, event))
    (haccepted : result.accepted = true) :
    ∃ item, (h.store.get m).bind firstItem = some item ∧ result.action = .playManifest ∧
      result.manifestId = some m := by
  unfold CommandHandler.activateManifest at hactivate
  split at hactivate
  · cases hactivate
    cases haccepted
  next manifest hget =>
    obtain ⟨item, hitem⟩ := firstItem_stored hget
    split at hactivate
    · cases hactivate
    · cases hactivate
      cases haccepted
    · cases hactivate
      have haccepts := (StateMachine.onActivateCreative_accepted_iff h.sm m minDwellMs cooldownMs
        rationale t.monotonic).mp haccepted
      rw [StateMachine.onActivateCreative_accepted h.sm m minDwellMs cooldownMs rationale
        t.monotonic haccepts]
      exact ⟨item, by rw [hget, Option.bind_some, hitem], rfl, rfl⟩

theorem handedPath_activated
    (hactivate : h.activateManifest rt m minDwellMs cooldownMs rationale t =
      .ok (sm, result, event))
    (haccepted : result.accepted = true) (cache : Path) (b : FallbackBundle) :
    ∃ item, (h.store.get m).bind firstItem = some item ∧
      handedPath cache h.store b result = some (cache.join item.assetId) := by
  obtain ⟨item, hfirst, haction, hid⟩ := activated_item hactivate haccepted
  have hplayed : (result.manifestId.bind h.store.get).bind firstItem = some item := by
    rw [hid, Option.bind_some, hfirst]
  exact ⟨item, hfirst, by simp only [handedPath, Rendering.ofTransition, haction, hplayed]⟩

/-- What an accepted activation plays lies inside the cache directory exactly where the asset id
of the manifest's first item keeps it there. -/
theorem confined_iff
    (hactivate : h.activateManifest rt m minDwellMs cooldownMs rationale t =
      .ok (sm, result, event))
    (haccepted : result.accepted = true) (cache : Path) (b : FallbackBundle) :
    ∃ item, (h.store.get m).bind firstItem = some item ∧
      (Confined cache h.store b result ↔ StaysIn cache item.assetId) := by
  obtain ⟨item, hfirst, hpath⟩ := handedPath_activated hactivate haccepted cache b
  refine ⟨item, hfirst, ?_⟩
  rw [← inside_join_iff, Confined, hpath]
  refine ⟨fun hinside => hinside _ rfl, fun hinside p hp => ?_⟩
  rw [← Option.some.inj hp]
  exact hinside

end Activation

/-! ### A path above the cache -/

def assetCachePath : Path := ⟨.slash, ["data", "assets"]⟩

def manifestWith (assetId : String) : Json :=
  .obj [("schema_version", .str "1.0.0"), ("manifest_id", .str "poster"),
    ("approved_at", .str "2026-01-01T00:00:00Z"), ("approved_by", .str "ops"),
    ("items", .arr [.obj [("item_id", .str "i-1"), ("asset_id", .str assetId),
      ("asset_type", .str "html"), ("duration_ms", .int 5000)]])]

/-- The schema leaves an asset id every text of its length. -/
theorem manifestWith_valid {assetId : String} (h : identifier (.str assetId) = true) :
    creativeManifest (manifestWith assetId) = true := by
  have hitem : manifestItem (.obj [("item_id", .str "i-1"), ("asset_id", .str assetId),
      ("asset_type", .str "html"), ("duration_ms", .int 5000)]) = true := by
    refine (Schema.object_fields_iff ["item_id", "asset_id", "asset_type", "duration_ms"]
      [⟨"item_id", identifier, some (.str "i-1")⟩,
        ⟨"asset_id", identifier, some (.str assetId)⟩,
        ⟨"asset_type", Schema.enumStr ["video", "image", "html"], some (.str "html")⟩,
        ⟨"duration_ms", Schema.all [Schema.integer, Schema.minimum 1000], some (.int 5000)⟩,
        ⟨"loop", Schema.boolean, none⟩] (by simp) (by simp)).mpr ?_
    have hname : identifier (.str "i-1") = true := by decide +kernel
    have htype : Schema.enumStr ["video", "image", "html"] (.str "html") = true := by
      decide +kernel
    have hduration : Schema.all [Schema.integer, Schema.minimum 1000] (.int 5000) = true := by
      decide +kernel
    simp [h, hname, htype, hduration]
  refine (Schema.object_fields_iff
    ["schema_version", "manifest_id", "approved_at", "approved_by", "items"]
    [⟨"schema_version", Schema.constStr "1.0.0", some (.str "1.0.0")⟩,
      ⟨"manifest_id", identifier, some (.str "poster")⟩,
      ⟨"approved_at", timestamp, some (.str "2026-01-01T00:00:00Z")⟩,
      ⟨"approved_by", identifier, some (.str "ops")⟩, ⟨"expires_at", timestamp, none⟩,
      ⟨"items", Schema.array manifestItem 1, some (.arr [.obj [("item_id", .str "i-1"),
        ("asset_id", .str assetId), ("asset_type", .str "html"), ("duration_ms", .int 5000)]])⟩,
      ⟨"policy", Schema.object [] [("min_dwell_ms", count), ("cooldown_ms", count),
        ("allow_interruption", Schema.boolean)], none⟩] (by simp) (by simp)).mpr ?_
  have hversion : Schema.constStr "1.0.0" (.str "1.0.0") = true := by decide +kernel
  have hid : identifier (.str "poster") = true := by decide +kernel
  have hat : timestamp (.str "2026-01-01T00:00:00Z") = true := by decide +kernel
  have hby : identifier (.str "ops") = true := by decide +kernel
  simp [hversion, hid, hat, hby, Schema.array, hitem]

def playerWith (assetId : String) : CommandHandler where
  sm := StateMachine.init
  store := (ManifestStore.empty.put (manifestWith assetId)).1

theorem playerWith_activates (assetId : String) (h : identifier (.str assetId) = true)
    (t : FrameClock) : ∃ sm result event,
      (playerWith assetId).activateManifest jsonRuntime "poster" 0 0 none t =
        .ok (sm, result, event) ∧ result.accepted = true ∧
      ((playerWith assetId).store.get "poster").bind firstItem =
        some ⟨assetId, "html", 5000, false⟩ := by
  have hid : manifestId (manifestWith assetId) = "poster" := rfl
  have hget : (playerWith assetId).store.get "poster" = some (manifestWith assetId) := by
    have hput := ManifestStore.get_put ManifestStore.empty (manifestWith assetId) "poster"
    rw [if_pos ⟨manifestWith_valid h, hid.symm⟩] at hput
    exact hput
  have hcheck : ManifestStore.checkManifest jsonRuntime (manifestWith assetId) t.utcNow =
      .ok none := rfl
  refine ⟨_, _, _, by simp only [CommandHandler.activateManifest, hget, hcheck]; rfl, ?_, ?_⟩
  · rfl
  · rw [hget]
    rfl

theorem springClip_confined : ∃ sm result event,
    (playerWith "clips/spring.mp4").activateManifest jsonRuntime "poster" 0 0 none ⟨0, .at 0⟩ =
        .ok (sm, result, event) ∧
      Confined assetCachePath (playerWith "clips/spring.mp4").store ⟨none⟩ result := by
  obtain ⟨sm, result, event, hactivate, haccepted, hplayed⟩ :=
    playerWith_activates "clips/spring.mp4" (by decide +kernel) ⟨0, .at 0⟩
  obtain ⟨item, hitem, hiff⟩ := confined_iff hactivate haccepted assetCachePath ⟨none⟩
  refine ⟨sm, result, event, hactivate, hiff.mpr ?_⟩
  obtain rfl := Option.some.inj (hplayed.symm.trans hitem)
  have hrelative : rootOf "clips/spring.mp4" = .relative := by decide
  rw [StaysIn, if_pos hrelative]
  exact ⟨Or.inl (by decide), by decide +kernel⟩

/-- The asset id of a valid manifest climbs out of the cache to the password file. -/
theorem passwd_handed : ¬ ∀ (rt : Runtime Json) (h : CommandHandler) (m : String)
    (minDwellMs cooldownMs : ℤ) (rationale : Option String) (t : FrameClock) (sm : StateMachine)
    (result : TransitionResult) (event : Option PlayEvent) (cache : Path) (b : FallbackBundle),
    h.activateManifest rt m minDwellMs cooldownMs rationale t = .ok (sm, result, event) →
      result.accepted = true → Confined cache h.store b result := by
  intro h
  obtain ⟨sm, result, event, hactivate, haccepted, hplayed⟩ :=
    playerWith_activates "../../etc/passwd" (by decide +kernel) ⟨0, .at 0⟩
  obtain ⟨item, hitem, hpath⟩ :=
    handedPath_activated hactivate haccepted assetCachePath ⟨none⟩
  obtain rfl := Option.some.inj (hplayed.symm.trans hitem)
  have hinside := h _ _ _ _ _ _ _ _ _ _ _ _ hactivate haccepted _ hpath
  exact absurd hinside.below (by decide +kernel)

end AdaptiveAdvertisement.Player
