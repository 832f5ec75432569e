import AdaptiveAdvertisement.Dashboard.FallbackAssets
import AdaptiveAdvertisement.Player.FallbackSelection

/-!
# From the choice of a fallback asset to the player

The dashboard writes the name of the chosen asset into the marker of the shared library, and the
next refresh of the player, which has no override, reads it there.
-/

namespace AdaptiveAdvertisement.System
open Library Dashboard Player

/-- The library as the player finds it below `path`. -/
def libraryDir (lib : FallbackLibrary) (path : Path) : AssetDir where
  path := path
  isThere := .ok true
  names := .ok lib.keys
  present := fun name => .ok ((lib.get name).any LibraryFile.isThere)
  readText := fun name =>
    match lib.get name with
    | some (.file text) => text
    | _ => .error .loadError

def playerSources (lib : FallbackLibrary) (path : Path) (bundle : AssetDir) : FallbackSources :=
  ⟨"", bundle, some (libraryDir lib path)⟩

/-- Whatever the bundle holds and whatever was selected before, the next refresh selects the file
of the library. -/
def SelectsFile (lib : FallbackLibrary) (path : Path) (name : String) : Prop :=
  ∀ (bundle : AssetDir) (b : BundleState),
    (b.refresh (playerSources lib path bundle)).1.assetPath = some (path.join name)

/-- The player knows the extension, and reads the name as it was written. -/
structure Readable (name : String) : Prop where
  known : (Dict.find (lower (suffix name)) extToType).isSome = true
  noReturn : '\r' ∉ name.toList
  noLeading : leadsWithSpace name = false
  noTrailing : endsWithSpace name = false

section Choice

variable {lib : FallbackLibrary} {path : Path} {name text : String}

theorem isFileName_of_named (h : badAssetName name = false) : IsFileName name ∧ name ≠ "." := by
  simp only [badAssetName, decide_eq_false_iff_not, not_or] at h
  obtain ⟨hne, hslash, hback, hdot⟩ := h
  refine ⟨⟨hne, hslash, hback⟩, ?_⟩
  rintro rfl
  exact hdot rfl

theorem typeOf_join (path : Path) (hname : IsName name) :
    typeOf (path.join name) = Dict.find (lower (suffix name)) extToType := by
  rw [typeOf, name_join path hname]

/-- The marker leads to nothing but the file that it is read as. -/
theorem libraryMarker_activated (path : Path) (h : Activated lib name) (bundle : AssetDir) :
    (playerSources (activateFallbackAsset lib name).1 path bundle).libraryMarker =
      (libraryDir (activateFallbackAsset lib name).1 path).namedBy (readBack name)
        (some (libraryDir (activateFallbackAsset lib name).1 path)) "selected-library" := by
  have hwhere : (activateFallbackAsset lib name).1.get selectedMarker =
      some (.file (.ok (readBack name))) := by
    rw [h.written]
    exact Dict.get_set_self _ _ _
  simp [playerSources, FallbackSources.libraryMarker, FallbackSources.overLibrary,
    AssetDir.whenThere, AssetDir.trySelectedMarker, libraryDir, hwhere, LibraryFile.isThere]

theorem resolve_of_libraryMarker {f : FallbackSources} (hname : f.assetName = "")
    {sel : Selection} (h : f.libraryMarker = .ok (some sel)) : f.resolve = .ok (some sel) := by
  simp [FallbackSources.resolve, FallbackSources.explicit, hname, h, orElse]

theorem namedBy_library (hname : IsFileName (strip text)) (label : String) :
    (libraryDir lib path).namedBy text (some (libraryDir lib path)) label =
      orElse ((libraryDir lib path).find (strip text) label) (.ok none) := by
  unfold AssetDir.namedBy
  rw [if_neg fun h => (ignored_iff _).mp h hname]
  simp

theorem selectsFile_of_readable (h : Activated lib name) (hread : Readable name) :
    SelectsFile (activateFallbackAsset lib name).1 path name := by
  intro bundle b
  obtain ⟨hfile, hdot⟩ := isFileName_of_named h.named
  have hback : strip (readBack name) = name :=
    (strip_readBack_iff name).mpr ⟨hread.noReturn, hread.noLeading, hread.noTrailing⟩
  obtain ⟨assetType, htype⟩ := Option.isSome_iff_exists.mp hread.known
  have hthere : ((activateFallbackAsset lib name).1.get name).any LibraryFile.isThere = true := by
    obtain ⟨text, hget⟩ := h.found
    rw [h.written, Dict.get_set]
    split_ifs
    · rfl
    · rw [hget]
      rfl
  have hfind : (libraryDir (activateFallbackAsset lib name).1 path).find name "selected-library" =
      .ok (some ⟨path.join name, assetType, "selected-library"⟩) := by
    have hknown := (typeOf_join path ⟨hfile.2.1, hfile.1, hdot⟩).trans htype
    simp [AssetDir.find, libraryDir, hthere, Except.map, select, hknown]
  have hmarker := libraryMarker_activated path h bundle
  rw [namedBy_library (hback.symm ▸ hfile), hback, hfind] at hmarker
  rw [BundleState.refresh, resolve_of_libraryMarker rfl hmarker]
  rfl

end Choice

/-! ### Only such names -/

section Only

variable {lib : FallbackLibrary} {path : Path} {name : String}

/-- A bundle below the library, with an asset of its own. -/
def houseBundle (path : Path) : AssetDir :=
  dirWith ⟨path.root, path.parts ++ ["bundle"]⟩ "house.png"

theorem house_ne (hname : IsName name) :
    (houseBundle path).path.join "house.png" ≠ path.join name := by
  have hhouse : IsName "house.png" := ⟨by decide, by decide, by decide⟩
  rw [join_name _ hhouse, join_name path hname]
  intro h
  have hparts := congrArg (fun p : Path => p.parts.length) h
  simp [houseBundle, dirWith] at hparts

theorem resolve_house {lib : FallbackLibrary}
    (h : (playerSources lib path (houseBundle path)).libraryMarker = .ok none) :
    ∃ sel, (playerSources lib path (houseBundle path)).resolve = .ok (some sel) ∧
      sel.path = (houseBundle path).path.join "house.png" := by
  have hmarker : (playerSources lib path (houseBundle path)).bundleMarker = .ok none := by
    simp [FallbackSources.bundleMarker, playerSources, AssetDir.trySelectedMarker, houseBundle,
      dirWith, selectedMarker]
  have htype : typeOf ((houseBundle path).path.join "house.png") = some "image" := by
    rw [typeOf_join _ ⟨by decide, by decide, by decide⟩]
    decide +kernel
  have hauto : (playerSources lib path (houseBundle path)).bundleAuto =
      .ok (some ⟨(houseBundle path).path.join "house.png", "image", "bundle-auto"⟩) := by
    have hfree : "house.png" ∉ reserved := by decide
    simp only [FallbackSources.bundleAuto, playerSources, AssetDir.first]
    simp [houseBundle, dirWith, Except.map, hfree, select] at htype ⊢
    exact htype
  refine ⟨⟨(houseBundle path).path.join "house.png", "image", "bundle-auto"⟩, ?_, rfl⟩
  simp only [FallbackSources.resolve, h, hmarker, hauto]
  rfl

theorem eq_of_join {read : String} (hread : IsFileName read) (hname : IsName name)
    (h : path.join read = path.join name) : read = name := by
  by_cases hdot : read = "."
  · have hhere : path.join "." = path := by
      have hnone : components "." = [] := by decide +kernel
      have hrel : rootOf "." = .relative := by decide
      simp [Path.join, hnone, hrel]
    rw [hdot, hhere, join_name path hname] at h
    have hparts := congrArg (fun p : Path => p.parts.length) h
    simp at hparts
  · rw [join_name path ⟨hread.2.1, hread.1, hdot⟩, join_name path hname] at h
    simpa using h

theorem readable_of_selectsFile (h : Activated lib name)
    (hsel : SelectsFile (activateFallbackAsset lib name).1 path name) : Readable name := by
  obtain ⟨hfile, hdot⟩ := isFileName_of_named h.named
  have hname : IsName name := ⟨hfile.2.1, hfile.1, hdot⟩
  have hmarker := libraryMarker_activated path h (houseBundle path)
  have hrefresh := hsel (houseBundle path) {}
  -- a marker that leads nowhere leaves the asset of the bundle
  have hled : (playerSources (activateFallbackAsset lib name).1 path
      (houseBundle path)).libraryMarker ≠ .ok none := by
    intro hnone
    obtain ⟨sel, hresolve, hpath⟩ := resolve_house hnone
    rw [BundleState.refresh, hresolve] at hrefresh
    have hsame : sel.path = path.join name := Option.some.inj hrefresh
    exact house_ne hname (hpath.symm.trans hsame)
  by_cases hread : IsFileName (strip (readBack name))
  · rw [namedBy_library hread] at hmarker
    cases hfind : (libraryDir (activateFallbackAsset lib name).1 path).find
        (strip (readBack name)) "selected-library" with
    | error e => simp [AssetDir.find, libraryDir, Except.map] at hfind
    | ok found =>
      cases found with
      | none =>
        rw [hfind] at hmarker
        exact absurd hmarker hled
      | some sel =>
        rw [hfind] at hmarker
        rw [BundleState.refresh, resolve_of_libraryMarker rfl hmarker] at hrefresh
        have hsame : sel.path = path.join name := Option.some.inj hrefresh
        obtain ⟨hpath, htype⟩ := find_some _ hfind
        have hback := eq_of_join hread hname (hpath.symm.trans hsame)
        obtain ⟨hreturn, hlead, htrail⟩ := (strip_readBack_iff name).mp hback
        refine ⟨?_, hreturn, hlead, htrail⟩
        rw [← typeOf_join path hname, ← hsame, htype]
        rfl
  · refine absurd (hmarker.trans ?_) hled
    unfold AssetDir.namedBy
    exact if_pos ((ignored_iff _).mpr hread)

end Only

/-- The player selects the file that was activated exactly where it knows the extension and reads
the name as it was written. -/
theorem selectsFile_iff (lib : FallbackLibrary) (path : Path) (name : String)
    (h : (activateFallbackAsset lib name).2 = .ok name) :
    SelectsFile (activateFallbackAsset lib name).1 path name ↔ Readable name :=
  ⟨readable_of_selectsFile (activate_ok h), selectsFile_of_readable (activate_ok h)⟩

/-! ### An animation -/

def libraryWith (name : String) : FallbackLibrary := Dict.ofList [(name, .file (.error .loadError))]

theorem promo_selected : (activateFallbackAsset (libraryWith "promo.mp4") "promo.mp4").2 =
      .ok "promo.mp4" ∧
    (SelectsFile (activateFallbackAsset (libraryWith "promo.mp4") "promo.mp4").1 libraryPath
      "promo.mp4" ↔ Readable "promo.mp4") :=
  ⟨by decide +kernel, selectsFile_iff _ _ _ (by decide +kernel)⟩

/-- The dashboard activates a `.gif`, which the player does not know. -/
theorem animation_not_selected : ¬ ∀ (lib : FallbackLibrary) (path : Path) (name : String),
    (activateFallbackAsset lib name).2 = .ok name →
      SelectsFile (activateFallbackAsset lib name).1 path name := by
  intro h
  have hsel := h (libraryWith "sale.gif") libraryPath "sale.gif" (by decide +kernel)
    (dirWith bundlePath builtinName) {}
  revert hsel
  decide +kernel

end AdaptiveAdvertisement.System
