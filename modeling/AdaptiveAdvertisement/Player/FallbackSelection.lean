import AdaptiveAdvertisement.Player.Renderer
import AdaptiveAdvertisement.Library.FileNames
import Mathlib.Data.List.Sort

/-!
# The selection of the fallback asset (`player/fallback.py`)

`_resolve` looks for an asset in six places, one after the other. What it asks of the file system
may raise at any of them, and then the selection is left as it was; `refresh` logs such an
exception and goes on.

Source lines: `_EXT_TO_TYPE`, `_RESERVED` 74-91, `validate` 115-134, `refresh` 136-157,
`asset_path` 191-195, `_resolve` 212-269, `_try_selected_marker` 271-308, `_set` 310-319.
-/

namespace AdaptiveAdvertisement.Player
open Library

def extToType : List (String × String) :=
  [(".jpg", "image"), (".jpeg", "image"), (".png", "image"), (".mp4", "video"),
    (".webm", "video"), (".html", "html")]

def builtinName : String := "fallback-builtin.png"

def selectedMarker : String := "_selected"

def reserved : List String := [selectedMarker, ".gitkeep", builtinName]

/-- What the file system answers about a directory: whether it is there, which names it lists,
and of a path below it whether it is there and the text that it holds. -/
structure AssetDir where
  path : Path
  isThere : Except Raised Bool
  names : Except Raised (List String)
  present : String → Except Raised Bool
  readText : String → Except Raised String

/-- The configured places of one search. An empty name is no override. -/
structure FallbackSources where
  assetName : String
  bundle : AssetDir
  library : Option AssetDir

structure Selection where
  path : Path
  assetType : String
  source : String
  deriving DecidableEq

/-- The one of two searches that is made first, unless it finds nothing. -/
def orElse {α : Type} (first second : Except Raised (Option α)) : Except Raised (Option α) :=
  match first with
  | .ok none => second
  | found => found

def typeOf (p : Path) : Option String := Dict.find (lower (suffix p.name)) extToType

def select (p : Path) (source : String) : Option Selection :=
  (typeOf p).map fun assetType => ⟨p, assetType, source⟩

namespace AssetDir

variable (d : AssetDir)

/-- A named asset of the directory (`p.exists()` and its extension). -/
def find (name source : String) : Except Raised (Option Selection) :=
  (d.present name).map fun present => if present then select (d.path.join name) source else none

/-- The first asset in the order of the names. -/
def first (skip : List String) (source : String) : Except Raised (Option Selection) :=
  d.names.map fun names =>
    (names.insertionSort fun a b => a ≤ b).findSome? fun name =>
      if name ∈ skip then none else select (d.path.join name) source

/-- A name with a separator is ignored. -/
def namedBy (text : String) (searchDir : Option AssetDir) (label : String) :
    Except Raised (Option Selection) :=
  let name := strip text
  if name = "" ∨ '/' ∈ name.toList ∨ '\\' ∈ name.toList then .ok none
  else
    orElse (d.find name label) (match searchDir with
      | some other => if other.path ≠ d.path then other.find name label else .ok none
      | none => .ok none)

def trySelectedMarker (searchDir : Option AssetDir) (label : String) :
    Except Raised (Option Selection) :=
  match d.present selectedMarker with
  | .error e => .error e
  | .ok false => .ok none
  | .ok true =>
    match d.readText selectedMarker with
    | .error e => .error e
    | .ok text => d.namedBy text searchDir label

/-- A search of a directory that has to be there. -/
def whenThere (search : Except Raised (Option Selection)) : Except Raised (Option Selection) :=
  match d.isThere with
  | .error e => .error e
  | .ok false => .ok none
  | .ok true => search

end AssetDir

namespace FallbackSources

variable (f : FallbackSources)

def overLibrary (search : AssetDir → Except Raised (Option Selection)) :
    Except Raised (Option Selection) :=
  match f.library with
  | some library => search library
  | none => .ok none

def explicit : Except Raised (Option Selection) :=
  if f.assetName = "" then .ok none
  else
    orElse (f.bundle.find f.assetName "explicit")
      (f.overLibrary fun library => library.find f.assetName "explicit")

def libraryMarker : Except Raised (Option Selection) :=
  f.overLibrary fun library =>
    library.whenThere (library.trySelectedMarker (some library) "selected-library")

def bundleMarker : Except Raised (Option Selection) :=
  f.bundle.trySelectedMarker f.library "selected-bundle"

def bundleAuto : Except Raised (Option Selection) := f.bundle.first reserved "bundle-auto"

def libraryAuto : Except Raised (Option Selection) :=
  f.overLibrary fun library => library.whenThere (library.first [selectedMarker] "library-auto")

def builtin : Except Raised (Option Selection) := f.bundle.find builtinName "builtin"

def resolve : Except Raised (Option Selection) :=
  orElse f.explicit (orElse f.libraryMarker (orElse f.bundleMarker
    (orElse f.bundleAuto (orElse f.libraryAuto f.builtin))))

end FallbackSources

/-! ### The bundle -/

/-- `FallbackBundle.__init__`. -/
structure BundleState where
  assetPath : Option Path := none
  assetType : Option String := none
  source : String := "uninitialised"

def BundleState.of : Option Selection → BundleState
  | some s => ⟨some s.path, some s.assetType, s.source⟩
  | none => ⟨none, none, "none"⟩

/-- How `validate` ends without an asset. -/
inductive BundleError where
  | missing (bundle : Path) (library : Option Path)
  | raised (e : Raised)

namespace BundleState

def validate (f : FallbackSources) : Except BundleError BundleState :=
  match f.resolve with
  | .error e => .error (.raised e)
  | .ok none => .error (.missing f.bundle.path (f.library.map AssetDir.path))
  | .ok (some s) => .ok (of (some s))

def refresh (b : BundleState) (f : FallbackSources) : BundleState × Bool :=
  match f.resolve with
  | .error _ => (b, false)
  | .ok found => (of found, decide ((of found).assetPath ≠ b.assetPath))

/-- The property `asset_path`; `none` is the `FallbackBundleMissingError` that it raises. -/
def readAssetPath (b : BundleState) : Option String := b.assetPath.map Path.str

end BundleState

def refreshing (b : BundleState) : Machine BundleState FallbackSources Bool :=
  ⟨b, BundleState.refresh⟩

/-! ### Where nothing is found -/

/-- Without an exception, and either without the file or without a type that is known. -/
def AssetDir.Lacks (d : AssetDir) (name : String) : Prop :=
  ∃ present, d.present name = .ok present ∧
    (present = true → typeOf (d.path.join name) = none)

def AssetDir.ListsNone (d : AssetDir) (skip : List String) : Prop :=
  ∃ names, d.names = .ok names ∧ ∀ n ∈ names, n ∈ skip ∨ typeOf (d.path.join n) = none

def IsFileName (name : String) : Prop :=
  name ≠ "" ∧ '/' ∉ name.toList ∧ '\\' ∉ name.toList

/-- There is no marker, or it names no asset. -/
def AssetDir.MarksNone (d : AssetDir) (searchDir : Option AssetDir) : Prop :=
  d.present selectedMarker = .ok false ∨
    d.present selectedMarker = .ok true ∧ ∃ text, d.readText selectedMarker = .ok text ∧
      (IsFileName (strip text) → d.Lacks (strip text) ∧
        ∀ other ∈ searchDir, other.path ≠ d.path → other.Lacks (strip text))

/-- No place that is searched has an asset, and nothing raises. -/
structure NothingFound (f : FallbackSources) : Prop where
  override : f.assetName ≠ "" →
    f.bundle.Lacks f.assetName ∧ ∀ library ∈ f.library, library.Lacks f.assetName
  inLibrary : ∀ library ∈ f.library, library.isThere = .ok false ∨
    library.isThere = .ok true ∧ library.MarksNone (some library) ∧
      library.ListsNone [selectedMarker]
  marked : f.bundle.MarksNone f.library
  listed : f.bundle.ListsNone reserved
  builtin : f.bundle.present builtinName = .ok false

section Search

variable {α : Type} {first second : Except Raised (Option α)} (d : AssetDir)

theorem orElse_none_iff :
    orElse first second = .ok none ↔ first = .ok none ∧ second = .ok none := by
  cases first with
  | error e => simp [orElse]
  | ok found => cases found <;> simp [orElse]

theorem select_none_iff (p : Path) (source : String) :
    select p source = none ↔ typeOf p = none := by
  simp [select]

theorem find_none_iff (name source : String) : d.find name source = .ok none ↔ d.Lacks name := by
  rw [AssetDir.find, map_ok_iff]
  refine exists_congr fun present => and_congr_right fun _ => ?_
  cases present with
  | false => simp
  | true => simp [select_none_iff]

theorem find_some {name source : String} {sel : Selection}
    (h : d.find name source = .ok (some sel)) :
    sel.path = d.path.join name ∧ typeOf sel.path = some sel.assetType := by
  obtain ⟨present, -, hsel⟩ := map_ok h
  cases present with
  | false => simp at hsel
  | true =>
    rw [if_pos rfl, select] at hsel
    obtain ⟨assetType, htype, rfl⟩ := Option.map_eq_some_iff.mp hsel.symm
    exact ⟨rfl, htype⟩

theorem first_none_iff (skip : List String) (source : String) :
    d.first skip source = .ok none ↔ d.ListsNone skip := by
  rw [AssetDir.first, map_ok_iff]
  refine exists_congr fun names => and_congr_right fun _ => ?_
  simp only [List.findSome?_eq_none_iff, List.mem_insertionSort]
  refine forall₂_congr fun n _ => ?_
  by_cases hn : n ∈ skip <;> simp [hn, select_none_iff]

theorem ignored_iff (name : String) :
    (name = "" ∨ '/' ∈ name.toList ∨ '\\' ∈ name.toList) ↔ ¬ IsFileName name := by
  rw [IsFileName, not_and_or, not_and_or, not_not, not_not, not_not]

theorem namedBy_none_iff (text : String) (searchDir : Option AssetDir) (label : String) :
    d.namedBy text searchDir label = .ok none ↔
      (IsFileName (strip text) → d.Lacks (strip text) ∧
        ∀ other ∈ searchDir, other.path ≠ d.path → other.Lacks (strip text)) := by
  unfold AssetDir.namedBy
  by_cases hname : IsFileName (strip text)
  · rw [if_neg fun h => (ignored_iff _).mp h hname, orElse_none_iff, find_none_iff]
    cases searchDir with
    | none => simp [hname]
    | some other =>
      by_cases hpath : other.path = d.path
      · simp [hname, hpath]
      · simp [hname, hpath, find_none_iff]
  · rw [if_pos ((ignored_iff _).mpr hname)]
    simp [hname]

theorem trySelectedMarker_none_iff (searchDir : Option AssetDir) (label : String) :
    d.trySelectedMarker searchDir label = .ok none ↔ d.MarksNone searchDir := by
  unfold AssetDir.trySelectedMarker AssetDir.MarksNone
  cases d.present selectedMarker with
  | error e => simp
  | ok there =>
    cases there with
    | false => simp
    | true =>
      cases d.readText selectedMarker with
      | error e => simp
      | ok text => simp [namedBy_none_iff]

theorem whenThere_none_iff (search : Except Raised (Option Selection)) :
    d.whenThere search = .ok none ↔
      d.isThere = .ok false ∨ d.isThere = .ok true ∧ search = .ok none := by
  unfold AssetDir.whenThere
  cases d.isThere with
  | error e => simp
  | ok there => cases there <;> simp

end Search

section Resolve

variable (f : FallbackSources)

theorem overLibrary_none_iff (search : AssetDir → Except Raised (Option Selection)) :
    f.overLibrary search = .ok none ↔ ∀ library ∈ f.library, search library = .ok none := by
  unfold FallbackSources.overLibrary
  cases f.library <;> simp

theorem explicit_none_iff : f.explicit = .ok none ↔ (f.assetName ≠ "" →
    f.bundle.Lacks f.assetName ∧ ∀ library ∈ f.library, library.Lacks f.assetName) := by
  unfold FallbackSources.explicit
  by_cases hname : f.assetName = ""
  · simp [hname]
  · simp only [if_neg hname, orElse_none_iff, overLibrary_none_iff, find_none_iff]
    simp [hname]

theorem libraryStages_none_iff : (f.libraryMarker = .ok none ∧ f.libraryAuto = .ok none) ↔
    ∀ library ∈ f.library, library.isThere = .ok false ∨
      library.isThere = .ok true ∧ library.MarksNone (some library) ∧
        library.ListsNone [selectedMarker] := by
  rw [FallbackSources.libraryMarker, FallbackSources.libraryAuto, overLibrary_none_iff,
    overLibrary_none_iff, ← forall₂_and]
  refine forall₂_congr fun library _ => ?_
  rw [whenThere_none_iff, whenThere_none_iff, trySelectedMarker_none_iff, first_none_iff]
  cases library.isThere with
  | error e => simp
  | ok there => cases there <;> simp

theorem builtin_typed (p : Path) : typeOf (p.join builtinName) = some "image" := by
  have hname : IsName builtinName := ⟨by decide, by decide, by decide⟩
  rw [typeOf, name_join p hname]
  decide +kernel

theorem builtin_none_iff : f.builtin = .ok none ↔ f.bundle.present builtinName = .ok false := by
  rw [FallbackSources.builtin, find_none_iff, AssetDir.Lacks]
  simp only [builtin_typed, reduceCtorEq, imp_false, Bool.not_eq_true, exists_eq_right]

/-- The search ends without an asset exactly where no place has one. -/
theorem resolve_none_iff : f.resolve = .ok none ↔ NothingFound f := by
  have hstages : f.resolve = .ok none ↔ f.explicit = .ok none ∧
      (f.libraryMarker = .ok none ∧ f.libraryAuto = .ok none) ∧ f.bundleMarker = .ok none ∧
        f.bundleAuto = .ok none ∧ f.builtin = .ok none := by
    simp only [FallbackSources.resolve, orElse_none_iff]
    tauto
  rw [hstages, explicit_none_iff, libraryStages_none_iff, builtin_none_iff,
    FallbackSources.bundleMarker, FallbackSources.bundleAuto, trySelectedMarker_none_iff,
    first_none_iff]
  exact ⟨fun ⟨h1, h2, h3, h4, h5⟩ => ⟨h1, h2, h3, h4, h5⟩,
    fun h => ⟨h.override, h.inLibrary, h.marked, h.listed, h.builtin⟩⟩

end Resolve

/-! ### What later searches leave -/

theorem validate_readAssetPath {f : FallbackSources} {b : BundleState}
    (h : BundleState.validate f = .ok b) : b.readAssetPath.isSome = true := by
  unfold BundleState.validate at h
  cases hr : f.resolve with
  | error e => simp [hr] at h
  | ok found =>
    cases found with
    | none => simp [hr] at h
    | some s =>
      simp only [hr, Except.ok.injEq] at h
      subst h
      rfl

/-- A search that raises keeps the asset, one that finds nothing drops it. -/
theorem refresh_readAssetPath_iff {b : BundleState} (h : b.readAssetPath.isSome = true)
    (f : FallbackSources) :
    (b.refresh f).1.readAssetPath.isSome = true ↔ ¬ NothingFound f := by
  rw [← resolve_none_iff, BundleState.refresh]
  cases f.resolve with
  | error e => simp [h]
  | ok found =>
    cases found with
    | none => simp [BundleState.of, BundleState.readAssetPath]
    | some s => simp [BundleState.of, BundleState.readAssetPath]

/-- After a search that the path is still there to be read. -/
def KeepsAsset (b : BundleState) (f : FallbackSources) : Prop :=
  (b.refresh f).1.readAssetPath.isSome = true

/-- After startup an asset is there to be shown, however often the selection is refreshed, exactly
where each refresh finds one somewhere or raises. -/
theorem asset_kept_iff {start : FallbackSources} {b : BundleState}
    (hstart : BundleState.validate start = .ok b) (fs : List FallbackSources) :
    (refreshing b).EachStep KeepsAsset b fs ↔ ∀ f ∈ fs, ¬ NothingFound f := by
  have hruns : (refreshing b).EachStep KeepsAsset b fs ↔
      (refreshing b).EachStep (fun _ f => ¬ NothingFound f) b fs :=
    Machine.eachStep_iff_of_inv (M := refreshing b) (I := fun b => b.readAssetPath.isSome = true)
      (fun _ f h hf => (refresh_readAssetPath_iff h f).mpr hf)
      (fun _ f h => refresh_readAssetPath_iff h f) (validate_readAssetPath hstart) fs
  rw [hruns, Machine.eachStep_input_iff]

/-! ### A slate that disappears -/

def emptyDir (path : Path) : AssetDir where
  path := path
  isThere := .ok true
  names := .ok []
  present := fun _ => .ok false
  readText := fun _ => .error .loadError

/-- A directory with one file, of which only the name counts. -/
def dirWith (path : Path) (name : String) : AssetDir where
  path := path
  isThere := .ok true
  names := .ok [name]
  present := fun n => .ok (decide (n = name))
  readText := fun _ => .error .loadError

def bundlePath : Path := ⟨.slash, ["app", "fallback_bundle"]⟩

def libraryPath : Path := ⟨.slash, ["data", "fallback-library"]⟩

/-- The image with its built-in slate, and one asset in the library. -/
def slateAnd (name : String) : FallbackSources :=
  ⟨"", dirWith bundlePath builtinName, some (dirWith libraryPath name)⟩

/-- The same without the slate. -/
def libraryOnly (name : String) : FallbackSources :=
  ⟨"", emptyDir bundlePath, some (dirWith libraryPath name)⟩

def nothingLeft : FallbackSources := ⟨"", emptyDir bundlePath, some (emptyDir libraryPath)⟩

theorem promo_kept : ∃ b, BundleState.validate (slateAnd "promo.mp4") = .ok b ∧
    ((refreshing b).EachStep KeepsAsset b [slateAnd "notes.txt", slateAnd "sale.png"] ↔
      ∀ f ∈ [slateAnd "notes.txt", slateAnd "sale.png"], ¬ NothingFound f) := by
  obtain ⟨b, hb⟩ := exists_of_isOk
    (x := BundleState.validate (slateAnd "promo.mp4")) (by decide +kernel)
  exact ⟨b, hb, asset_kept_iff hb _⟩

/-- The only asset of the library is removed. -/
theorem asset_lost : ¬ ∀ (start : FallbackSources) (b : BundleState) (fs : List FallbackSources),
    BundleState.validate start = .ok b → (refreshing b).EachStep KeepsAsset b fs := by
  intro h
  obtain ⟨b, hb⟩ := exists_of_isOk
    (x := BundleState.validate (libraryOnly "promo.mp4")) (by decide +kernel)
  have hrun := h (libraryOnly "promo.mp4") b [nothingLeft] hb
  have hlost : (b.refresh nothingLeft).1.readAssetPath = none := rfl
  have hkept : (b.refresh nothingLeft).1.readAssetPath.isSome = true := hrun.1
  rw [hlost] at hkept
  cases hkept

end AdaptiveAdvertisement.Player
