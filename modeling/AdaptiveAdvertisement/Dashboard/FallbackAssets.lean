import AdaptiveAdvertisement.Dashboard.ManifestRouter
import AdaptiveAdvertisement.Library.FileNames

/-!
# Fallback assets on the dashboard (`dashboard_api/routers/fallback.py`)

The shared fallback library and the request that sets its marker. A text file holds what
`read_text` gives of it.

Source lines: `_ALLOWED_EXTENSIONS` 47-52, `activate_fallback_asset` 102-125. A name is written in
the encoding that it is read in, and a request whose write raises answers 500.
-/

namespace AdaptiveAdvertisement.Dashboard
open Library

inductive LibraryFile where
  | file (text : Except Raised String)
  | directory
  | dangling

abbrev FallbackLibrary := Dict String LibraryFile

def LibraryFile.isThere : LibraryFile → Bool
  | .dangling => false
  | _ => true

def allowedExtensions : List String :=
  [".png", ".jpg", ".jpeg", ".gif", ".bmp", ".webp", ".mp4", ".webm"]

def fallbackMarker : String := "_selected"

def badAssetName (name : String) : Bool :=
  decide (name = "" ∨ '/' ∈ name.toList ∨ '\\' ∈ name.toList ∨
    name.toList.head? = some '.')

/-- The marker holds the name as it is read back; a directory in its place cannot be written. -/
def writeMarker (lib : FallbackLibrary) (name : String) :
    FallbackLibrary × Except HttpError String :=
  match lib.get fallbackMarker with
  | some .directory => (lib, .error ⟨500, none⟩)
  | _ => (lib.set fallbackMarker (.file (.ok (readBack name))), .ok name)

def activateFallbackAsset (lib : FallbackLibrary) (name : String) :
    FallbackLibrary × Except HttpError String :=
  if badAssetName name then (lib, .error ⟨400, some "invalid asset name"⟩)
  else if lower (suffix name) ∉ allowedExtensions then
    (lib, .error ⟨400, some "unsupported file extension"⟩)
  else
    match lib.get name with
    | some (.file _) => writeMarker lib name
    | _ => (lib, .error ⟨404, some "asset not found in fallback library"⟩)

theorem writeMarker_ok {lib : FallbackLibrary} {name answer : String}
    (h : (writeMarker lib name).2 = .ok answer) :
    (writeMarker lib name).1 = lib.set fallbackMarker (.file (.ok (readBack name))) := by
  unfold writeMarker at h ⊢
  cases hmarker : lib.get fallbackMarker with
  | none => rfl
  | some f =>
    cases f with
    | directory => simp [hmarker] at h
    | dangling => rfl
    | file text => rfl

/-- What an activation that answers 200 has found and written. -/
structure Activated (lib : FallbackLibrary) (name : String) : Prop where
  named : badAssetName name = false
  allowed : lower (suffix name) ∈ allowedExtensions
  found : ∃ text, lib.get name = some (.file text)
  written : (activateFallbackAsset lib name).1 =
    lib.set fallbackMarker (.file (.ok (readBack name)))

theorem activate_ok {lib : FallbackLibrary} {name answer : String}
    (h : (activateFallbackAsset lib name).2 = .ok answer) : Activated lib name := by
  have hnamed : badAssetName name = false := by
    by_contra hbad
    rw [Bool.not_eq_false] at hbad
    simp [activateFallbackAsset, hbad] at h
  have hallowed : lower (suffix name) ∈ allowedExtensions := by
    by_contra hext
    simp [activateFallbackAsset, hnamed, hext] at h
  have hactivate : activateFallbackAsset lib name = match lib.get name with
      | some (.file _) => writeMarker lib name
      | _ => (lib, .error ⟨404, some "asset not found in fallback library"⟩) := by
    simp [activateFallbackAsset, hnamed, hallowed]
  cases hfile : lib.get name with
  | none => simp [hactivate, hfile] at h
  | some f =>
    cases f with
    | directory => simp [hactivate, hfile] at h
    | dangling => simp [hactivate, hfile] at h
    | file text =>
      simp only [hactivate, hfile] at h
      refine ⟨hnamed, hallowed, ⟨text, hfile⟩, ?_⟩
      simp only [hactivate, hfile]
      exact writeMarker_ok h

end AdaptiveAdvertisement.Dashboard
