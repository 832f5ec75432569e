import AdaptiveAdvertisement.Player.Renderer

/-!
# Reloading the manifest store

`reload` (`manifest_store.py:103-120`) clears the store and loads the directory again. A file that
is no text, or that the decoder refuses otherwise than by its own error, leaves the loop; a file
that claims the id of an earlier one replaces its manifest and is counted again.
-/

namespace AdaptiveAdvertisement.Player
open Library Contracts

/-- The `.json` files of a directory in name order; an absent directory has none. -/
def manifestFiles : Option Directory → List (String × FileRead)
  | none => []
  | some dir => ManifestStore.jsonFiles dir

def validManifest : String × FileRead → Option Json
  | (_, .content (.value manifest)) => if creativeManifest manifest then some manifest else none
  | _ => none

def validManifests (dir : Option Directory) : List Json :=
  (manifestFiles dir).filterMap validManifest

/-- The last of the manifests with an id. -/
def lastWith (id : String) (manifests : List Json) : Option Json :=
  (manifests.filter fun m => decide (manifestId m = id)).getLast?

/-- A content of which the exception is not caught. -/
def uncaught : String × FileRead → Bool
  | (_, .content .unicodeError) => true
  | (_, .content .raised) => true
  | _ => false

/-! ### The law -/

/-- `reload` returns the number of manifests that it leaves, and leaves exactly the valid ones of
the directory. -/
structure ReloadsCompletely (st : ManifestStore) (dir : Option Directory) : Prop where
  counts : (st.reload dir).2 = .ok (st.reload dir).1.manifests.keys.length
  holds : ∀ id, (st.reload dir).1.get id = lastWith id (validManifests dir)

structure Reloadable (dir : Option Directory) : Prop where
  caught : ∀ f ∈ manifestFiles dir, uncaught f = false
  distinct : ((validManifests dir).map manifestId).Nodup

/-! ### Loading -/

namespace ManifestStore

section Load

variable {st : ManifestStore} {files : List (String × FileRead)}

def keyed (manifests : List Json) : List (String × Json) :=
  manifests.map fun m => (manifestId m, m)

theorem put_manifests {manifest : Json} (h : creativeManifest manifest = true) :
    (st.put manifest).1.manifests = st.manifests.set (manifestId manifest) manifest := by
  simp [put, h]

theorem loadFiles_uncaught {f : String × FileRead} (hf : f ∈ files) (h : uncaught f = true) :
    (st.loadFiles files).2 = .error .loadError := by
  induction files generalizing st with
  | nil => cases hf
  | cons g gs ih =>
    have hrest : uncaught g = false → ∀ st' : ManifestStore,
        (st'.loadFiles gs).2 = .error .loadError := by
      intro hg st'
      rcases List.mem_cons.mp hf with rfl | hmem
      · rw [hg] at h
        cases h
      · exact ih hmem
    obtain ⟨name, file⟩ := g
    cases file with
    | osError => exact hrest rfl st
    | content l =>
      cases l with
      | decodeError => exact hrest rfl st
      | unicodeError => rfl
      | raised => rfl
      | value j =>
        cases hput : (st.put j).2 with
        | false => simpa [loadFiles, hput] using hrest rfl st
        | true => simp [loadFiles, hput, hrest rfl, Except.map]

theorem loadFiles_caught (st : ManifestStore) (h : ∀ f ∈ files, uncaught f = false) :
    (st.loadFiles files).1.manifests =
        st.manifests.setAll (keyed (files.filterMap validManifest)) ∧
      (st.loadFiles files).2 = .ok (files.filterMap validManifest).length := by
  induction files generalizing st with
  | nil => exact ⟨rfl, rfl⟩
  | cons g gs ih =>
    obtain ⟨name, file⟩ := g
    obtain ⟨hfile, hrest⟩ := List.forall_mem_cons.mp h
    cases file with
    | osError => exact ih st hrest
    | content l =>
      cases l with
      | decodeError => exact ih st hrest
      | unicodeError => cases hfile
      | raised => cases hfile
      | value j =>
        by_cases hj : creativeManifest j = true
        · have hput : (st.put j).2 = true := by simp [put, hj]
          have hvalid : validManifest (name, .content (.value j)) = some j := if_pos hj
          rw [List.filterMap_cons_some hvalid]
          obtain ⟨hmanifests, hcount⟩ := ih (st.put j).1 hrest
          refine ⟨?_, ?_⟩
          · simp only [loadFiles, hput, if_true, hmanifests, put_manifests hj]
            rfl
          · simp [loadFiles, hput, hcount, Except.map]
        · have hput : (st.put j).2 = false := by simp [put, hj]
          have hvalid : validManifest (name, .content (.value j)) = none := if_neg hj
          rw [List.filterMap_cons_none hvalid]
          simp only [loadFiles, hput, Bool.false_eq_true, if_false]
          exact ih st hrest

end Load

theorem reload_eq (st : ManifestStore) (dir : Option Directory) :
    st.reload dir = empty.loadFiles (manifestFiles dir) := by
  cases dir <;> rfl

theorem get_setAll_keyed (manifests : List Json) (id : String) :
    ((Dict.empty : Dict String Json).setAll (keyed manifests)).get id = lastWith id manifests := by
  rw [Dict.get_setAll, keyed, List.filter_map, List.getLast?_map]
  simp only [Function.comp_def, lastWith, Dict.get_empty, Option.or_none, Option.map_map]
  exact Option.map_id'

end ManifestStore

theorem keyed_fst (manifests : List Json) :
    (ManifestStore.keyed manifests).map Prod.fst = manifests.map manifestId := by
  simp [ManifestStore.keyed, Function.comp_def]

/-- A reload leaves what the directory holds, and counts it, exactly where no file raises what is
not caught and no two valid files claim one id. -/
theorem reloadsCompletely_iff (st : ManifestStore) (dir : Option Directory) :
    ReloadsCompletely st dir ↔ Reloadable dir := by
  by_cases hcaught : ∀ f ∈ manifestFiles dir, uncaught f = false
  · obtain ⟨hmanifests, hcount⟩ := ManifestStore.loadFiles_caught .empty hcaught
    have hkeys := Dict.length_keys_setAll_iff (Dict.empty : Dict String Json)
      (ManifestStore.keyed (validManifests dir))
    rw [keyed_fst, Dict.keys_empty, List.length_nil, Nat.zero_add] at hkeys
    have hlen :
        (ManifestStore.keyed (validManifests dir)).length = (validManifests dir).length := by
      simp [ManifestStore.keyed]
    refine ⟨fun h => ⟨hcaught, ?_⟩, fun h => ⟨?_, fun id => ?_⟩⟩
    · have hcounts := h.counts
      rw [ManifestStore.reload_eq, hcount, hmanifests, Except.ok.injEq] at hcounts
      exact (hkeys.mp (hcounts.symm.trans hlen.symm)).1
    · rw [ManifestStore.reload_eq, hcount, hmanifests]
      have hall := hkeys.mpr ⟨h.distinct, by simp⟩
      exact congrArg Except.ok (hlen.symm.trans hall.symm)
    · rw [ManifestStore.reload_eq, ManifestStore.get, hmanifests]
      exact ManifestStore.get_setAll_keyed _ id
  · refine iff_of_false (fun h => ?_) fun h => hcaught h.caught
    simp only [not_forall, Bool.not_eq_false] at hcaught
    obtain ⟨f, hf, huncaught⟩ := hcaught
    have hcounts := h.counts
    rw [ManifestStore.reload_eq, ManifestStore.loadFiles_uncaught hf huncaught] at hcounts
    cases hcounts

/-! ### A file in another encoding, and an id in two files -/

def latinDirectory : Directory :=
  Dict.ofList [("a.json", .content .unicodeError),
    ("poster.json", .content (.value posterManifest))]

def twinDirectory : Directory :=
  Dict.ofList [("a.json", .content (.value posterManifest)),
    ("b.json", .content (.value posterManifest))]

/-- The first raises before the valid manifest is loaded, the second is counted as two. -/
theorem reload_incomplete : ¬ ReloadsCompletely posterStore (some latinDirectory) ∧
    ¬ ReloadsCompletely posterStore (some twinDirectory) := by
  refine ⟨fun h => ?_, fun h => ?_⟩
  · have hcounts := h.counts
    revert hcounts
    decide +kernel
  · have hcounts := h.counts
    revert hcounts
    decide +kernel

end AdaptiveAdvertisement.Player
