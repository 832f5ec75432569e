import AdaptiveAdvertisement.Contracts
import Mathlib.Data.List.Sort

/-!
# The manifest store (`player/manifest_store.py`)

The player's registry of approved manifests. A manifest enters it only through the ICD-5
schema and under its own `manifest_id`, which the store carries as a field.

Source lines: `load_from_disk` 63-101, `reload` 103-120, `put` 122-134 (of its rejection only
that there is one), `check_manifest` 143-164. An absent directory is `none`.
-/

namespace AdaptiveAdvertisement.Player
open Library Contracts

/-- What `datetime.fromisoformat` makes of a string: nothing, with the text of its error, a
datetime without a time zone, or an instant. -/
inductive ParsedTime where
  | invalid (message : String)
  | naive
  | aware (instant : ℚ)
  deriving DecidableEq

structure Runtime (τ : Type) extends Codec τ where
  fromisoformat : String → ParsedTime

/-- For runs in which no date is read. -/
def jsonRuntime : Runtime Json where
  toCodec := jsonCodec
  fromisoformat := fun _ => .invalid "not a date"

def withUtcOffset (s : String) : String :=
  String.ofList (s.toList.flatMap fun c => if c = 'Z' then "+00:00".toList else [c])

def manifestId (manifest : Json) : String :=
  ((manifest.get? "manifest_id").bind Json.asStr?).getD ""

theorem get?_manifestId {manifest : Json} (h : creativeManifest manifest = true) :
    manifest.get? "manifest_id" = some (.str (manifestId manifest)) := by
  obtain ⟨v, hv, hid⟩ := Schema.object_required (k := "manifest_id") (s := identifier) h
    (by simp) (by simp)
  obtain ⟨s, rfl, -⟩ := identifier_iff.mp hid
  simp [manifestId, hv]

structure ManifestStore where
  manifests : Dict String Json
  valid : ∀ e ∈ manifests.entries, creativeManifest e.2 = true ∧ manifestId e.2 = e.1

namespace ManifestStore

variable {τ : Type}

def empty : ManifestStore := ⟨Dict.empty, by simp [Dict.empty]⟩

def put (st : ManifestStore) (manifest : Json) : ManifestStore × Bool :=
  if h : creativeManifest manifest = true then
    (⟨st.manifests.set (manifestId manifest) manifest, by
      intro e he
      rcases Dict.mem_entries_set he with rfl | he
      · exact ⟨h, rfl⟩
      · exact st.valid e he⟩, true)
  else (st, false)

/-- The loop of `load_from_disk` over the sorted files. -/
def loadFiles (st : ManifestStore) :
    List (String × FileRead) → ManifestStore × Except Raised ℕ
  | [] => (st, .ok 0)
  | (_, .osError) :: fs => loadFiles st fs
  | (_, .content .decodeError) :: fs => loadFiles st fs
  -- only the two errors above are caught; any other leaves the loop with what is loaded so far
  | (_, .content .unicodeError) :: _ => (st, .error .loadError)
  | (_, .content .raised) :: _ => (st, .error .loadError)
  | (_, .content (.value manifest)) :: fs =>
    if (st.put manifest).2 then
      let rest := loadFiles (st.put manifest).1 fs
      (rest.1, rest.2.map (· + 1))
    else loadFiles st fs

def jsonFiles (dir : Directory) : List (String × FileRead) :=
  (dir.entries.filter fun f => decide (".json".toList <:+ f.1.toList)).insertionSort
    fun a b => a.1 ≤ b.1

def loadFromDisk (st : ManifestStore) : Option Directory → ManifestStore × Except Raised ℕ
  | none => (st, .ok 0)
  | some dir => st.loadFiles (jsonFiles dir)

def reload (_st : ManifestStore) (dir : Option Directory) : ManifestStore × Except Raised ℕ :=
  empty.loadFromDisk dir

def get (st : ManifestStore) (manifestId : String) : Option Json := st.manifests.get manifestId

def present (manifest : Json) (key : String) : Bool := ((manifest.get? key).getD .null).truthy

/-- `check_manifest`: `none` where the manifest may be rendered. -/
def checkManifest (rt : Runtime τ) (manifest : Json) (utcNow : ℚ) :
    Except Raised (Option String) :=
  if !present manifest "approved_at" || !present manifest "approved_by" then
    .ok (some "missing_approval_fields")
  else
    match manifest.get? "expires_at" with
    | none => .ok none
    | some (.str expiresAt) =>
      if expiresAt = "" then .ok none
      else
        match rt.fromisoformat (withUtcOffset expiresAt) with
        | .invalid message => .ok (some ("invalid_expires_at:" ++ message))
        -- the comparison with `datetime.now(timezone.utc)`, of which only `ValueError` is caught
        | .naive => .error .typeError
        | .aware expiry =>
          if expiry < utcNow then .ok (some ("expired_at:" ++ expiresAt)) else .ok none
    | some v => if v.truthy then .error .attributeError else .ok none

theorem get_valid {st : ManifestStore} {id : String} {manifest : Json}
    (h : st.get id = some manifest) :
    creativeManifest manifest = true ∧ manifestId manifest = id :=
  st.valid (id, manifest) ((Dict.get_eq_some_iff _ _ _).mp h)

/-! ### What loading leaves in the store -/

theorem get_put (st : ManifestStore) (manifest : Json) (id : String) :
    (st.put manifest).1.get id =
      if creativeManifest manifest = true ∧ id = manifestId manifest then some manifest
      else st.get id := by
  by_cases h : creativeManifest manifest = true
  · simp [put, h, get, Dict.get_set]
  · simp [put, h]

theorem put_rejected {st : ManifestStore} {manifest : Json} (h : (st.put manifest).2 = false) :
    (st.put manifest).1 = st := by
  by_cases hv : creativeManifest manifest = true
  · simp [put, hv] at h
  · simp [put, hv]

theorem loadFiles_value (st : ManifestStore) (name : String) (manifest : Json)
    (fs : List (String × FileRead)) :
    (st.loadFiles ((name, .content (.value manifest)) :: fs)).1 =
      ((st.put manifest).1.loadFiles fs).1 := by
  cases h : (st.put manifest).2 with
  | true => simp [loadFiles, h]
  | false => simp [loadFiles, h, put_rejected h]

theorem loadFiles_source {files : List (String × FileRead)} {st : ManifestStore} {id : String}
    {manifest : Json} (h : (st.loadFiles files).1.get id = some manifest) :
    st.get id = some manifest ∨
      ∃ f ∈ files, f.2 = .content (.value manifest) ∧ creativeManifest manifest = true ∧
        manifestId manifest = id := by
  induction files generalizing st with
  | nil => exact Or.inl h
  | cons f fs ih =>
    obtain ⟨name, file⟩ := f
    have hrest : ∀ st' : ManifestStore, (st'.loadFiles fs).1.get id = some manifest →
        st'.get id = some manifest ∨ ∃ f ∈ (name, file) :: fs,
          f.2 = .content (.value manifest) ∧ creativeManifest manifest = true ∧
            manifestId manifest = id := by
      intro st' h'
      rcases ih h' with hst | ⟨f, hf, hrow⟩
      · exact Or.inl hst
      · exact Or.inr ⟨f, List.mem_cons_of_mem _ hf, hrow⟩
    cases file with
    | osError => exact hrest st h
    | content l =>
      cases l with
      | decodeError => exact hrest st h
      | unicodeError => exact Or.inl h
      | raised => exact Or.inl h
      | value j =>
        rw [loadFiles_value] at h
        rcases hrest _ h with hst | hfile
        · rw [get_put] at hst
          by_cases hj : creativeManifest j = true ∧ id = manifestId j
          · rw [if_pos hj, Option.some.injEq] at hst
            subst hst
            exact Or.inr ⟨_, List.mem_cons_self, rfl, hj.1, hj.2.symm⟩
          · rw [if_neg hj] at hst
            exact Or.inl hst
        · exact Or.inr hfile

/-- When every file is readable and only `manifest` claims the id `id`, it is what the store
holds under it. -/
theorem loadFiles_unique {files : List (String × FileRead)} {st : ManifestStore} {id : String}
    {manifest : Json} (hclean : ∀ f ∈ files, ∃ j, f.2 = .content (.value j))
    (hvalid : creativeManifest manifest = true) (hid : manifestId manifest = id)
    (hunique : ∀ f ∈ files, ∀ j, f.2 = .content (.value j) → creativeManifest j = true →
      manifestId j = id → j = manifest)
    (h : st.get id = some manifest ∨ ∃ f ∈ files, f.2 = .content (.value manifest)) :
    (st.loadFiles files).1.get id = some manifest := by
  induction files generalizing st with
  | nil =>
    rcases h with hst | ⟨f, hf, -⟩
    · exact hst
    · cases hf
  | cons f fs ih =>
    obtain ⟨name, file⟩ := f
    obtain ⟨j, hj⟩ := hclean (name, file) List.mem_cons_self
    simp only at hj
    subst hj
    rw [loadFiles_value]
    refine ih (fun f hf => hclean f (List.mem_cons_of_mem _ hf))
      (fun f hf => hunique f (List.mem_cons_of_mem _ hf)) ?_
    rw [get_put]
    by_cases hput : creativeManifest j = true ∧ id = manifestId j
    · have hjm : j = manifest := hunique _ List.mem_cons_self j rfl hput.1 hput.2.symm
      exact Or.inl (by rw [if_pos hput, hjm])
    · rw [if_neg hput]
      rcases h with hst | ⟨f, hf, hfile⟩
      · exact Or.inl hst
      · rcases List.mem_cons.mp hf with rfl | hf
        · -- the head file is the manifest, so it is put
          simp only [FileRead.content.injEq, Loaded.value.injEq] at hfile
          subst hfile
          exact absurd ⟨hvalid, hid.symm⟩ hput
        · exact Or.inr ⟨f, hf, hfile⟩

theorem mem_jsonFiles (dir : Directory) (f : String × FileRead) :
    f ∈ jsonFiles dir ↔ dir.get f.1 = some f.2 ∧ ".json".toList <:+ f.1.toList := by
  rw [jsonFiles, List.mem_insertionSort, List.mem_filter, Dict.get_eq_some_iff, decide_eq_true_iff]

/-! ### Where the expiry check raises -/

def NaiveExpiry (rt : Runtime τ) (manifest : Json) : Prop :=
  present manifest "approved_at" = true ∧ present manifest "approved_by" = true ∧
    ∃ s, manifest.get? "expires_at" = some (.str s) ∧ s ≠ "" ∧
      rt.fromisoformat (withUtcOffset s) = .naive

theorem get?_expiresAt {manifest : Json} (hvalid : creativeManifest manifest = true) :
    manifest.get? "expires_at" = none ∨ ∃ s, manifest.get? "expires_at" = some (.str s) := by
  cases hx : manifest.get? "expires_at" with
  | none => exact Or.inl rfl
  | some v =>
    have hts : timestamp v = true :=
      Schema.object_property hvalid (k := "expires_at") (by simp) hx
    obtain ⟨s, rfl⟩ := timestamp_iff.mp hts
    exact Or.inr ⟨s, rfl⟩

theorem checkManifest_raises_iff (rt : Runtime τ) {manifest : Json}
    (hvalid : creativeManifest manifest = true) (utcNow : ℚ) :
    (∃ e, checkManifest rt manifest utcNow = .error e) ↔ NaiveExpiry rt manifest := by
  unfold checkManifest NaiveExpiry
  cases ha : present manifest "approved_at" with
  | false => simp
  | true =>
    cases hb : present manifest "approved_by" with
    | false => simp
    | true =>
      rcases get?_expiresAt hvalid with hx | ⟨s, hx⟩
      · simp [hx]
      · simp only [hx]
        by_cases hs : s = ""
        · simp [hs]
        · cases hp : rt.fromisoformat (withUtcOffset s) with
          | invalid message => simp [hs, hp]
          | naive => simp [hs, hp]
          | aware expiry => by_cases he : expiry < utcNow <;> simp [hs, hp, he]

/-! ### The expiry of a valid manifest -/

def approved (manifest : Json) : Bool :=
  present manifest "approved_at" && present manifest "approved_by"

/-- What `expires_at` is read as, where there is one. -/
def parsedExpiry (rt : Runtime τ) (manifest : Json) : Option ParsedTime :=
  match manifest.get? "expires_at" with
  | some (.str s) => if s = "" then none else some (rt.fromisoformat (withUtcOffset s))
  | _ => none

theorem checkManifest_unapproved {rt : Runtime τ} {manifest : Json} {utcNow : ℚ}
    (h : approved manifest = false) :
    checkManifest rt manifest utcNow = .ok (some "missing_approval_fields") := by
  unfold checkManifest
  rw [if_pos (by simpa [approved, ← Bool.not_and] using h)]

/-- The check of an approved manifest is that of its expiry. -/
theorem checkManifest_approved (rt : Runtime τ) {manifest : Json} (utcNow : ℚ)
    (hvalid : creativeManifest manifest = true) (h : approved manifest = true) :
    checkManifest rt manifest utcNow = .ok none ∧
        (parsedExpiry rt manifest = none ∨
          ∃ expiry, parsedExpiry rt manifest = some (.aware expiry) ∧ utcNow ≤ expiry) ∨
      (∃ reason, checkManifest rt manifest utcNow = .ok (some reason)) ∧
        ((∃ message, parsedExpiry rt manifest = some (.invalid message)) ∨
          ∃ expiry, parsedExpiry rt manifest = some (.aware expiry) ∧ expiry < utcNow) ∨
      checkManifest rt manifest utcNow = .error .typeError ∧
        parsedExpiry rt manifest = some .naive := by
  obtain ⟨ha, hb⟩ := Bool.and_eq_true_iff.mp h
  rcases get?_expiresAt hvalid with hx | ⟨s, hx⟩
  · exact Or.inl ⟨by simp [checkManifest, ha, hb, hx], Or.inl (by simp [parsedExpiry, hx])⟩
  · by_cases hs : s = ""
    · exact Or.inl ⟨by simp [checkManifest, ha, hb, hx, hs],
        Or.inl (by simp [parsedExpiry, hx, hs])⟩
    · have hparsed : parsedExpiry rt manifest = some (rt.fromisoformat (withUtcOffset s)) := by
        simp [parsedExpiry, hx, hs]
      cases hp : rt.fromisoformat (withUtcOffset s) with
      | invalid message =>
        rw [hp] at hparsed
        exact Or.inr (Or.inl ⟨⟨_, by simp only [checkManifest, ha, hb, hx, hs, hp]; rfl⟩,
          Or.inl ⟨message, hparsed⟩⟩)
      | naive =>
        rw [hp] at hparsed
        exact Or.inr (Or.inr ⟨by simp [checkManifest, ha, hb, hx, hs, hp], hparsed⟩)
      | aware expiry =>
        rw [hp] at hparsed
        by_cases hlate : expiry < utcNow
        · exact Or.inr
            (Or.inl ⟨⟨_, by simp only [checkManifest, ha, hb, hx, hs, hp, hlate]; rfl⟩,
            Or.inr ⟨expiry, hparsed, hlate⟩⟩)
        · exact Or.inl ⟨by simp [checkManifest, ha, hb, hx, hs, hp, hlate],
            Or.inr ⟨expiry, hparsed, not_lt.mp hlate⟩⟩

end ManifestStore

end AdaptiveAdvertisement.Player
