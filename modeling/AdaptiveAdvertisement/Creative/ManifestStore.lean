import AdaptiveAdvertisement.Player.ManifestStore

/-!
# The manifest store of the creative service (`creative/manifest_store.py`)

A manifest is stored when it is valid and approved, and its expiry is checked when it is served.

Source lines: `__init__` 79-86, `load_manifest` 121-128, `get` 134-156, `_store` 197-219,
`_is_approved` 221-225, `_is_expired` 227-241.
-/

namespace AdaptiveAdvertisement.Creative
open Library Contracts Player

def isApproved (manifest : Json) : Bool :=
  ((manifest.get? "approved_at").getD .null).truthy &&
    ((manifest.get? "approved_by").getD .null).truthy

structure ManifestStore where
  manifests : Dict String Json
  loadErrors : ℕ := 0
  valid : ∀ e ∈ manifests.entries,
    creativeManifest e.2 = true ∧ isApproved e.2 = true ∧ manifestId e.2 = e.1

/-- What `get` answers: a manifest, or the sentinel that tells why there is none. -/
inductive Served where
  | notFound
  | unapproved
  | expired
  | manifest (manifest : Json)

namespace ManifestStore

variable {τ : Type}

def empty : ManifestStore := ⟨Dict.empty, 0, by simp [Dict.empty]⟩

def refuse (st : ManifestStore) : ManifestStore := { st with loadErrors := st.loadErrors + 1 }

/-- `_store`; both failures raise `ValueError`. -/
def store (st : ManifestStore) (data : Json) : ManifestStore × Except Raised Unit :=
  if hvalid : creativeManifest data = true then
    if happroved : isApproved data = true then
      ({ st with
          manifests := st.manifests.set (manifestId data) data
          valid := by
            intro e he
            rcases Dict.mem_entries_set he with rfl | he
            · exact ⟨hvalid, happroved, rfl⟩
            · exact st.valid e he }, .ok ())
    else (st.refuse, .error .valueError)
  else (st.refuse, .error .valueError)

def loadManifest (st : ManifestStore) (data : Json) : ManifestStore × Except Raised String :=
  ((st.store data).1, (st.store data).2.map fun _ => manifestId data)

/-- An expiry that cannot be read counts as passed; comparing one without a time zone raises. -/
def isExpired (rt : Runtime τ) (manifest : Json) (now : ℚ) : Except Raised Bool :=
  match manifest.get? "expires_at" with
  | none => .ok false
  | some (.str expiresAt) =>
    if expiresAt = "" then .ok false
    else
      match rt.fromisoformat (withUtcOffset expiresAt) with
      | .invalid _ => .ok true
      | .naive => .error .typeError
      | .aware expiry => .ok (decide (expiry ≤ now))
  | some v => if v.truthy then .error .attributeError else .ok false

def get (rt : Runtime τ) (st : ManifestStore) (manifestId : String) (now : ℚ) :
    Except Raised Served :=
  match st.manifests.get manifestId with
  | none => .ok .notFound
  | some manifest =>
    if isApproved manifest then
      (isExpired rt manifest now).map fun expired =>
        if expired then .expired else .manifest manifest
    else .ok .unapproved

/-! ### What is stored and served -/

theorem isApproved_eq (manifest : Json) :
    isApproved manifest = Player.ManifestStore.approved manifest := rfl

theorem loaded_get {data : Json} (hvalid : creativeManifest data = true) (st : ManifestStore) :
    (st.loadManifest data).1.manifests.get (manifestId data) =
      if isApproved data then some data else st.manifests.get (manifestId data) := by
  by_cases happroved : isApproved data = true
  · simp [loadManifest, store, hvalid, happroved]
  · simp [loadManifest, store, hvalid, happroved, refuse]

def expiredAt (now : ℚ) : Option ParsedTime → Except Raised Bool
  | none => .ok false
  | some (.invalid _) => .ok true
  | some .naive => .error .typeError
  | some (.aware expiry) => .ok (decide (expiry ≤ now))

theorem isExpired_eq {rt : Runtime τ} {manifest : Json} {now : ℚ}
    (hvalid : creativeManifest manifest = true) :
    isExpired rt manifest now =
      expiredAt now (Player.ManifestStore.parsedExpiry rt manifest) := by
  rcases Player.ManifestStore.get?_expiresAt hvalid with hx | ⟨s, hx⟩
  · simp [isExpired, Player.ManifestStore.parsedExpiry, hx, expiredAt]
  · by_cases hs : s = ""
    · simp [isExpired, Player.ManifestStore.parsedExpiry, hx, hs, expiredAt]
    · cases hp : rt.fromisoformat (withUtcOffset s) <;>
        simp [isExpired, Player.ManifestStore.parsedExpiry, hx, hs, hp, expiredAt]

theorem expiredAt_raises_iff (now : ℚ) (parsed : Option ParsedTime) :
    (∃ expired, expiredAt now parsed = .ok expired) ↔ parsed ≠ some .naive := by
  cases parsed with
  | none => simp [expiredAt]
  | some time => cases time <;> simp [expiredAt]

theorem stored_valid {st : ManifestStore} {id : String} {manifest : Json}
    (h : st.manifests.get id = some manifest) :
    creativeManifest manifest = true ∧ isApproved manifest = true ∧ manifestId manifest = id :=
  st.valid (id, manifest) ((Dict.get_eq_some_iff _ _ _).mp h)

theorem get_stored {rt : Runtime τ} {st : ManifestStore} {id : String} {manifest : Json}
    {now : ℚ} (h : st.manifests.get id = some manifest) :
    get rt st id now = (isExpired rt manifest now).map fun expired =>
      if expired then .expired else .manifest manifest := by
  simp only [get, h, (stored_valid h).2.1, if_true]

end ManifestStore

end AdaptiveAdvertisement.Creative
