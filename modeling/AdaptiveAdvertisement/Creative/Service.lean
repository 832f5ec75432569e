import AdaptiveAdvertisement.Creative.ManifestStore
import AdaptiveAdvertisement.Player.ManifestReload

/-!
# The creative service (`creative/main.py`, `creative/api.py`)

The service loads its directory once, reads the status of the store, and answers requests from it
until it ends. Times are read manifest by manifest: `clock id` is the reading for the manifest `id`.

Source lines: `load_directory` 92-119, `list_manifests` 158-177, `status` 183-192 of
`manifest_store.py`; `run` 34-86 of `main.py`; the routes 47-113 of `api.py`.
-/

namespace AdaptiveAdvertisement.Creative
open Library Contracts Player

variable {τ : Type}

structure ManifestSummary where
  manifestId : String
  approved : Bool
  expired : Bool
  itemCount : ℕ
  approvedAt : Json
  expiresAt : Json

def ManifestSummary.toJson (s : ManifestSummary) : Json :=
  .obj [("manifest_id", .str s.manifestId), ("approved", .bool s.approved),
    ("expired", .bool s.expired), ("item_count", .int s.itemCount),
    ("approved_at", s.approvedAt), ("expires_at", s.expiresAt)]

structure StoreStatus where
  totalStored : ℕ
  approvedActive : ℕ
  loadErrors : ℕ

structure HttpResponse where
  status : ℕ
  body : Option Json

/-- The answer to a request of which the handler raises. -/
def internalError : HttpResponse := ⟨500, none⟩

/-- A list of the schema is one of JSON. -/
def itemCount (manifest : Json) : ℕ :=
  match manifest.get? "items" with
  | some (.arr items) => items.length
  | _ => 0

namespace ManifestStore

/-- One file of `load_directory`, and whether it was loaded. A text beyond the limit of digits
raises `ValueError`, one that is nested too deep raises what is not caught. -/
def loadFile (digits : Bool) (st : ManifestStore) : FileRead → ManifestStore × Except Raised Bool
  | .osError => (st.refuse, .ok false)
  | .content .decodeError => (st.refuse, .ok false)
  -- taken for a refusal of the store, which has counted its own
  | .content .unicodeError => (st, .ok false)
  | .content .raised => (st, if digits then .ok false else .error .loadError)
  | .content (.value data) => ((st.store data).1, .ok (st.store data).2.isOk)

def loadFiles (digits : String → Bool) (st : ManifestStore) :
    List (String × FileRead) → ManifestStore × Except Raised ℕ
  | [] => (st, .ok 0)
  | f :: fs =>
    match st.loadFile (digits f.1) f.2 with
    | (st', .error e) => (st', .error e)
    | (st', .ok loaded) =>
      let rest := loadFiles digits st' fs
      (rest.1, rest.2.map fun n => if loaded then n + 1 else n)

def loadDirectory (digits : String → Bool) (st : ManifestStore) :
    Option Directory → ManifestStore × Except Raised ℕ
  | none => (st, .ok 0)
  | some dir => st.loadFiles digits (Player.ManifestStore.jsonFiles dir)

variable (rt : Runtime τ) (st : ManifestStore) (clock : String → ℚ)

def summarize (manifest : Json) : Except Raised ManifestSummary :=
  (if isApproved manifest then isExpired rt manifest (clock (manifestId manifest))
    else .ok false).map fun expired =>
      { manifestId := manifestId manifest
        approved := isApproved manifest
        expired := expired
        itemCount := itemCount manifest
        approvedAt := (manifest.get? "approved_at").getD .null
        expiresAt := (manifest.get? "expires_at").getD .null }

def listManifests : Except Raised (List ManifestSummary) :=
  (st.manifests.entries.mapM fun e => summarize rt clock e.2).map fun summaries =>
    summaries.insertionSort fun a b => a.manifestId ≤ b.manifestId

def active (manifest : Json) : Except Raised Bool :=
  if isApproved manifest then
    (isExpired rt manifest (clock (manifestId manifest))).map fun expired => !expired
  else .ok false

def status : Except Raised StoreStatus :=
  (st.manifests.entries.mapM fun e => active rt clock e.2).map fun actives =>
    { totalStored := st.manifests.entries.length
      approvedActive := actives.countP id
      loadErrors := st.loadErrors }

/-! ### The routes -/

def manifestError (error manifestId : String) : Json :=
  .obj [("error", .str error), ("manifest_id", .str manifestId)]

def getManifest (manifestId : String) (now : ℚ) : HttpResponse :=
  match st.get rt manifestId now with
  | .error _ => internalError
  | .ok .notFound => ⟨404, some (manifestError "manifest_not_found" manifestId)⟩
  | .ok .unapproved => ⟨403, some (manifestError "manifest_not_approved" manifestId)⟩
  | .ok .expired => ⟨410, some (manifestError "manifest_expired" manifestId)⟩
  | .ok (.manifest manifest) => ⟨200, some manifest⟩

def getManifests : HttpResponse :=
  match st.listManifests rt clock with
  | .error _ => internalError
  | .ok summaries => ⟨200, some (.arr (summaries.map ManifestSummary.toJson))⟩

def readyz (isReady : Bool) : HttpResponse :=
  if !isReady then
    ⟨503, some (.obj [("status", .str "not_ready"), ("reason", .str "startup_in_progress")])⟩
  else
    match st.status rt clock with
    | .error _ => internalError
    | .ok s => ⟨200, some (.obj [("status", .str "ok"), ("total_stored", .int s.totalStored),
        ("approved_active", .int s.approvedActive), ("load_errors", .int s.loadErrors)])⟩

end ManifestStore

/-- Why the service does not come up: it ends itself, or what it raises ends it. -/
inductive StartFailure where
  | noDirectory
  | raised (e : Raised)

def start (rt : Runtime τ) (digits : String → Bool) (clock : String → ℚ)
    (dir : Option Directory) : Except StartFailure ManifestStore :=
  match dir with
  | none => .error .noDirectory
  | some _ =>
    match (ManifestStore.empty.loadDirectory digits dir).2 with
    | .error e => .error (.raised e)
    | .ok _ =>
      match (ManifestStore.empty.loadDirectory digits dir).1.status rt clock with
      | .error e => .error (.raised e)
      | .ok _ => .ok (ManifestStore.empty.loadDirectory digits dir).1

/-! ### What a directory leaves in the store -/

/-- The manifest that is loaded of a file. -/
def approvedManifest (f : String × FileRead) : Option Json := (validManifest f).filter isApproved

def approvedManifests (dir : Option Directory) : List Json :=
  (manifestFiles dir).filterMap approvedManifest

/-- The file adds to `load_errors`. -/
def counted : String × FileRead → Bool
  | (_, .osError) => true
  | (_, .content .decodeError) => true
  | (_, .content (.value data)) => !(creativeManifest data && isApproved data)
  | _ => false

/-- The file ends the loop. -/
def nested (digits : String → Bool) : String × FileRead → Bool
  | (name, .content .raised) => !digits name
  | _ => false

namespace ManifestStore

section Load

variable {digits : String → Bool} {f : String × FileRead} {files : List (String × FileRead)}

/-- What a file does to the store if it does not end the loop. -/
structure Loads (st : ManifestStore) (f : String × FileRead) (st' : ManifestStore) : Prop where
  manifests : st'.manifests =
    st.manifests.setAll (Player.ManifestStore.keyed (approvedManifest f).toList)
  loadErrors : st'.loadErrors = st.loadErrors + if counted f then 1 else 0

theorem approvedManifest_value (name : String) (data : Json) :
    approvedManifest (name, .content (.value data)) =
      if creativeManifest data && isApproved data then some data else none := by
  cases hvalid : creativeManifest data <;> cases happroved : isApproved data <;>
    simp [approvedManifest, validManifest, hvalid, Option.filter, happroved]

theorem store_loads (st : ManifestStore) (name : String) (data : Json) :
    Loads st (name, .content (.value data)) (st.store data).1 ∧
      (st.store data).2.isOk = (approvedManifest (name, .content (.value data))).isSome := by
  rw [approvedManifest_value]
  cases hvalid : creativeManifest data with
  | false =>
    refine ⟨⟨?_, ?_⟩, ?_⟩
    · simp [store, hvalid, refuse, approvedManifest_value, Player.ManifestStore.keyed]
    · simp [store, hvalid, refuse, counted]
    · simp [store, hvalid, Except.isOk, Except.toBool]
  | true =>
    cases happroved : isApproved data with
    | false =>
      refine ⟨⟨?_, ?_⟩, ?_⟩
      · simp [store, hvalid, happroved, refuse, approvedManifest_value,
          Player.ManifestStore.keyed]
      · simp [store, hvalid, happroved, refuse, counted]
      · simp [store, hvalid, happroved, Except.isOk, Except.toBool]
    | true =>
      refine ⟨⟨?_, ?_⟩, ?_⟩
      · simp [store, hvalid, happroved, approvedManifest_value, Player.ManifestStore.keyed]
      · simp [store, hvalid, happroved, counted]
      · simp [store, hvalid, happroved, Except.isOk, Except.toBool]

theorem loadFile_caught (st : ManifestStore) (h : nested digits f = false) :
    ∃ st', st.loadFile (digits f.1) f.2 = (st', .ok (approvedManifest f).isSome) ∧
      Loads st f st' := by
  obtain ⟨name, file⟩ := f
  cases file with
  | osError => exact ⟨st.refuse, rfl, rfl, rfl⟩
  | content l =>
    cases l with
    | decodeError => exact ⟨st.refuse, rfl, rfl, rfl⟩
    | unicodeError => exact ⟨st, rfl, rfl, rfl⟩
    | raised =>
      have hdigits : digits name = true := by simpa [nested] using h
      exact ⟨st, by simp only [loadFile, hdigits, if_true]; rfl, rfl, rfl⟩
    | value data =>
      obtain ⟨hloads, hok⟩ := store_loads st name data
      exact ⟨(st.store data).1, by rw [← hok]; rfl, hloads⟩

theorem loadFiles_caught (st : ManifestStore) (h : ∀ f ∈ files, nested digits f = false) :
    (st.loadFiles digits files).1.manifests = st.manifests.setAll
        (Player.ManifestStore.keyed (files.filterMap approvedManifest)) ∧
      (st.loadFiles digits files).1.loadErrors = st.loadErrors + files.countP counted ∧
      (st.loadFiles digits files).2 = .ok (files.filterMap approvedManifest).length := by
  induction files generalizing st with
  | nil => exact ⟨rfl, rfl, rfl⟩
  | cons f fs ih =>
    obtain ⟨hfile, hrest⟩ := List.forall_mem_cons.mp h
    obtain ⟨st', hload, hloads⟩ := loadFile_caught st hfile
    obtain ⟨hmanifests, herrors, hcount⟩ := ih st' hrest
    simp only [loadFiles, hload, hcount, hmanifests, herrors, hloads.manifests, hloads.loadErrors,
      List.countP_cons]
    cases happroved : approvedManifest f with
    | none =>
      rw [List.filterMap_cons_none happroved]
      refine ⟨rfl, ?_, rfl⟩
      omega
    | some m =>
      rw [List.filterMap_cons_some happroved]
      refine ⟨rfl, ?_, rfl⟩
      omega

theorem loadFiles_nested (st : ManifestStore) (hf : f ∈ files) (h : nested digits f = true) :
    (st.loadFiles digits files).2 = .error .loadError := by
  induction files generalizing st with
  | nil => cases hf
  | cons g gs ih =>
    cases hg : nested digits g with
    | true =>
      obtain ⟨name, file⟩ := g
      rcases file with _ | (_ | _ | _ | _) <;> simp [nested] at hg
      simp [loadFiles, loadFile, hg]
    | false =>
      obtain ⟨st', hload, -⟩ := loadFile_caught st hg
      have hmem : f ∈ gs := by
        rcases List.mem_cons.mp hf with rfl | hmem
        · rw [hg] at h
          cases h
        · exact hmem
      simp only [loadFiles, hload, ih st' hmem]
      rfl

end Load

end ManifestStore

/-! ### The law -/

/-- The expiry has passed; a time without a zone is left out. -/
def expiredNow (now : ℚ) : Option ParsedTime → Bool
  | some (.invalid _) => true
  | some (.aware expiry) => decide (expiry ≤ now)
  | _ => false

/-- The answer for what the directory holds under an id. -/
def answerFor (rt : Runtime τ) (id : String) (now : ℚ) : Option Json → HttpResponse
  | none => ⟨404, some (ManifestStore.manifestError "manifest_not_found" id)⟩
  | some m =>
    if expiredNow now (Player.ManifestStore.parsedExpiry rt m) then
      ⟨410, some (ManifestStore.manifestError "manifest_expired" id)⟩
    else ⟨200, some m⟩

def summaryOf (rt : Runtime τ) (clock : String → ℚ) (m : Json) : ManifestSummary where
  manifestId := manifestId m
  approved := true
  expired := expiredNow (clock (manifestId m)) (Player.ManifestStore.parsedExpiry rt m)
  itemCount := itemCount m
  approvedAt := (m.get? "approved_at").getD .null
  expiresAt := (m.get? "expires_at").getD .null

/-- No request raises or finds an unapproved manifest, and the answers agree: the list has each id
that is served once, in order, and the status counts it. -/
structure Serves (rt : Runtime τ) (dir : Option Directory) (service : ManifestStore) : Prop where
  answers : ∀ id now,
    service.getManifest rt id now = answerFor rt id now (lastWith id (approvedManifests dir))
  lists : ∀ clock, ∃ summaries, service.listManifests rt clock = .ok summaries ∧
    (summaries.map ManifestSummary.manifestId).Pairwise (· < ·) ∧
    (∀ x, x ∈ summaries ↔ ∃ id m, lastWith id (approvedManifests dir) = some m ∧
      x = summaryOf rt clock m) ∧
    service.status rt clock = .ok
      { totalStored := summaries.length
        approvedActive := summaries.countP fun x => !x.expired
        loadErrors := (manifestFiles dir).countP counted }

/-- The endpoint of the list and that of readiness tell of the same manifests. -/
theorem Serves.endpoints_agree {rt : Runtime τ} {dir : Option Directory} {service : ManifestStore}
    (h : Serves rt dir service) (clock : String → ℚ) :
    ∃ summaries : List ManifestSummary,
      service.getManifests rt clock = ⟨200, some (.arr (summaries.map ManifestSummary.toJson))⟩ ∧
      service.readyz rt clock true = ⟨200, some (.obj [("status", .str "ok"),
        ("total_stored", .int summaries.length),
        ("approved_active", .int (summaries.countP fun x => !x.expired)),
        ("load_errors", .int ((manifestFiles dir).countP counted))])⟩ := by
  obtain ⟨summaries, hlist, -, -, hstatus⟩ := h.lists clock
  refine ⟨summaries, ?_, ?_⟩
  · rw [ManifestStore.getManifests, hlist]
  · simp only [ManifestStore.readyz, hstatus, Bool.not_true, Bool.false_eq_true, if_false]

/-- One manifest that expires at a time without a zone keeps the service from coming up. -/
structure Startable (rt : Runtime τ) (digits : String → Bool) (dir : Option Directory) :
    Prop where
  present : dir ≠ none
  caught : ∀ f ∈ manifestFiles dir, nested digits f = false
  zoned : ∀ id m, lastWith id (approvedManifests dir) = some m →
    Player.ManifestStore.parsedExpiry rt m ≠ some .naive

namespace ManifestStore

section Zoned

variable {rt : Runtime τ} {st : ManifestStore} {m : Json}

theorem expiredAt_zoned (now : ℚ) {parsed : Option ParsedTime} (h : parsed ≠ some .naive) :
    expiredAt now parsed = .ok (expiredNow now parsed) := by
  cases parsed with
  | none => rfl
  | some time =>
    cases time with
    | invalid message => rfl
    | naive => exact absurd rfl h
    | aware expiry => rfl

theorem mem_stored {e : String × Json} (h : e ∈ st.manifests.entries) :
    creativeManifest e.2 = true ∧ isApproved e.2 = true ∧ st.manifests.get (manifestId e.2) =
      some e.2 := by
  obtain ⟨hvalid, happroved, hid⟩ := st.valid e h
  refine ⟨hvalid, happroved, ?_⟩
  rw [Dict.get_eq_some_iff, hid]
  exact h

/-- No stored manifest expires at a time without a zone. -/
def Zoned (rt : Runtime τ) (st : ManifestStore) : Prop :=
  ∀ id m, st.manifests.get id = some m → Player.ManifestStore.parsedExpiry rt m ≠ some .naive

theorem summarize_zoned (h : Zoned rt st) (clock : String → ℚ) {e : String × Json}
    (he : e ∈ st.manifests.entries) : summarize rt clock e.2 = .ok (summaryOf rt clock e.2) := by
  obtain ⟨hvalid, happroved, hget⟩ := mem_stored he
  rw [summarize, if_pos happroved, isExpired_eq hvalid, expiredAt_zoned _ (h _ _ hget), happroved]
  rfl

theorem active_zoned (h : Zoned rt st) (clock : String → ℚ) {e : String × Json}
    (he : e ∈ st.manifests.entries) :
    active rt clock e.2 = .ok (!(summaryOf rt clock e.2).expired) := by
  obtain ⟨hvalid, happroved, hget⟩ := mem_stored he
  rw [active, if_pos happroved, isExpired_eq hvalid, expiredAt_zoned _ (h _ _ hget)]
  rfl

theorem mapM_stored {α : Type} {f : Json → Except Raised α} {g : Json → α}
    (h : ∀ e ∈ st.manifests.entries, f e.2 = .ok (g e.2)) :
    st.manifests.entries.mapM (fun e => f e.2) = .ok (st.manifests.entries.map fun e => g e.2) := by
  refine mapM_of_forall₂ (List.forall₂_map_right_iff.mpr ?_)
  exact List.forall₂_same.mpr h

/-- The status can be read exactly where no expiry is without a zone. -/
theorem status_isOk_iff (rt : Runtime τ) (st : ManifestStore) (clock : String → ℚ) :
    (∃ s, st.status rt clock = .ok s) ↔ Zoned rt st := by
  rw [status, map_isOk_iff, mapM_isOk_iff]
  refine ⟨fun h id m hget => ?_, fun h e he => ⟨_, active_zoned h clock he⟩⟩
  have hmem := (Dict.get_eq_some_iff st.manifests id m).mp hget
  obtain ⟨hvalid, happroved, -⟩ := mem_stored hmem
  have hactive := h (id, m) hmem
  simp only [active, happroved, if_true, isExpired_eq hvalid] at hactive
  exact (expiredAt_raises_iff _ _).mp ((map_isOk_iff _ _).mp hactive)

theorem getManifest_zoned (h : Zoned rt st) (id : String) (now : ℚ) :
    st.getManifest rt id now = answerFor rt id now (st.manifests.get id) := by
  unfold getManifest
  cases hget : st.manifests.get id with
  | none => simp [get, hget, answerFor]
  | some m =>
    rw [get_stored hget, isExpired_eq (stored_valid hget).1, expiredAt_zoned now (h id m hget)]
    cases hexpired : expiredNow now (Player.ManifestStore.parsedExpiry rt m) <;>
      simp [answerFor, hexpired, Except.map]

theorem listManifests_zoned (h : Zoned rt st) (clock : String → ℚ) :
    st.listManifests rt clock = .ok ((st.manifests.entries.map fun e =>
      summaryOf rt clock e.2).insertionSort fun a b => a.manifestId ≤ b.manifestId) := by
  rw [listManifests, mapM_stored fun e he => summarize_zoned h clock he]
  rfl

theorem status_zoned (h : Zoned rt st) (clock : String → ℚ) :
    st.status rt clock = .ok
      { totalStored := st.manifests.entries.length
        approvedActive := (st.manifests.entries.map fun e => summaryOf rt clock e.2).countP
          fun x => !x.expired
        loadErrors := st.loadErrors } := by
  rw [status, mapM_stored (g := fun m => !(summaryOf rt clock m).expired)
    fun e he => active_zoned h clock he]
  simp [Except.map, List.countP_map, Function.comp_def]

end Zoned

theorem summaries_ids (rt : Runtime τ) (st : ManifestStore) (clock : String → ℚ) :
    (st.manifests.entries.map fun e => summaryOf rt clock e.2).map ManifestSummary.manifestId =
      st.manifests.keys := by
  rw [List.map_map]
  exact List.map_congr_left fun e he => (st.valid e he).2.2

/-- The list is strictly sorted, since no id is stored twice. -/
theorem sorted_ids {summaries : List ManifestSummary}
    (h : (summaries.map ManifestSummary.manifestId).Nodup) :
    ((summaries.insertionSort fun a b => a.manifestId ≤ b.manifestId).map
      ManifestSummary.manifestId).Pairwise (· < ·) := by
  have htotal : Std.Total fun a b : ManifestSummary => a.manifestId ≤ b.manifestId :=
    ⟨fun a b => String.le_total a.manifestId b.manifestId⟩
  have htrans : IsTrans ManifestSummary fun a b => a.manifestId ≤ b.manifestId :=
    ⟨fun _ _ _ => String.le_trans⟩
  have hsorted := List.pairwise_insertionSort
    (fun a b : ManifestSummary => a.manifestId ≤ b.manifestId) summaries
  have hperm := List.perm_insertionSort
    (fun a b : ManifestSummary => a.manifestId ≤ b.manifestId) summaries
  have hnodup := (hperm.map ManifestSummary.manifestId).nodup_iff.mpr h
  refine (List.Pairwise.and (List.pairwise_map.mpr hsorted) hnodup).imp ?_
  rintro a b ⟨hle, hne⟩
  exact String.not_le.mp fun hge => hne (String.le_antisymm hle hge)

theorem serves_of_zoned {rt : Runtime τ} {dir : Option Directory} {st : ManifestStore}
    (h : Zoned rt st) (hheld : ∀ id, st.manifests.get id = lastWith id (approvedManifests dir))
    (herrors : st.loadErrors = (manifestFiles dir).countP counted) : Serves rt dir st := by
  refine ⟨fun id now => ?_, fun clock => ?_⟩
  · rw [getManifest_zoned h, hheld]
  · have hids := summaries_ids rt st clock
    have hperm := List.perm_insertionSort
      (fun a b : ManifestSummary => a.manifestId ≤ b.manifestId)
      (st.manifests.entries.map fun e => summaryOf rt clock e.2)
    refine ⟨_, listManifests_zoned h clock, sorted_ids ?_, fun x => ?_, ?_⟩
    · rw [hids]
      exact st.manifests.nodup
    · rw [hperm.mem_iff, List.mem_map]
      refine ⟨?_, ?_⟩
      · rintro ⟨e, he, rfl⟩
        exact ⟨e.1, e.2, (hheld e.1).symm.trans ((Dict.get_eq_some_iff _ _ _).mpr he), rfl⟩
      · rintro ⟨id, m, hm, rfl⟩
        exact ⟨(id, m), (Dict.get_eq_some_iff _ _ _).mp ((hheld id).trans hm), rfl⟩
    · rw [status_zoned h, hperm.countP_eq, hperm.length_eq, List.length_map, herrors]

/-- A directory without nested files is loaded whole. -/
theorem loadDirectory_held {digits : String → Bool} {dir : Option Directory}
    (h : ∀ f ∈ manifestFiles dir, nested digits f = false) :
    (∀ id, (empty.loadDirectory digits dir).1.manifests.get id =
        lastWith id (approvedManifests dir)) ∧
      (empty.loadDirectory digits dir).1.loadErrors = (manifestFiles dir).countP counted ∧
      ∃ n, (empty.loadDirectory digits dir).2 = .ok n := by
  have hload : empty.loadDirectory digits dir = empty.loadFiles digits (manifestFiles dir) := by
    cases dir <;> rfl
  obtain ⟨hmanifests, herrors, hcount⟩ := loadFiles_caught empty h
  rw [hload]
  refine ⟨fun id => ?_, herrors.trans (Nat.zero_add _), _, hcount⟩
  rw [hmanifests]
  exact Player.ManifestStore.get_setAll_keyed _ id

end ManifestStore

theorem start_ok_iff (rt : Runtime τ) (digits : String → Bool) (clock : String → ℚ)
    (dir : Option Directory) (service : ManifestStore) :
    start rt digits clock dir = .ok service ↔
      dir ≠ none ∧ (∃ n, (ManifestStore.empty.loadDirectory digits dir).2 = .ok n) ∧
        (∃ s, (ManifestStore.empty.loadDirectory digits dir).1.status rt clock = .ok s) ∧
        service = (ManifestStore.empty.loadDirectory digits dir).1 := by
  unfold start
  cases dir with
  | none => simp
  | some d =>
    cases hload : (ManifestStore.empty.loadDirectory digits (some d)).2 with
    | error e => simp
    | ok n =>
      cases hstatus : (ManifestStore.empty.loadDirectory digits (some d)).1.status rt clock with
      | error e => simp
      | ok s => simp [eq_comm]

section Start

variable {rt : Runtime τ} {digits : String → Bool} {clock : String → ℚ}
  {dir : Option Directory}

theorem caught_of_loaded {n : ℕ} (h : (ManifestStore.empty.loadDirectory digits dir).2 = .ok n) :
    ∀ f ∈ manifestFiles dir, nested digits f = false := by
  intro f hf
  by_contra hnested
  have hload : ManifestStore.empty.loadDirectory digits dir =
      ManifestStore.empty.loadFiles digits (manifestFiles dir) := by
    cases dir <;> rfl
  rw [hload, ManifestStore.loadFiles_nested _ hf (Bool.not_eq_false _ ▸ hnested)] at h
  cases h

theorem start_iff_startable :
    (∃ service, start rt digits clock dir = .ok service) ↔ Startable rt digits dir := by
  refine ⟨?_, fun h => ?_⟩
  · rintro ⟨service, h⟩
    obtain ⟨hpresent, ⟨n, hload⟩, hstatus, -⟩ :=
      (start_ok_iff rt digits clock dir service).mp h
    have hcaught := caught_of_loaded hload
    refine ⟨hpresent, hcaught, fun id m hm => ?_⟩
    rw [← (ManifestStore.loadDirectory_held hcaught).1 id] at hm
    exact (ManifestStore.status_isOk_iff rt _ clock).mp hstatus id m hm
  · obtain ⟨hheld, -, hload⟩ := ManifestStore.loadDirectory_held h.caught
    refine ⟨_, (start_ok_iff rt digits clock dir _).mpr ⟨h.present, hload, ?_, rfl⟩⟩
    refine (ManifestStore.status_isOk_iff rt _ clock).mpr fun id m hm => h.zoned id m ?_
    rw [← hheld id, hm]

theorem serves_of_start {service : ManifestStore} (h : start rt digits clock dir = .ok service) :
    Serves rt dir service := by
  obtain ⟨-, ⟨n, hload⟩, hstatus, rfl⟩ := (start_ok_iff rt digits clock dir service).mp h
  obtain ⟨hheld, herrors, -⟩ := ManifestStore.loadDirectory_held (caught_of_loaded hload)
  exact ManifestStore.serves_of_zoned ((ManifestStore.status_isOk_iff rt _ clock).mp hstatus)
    hheld herrors

theorem answerFor_ok_iff {id : String} {now : ℚ} {held : Option Json} {m : Json} :
    answerFor rt id now held = ⟨200, some m⟩ ↔
      held = some m ∧ expiredNow now (Player.ManifestStore.parsedExpiry rt m) = false := by
  cases held with
  | none => simp [answerFor]
  | some m' =>
    rw [answerFor, Option.some.injEq]
    split_ifs with hexpired
    · refine iff_of_false (by simp) ?_
      rintro ⟨rfl, hfresh⟩
      rw [hfresh] at hexpired
      cases hexpired
    · refine ⟨fun h => ?_, ?_⟩
      · obtain rfl : m' = m := by simpa using h
        exact ⟨rfl, Bool.not_eq_true _ ▸ hexpired⟩
      · rintro ⟨rfl, -⟩
        rfl

end Start

/-- The service comes up exactly on a startable directory, and from then on it serves what the
directory held then. -/
theorem started_serves (rt : Runtime τ) (digits : String → Bool) (clock : String → ℚ)
    (dir : Option Directory) :
    ((∃ service, start rt digits clock dir = .ok service) ↔ Startable rt digits dir) ∧
      ∀ service, start rt digits clock dir = .ok service → Serves rt dir service :=
  ⟨start_iff_startable, fun _ h => serves_of_start h⟩

end AdaptiveAdvertisement.Creative
