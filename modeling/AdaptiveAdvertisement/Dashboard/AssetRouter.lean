import AdaptiveAdvertisement.Dashboard.FailingRequests
import AdaptiveAdvertisement.Library.FileNames

/-!
# The asset router (`dashboard_api/routers/assets.py`)

Creative files on disk, under the ids that they are given, and their rows. An upload is written to
disk piece by piece, while its digest and its size are taken; the row is committed afterwards, and
nothing takes the file away again when that fails. Neither does an archived asset lose its file.
A commit fails too where a row breaks a constraint of the table.

Source lines: `_ALLOWED_EXTENSIONS` and `_detect_asset_type` 32-41, `upload_asset` 71-134,
`get_asset` 137-146, `archive_asset` 149-175; the row `models.py:113-146`, without its surrogate
key, its owner and the time of writing. `list_assets` is a listing of the pagination.
-/

namespace AdaptiveAdvertisement.Dashboard
open Library

inductive AssetStatus where
  | active
  | archived
  deriving DecidableEq

structure Asset where
  assetId : String
  filename : String
  assetType : String
  sizeBytes : ℕ
  sha256 : String
  status : AssetStatus := .active

abbrev Bytes := List UInt8

/-- The rows, and the files of the storage directory. -/
structure AssetLibrary where
  rows : Dict String Asset := Dict.empty
  files : Dict String Bytes := Dict.empty

def assetExtensions : Dict String String :=
  Dict.ofList [(".mp4", "video"), (".webm", "video"), (".jpg", "image"), (".jpeg", "image"),
    (".png", "image"), (".webp", "image"), (".html", "html")]

/-- `Path(filename).suffix`. -/
def pathSuffix (filename : String) : String := suffix (Path.join ⟨.relative, []⟩ filename).name

@[irreducible] def detectAssetType (filename : String) : String :=
  (assetExtensions.get (lower (pathSuffix filename))).getD "unknown"

/-! ### Writing an upload to disk -/

/-- How the disk takes an upload: it may refuse to open the file, or fail in a later write, which
has taken some bytes of its piece by then. The text is that of the `OSError`. -/
inductive UploadDisk where
  | takes
  | refuses (error : String)
  | breaks (pieces bytes : ℕ) (error : String)

/-- What the loop has written, digested and counted. -/
structure UploadLoop where
  written : Bytes := []
  digested : Bytes := []
  sizeBytes : ℕ := 0

def UploadLoop.onChunk (l : UploadLoop) (chunk : Bytes) : UploadLoop where
  written := l.written ++ chunk
  digested := l.digested ++ chunk
  sizeBytes := l.sizeBytes + chunk.length

/-- `while chunk := await file.read(65536)`: the pieces up to the first empty one. -/
def readPieces (pieces : List Bytes) : List Bytes := pieces.takeWhile fun p => !p.isEmpty

def uploadLoop (pieces : List Bytes) : UploadLoop := (readPieces pieces).foldl UploadLoop.onChunk {}

/-- What the file holds after a write that fails. -/
def brokenFile (pieces : List Bytes) (n bytes : ℕ) : Bytes :=
  (uploadLoop ((readPieces pieces).take n)).written ++
    ((readPieces pieces)[n]?.getD []).take bytes

/-! ### The endpoints -/

/-- What a request leaves: the new state, the event that it commits, and its answer. -/
structure Outcome (σ α : Type*) where
  state : σ
  event : Option AuditEvent
  answer : Except HttpError α

def Outcome.refused {σ α : Type*} (s : σ) (e : HttpError) : Outcome σ α :=
  ⟨s, none, .error e⟩

def assetUploadedEvent (a : Asset) : AuditEvent where
  eventType := "asset.uploaded"
  entityType := "asset"
  entityId := a.assetId
  payload := .obj [("filename", .str a.filename), ("asset_type", .str a.assetType),
    ("size_bytes", .int a.sizeBytes)]

def assetArchivedEvent (assetId : String) (a : Asset) : AuditEvent where
  eventType := "asset.archived"
  entityType := "asset"
  entityId := assetId
  payload := .obj [("filename", .str a.filename)]

def unsupportedFile (filename : String) : HttpError :=
  ⟨422, some ("Unsupported file type: " ++ pathSuffix filename ++ ". Allowed: " ++
    ", ".intercalate assetExtensions.keys)⟩

def assetNotFound : HttpError := ⟨404, some "Asset not found."⟩

namespace AssetLibrary

variable (lib : AssetLibrary)

def uploadedName (filename : Option String) : String :=
  match filename with
  | none => "unknown"
  | some name => if name = "" then "unknown" else name

def uploadAsset (sha256 : Bytes → String) (filename : Option String) (newId : String)
    (pieces : List Bytes) (disk : UploadDisk) (commits : Bool) : Outcome AssetLibrary Asset :=
  let name := uploadedName filename
  if detectAssetType name = "unknown" then .refused lib (unsupportedFile name)
  else
    match disk with
    | .refuses error =>
      .refused lib ⟨500, some ("Failed to write asset to disk: " ++ error)⟩
    | .breaks n bytes error =>
      .refused { lib with files := lib.files.set newId (brokenFile pieces n bytes) }
        ⟨500, some ("Failed to write asset to disk: " ++ error)⟩
    | .takes =>
      let l := uploadLoop pieces
      let a : Asset :=
        ⟨newId, name, detectAssetType name, l.sizeBytes, sha256 l.digested, .active⟩
      let files := lib.files.set newId l.written
      if commits && !lib.rows.contains newId then
        ⟨⟨lib.rows.set newId a, files⟩, some (assetUploadedEvent a), .ok a⟩
      else .refused { lib with files := files } serverError

def getAsset (id : PathId) : Outcome AssetLibrary Asset :=
  match lib.rows.get id.value with
  | none => .refused lib assetNotFound
  | some a => ⟨lib, none, .ok a⟩

def archiveAsset (id : PathId) (commits : Bool) : Outcome AssetLibrary Asset :=
  match lib.rows.get id.value with
  | none => .refused lib assetNotFound
  | some a =>
    if a.status = .archived then .refused lib ⟨409, some "Asset is already archived."⟩
    else if commits then
      let archived := { a with status := .archived }
      ⟨{ lib with rows := lib.rows.set id.value archived },
        some (assetArchivedEvent id.value a), .ok archived⟩
    else .refused lib serverError

end AssetLibrary

inductive AssetRequest where
  | upload (filename : Option String) (newId : String) (pieces : List Bytes) (disk : UploadDisk)
      (commits : Bool)
  | get (id : PathId)
  | archive (id : PathId) (commits : Bool)

def AssetLibrary.handle (sha256 : Bytes → String) (lib : AssetLibrary) :
    AssetRequest → Outcome AssetLibrary Asset
  | .upload filename newId pieces disk commits =>
    lib.uploadAsset sha256 filename newId pieces disk commits
  | .get id => lib.getAsset id
  | .archive id commits => lib.archiveAsset id commits

def assetRouter (sha256 : Bytes → String) :
    Machine AssetLibrary AssetRequest (Option AuditEvent × Except HttpError Asset) :=
  ⟨{}, fun lib request =>
    let o := lib.handle sha256 request
    (o.state, o.event, o.answer)⟩

/-! ### Rows and files -/

theorem foldl_onChunk (pieces : List Bytes) (l : UploadLoop) :
    pieces.foldl UploadLoop.onChunk l =
      ⟨l.written ++ pieces.flatten, l.digested ++ pieces.flatten,
      l.sizeBytes + pieces.flatten.length⟩ := by
  induction pieces generalizing l with
  | nil => simp
  | cons p pieces ih =>
    rw [List.foldl_cons, ih]
    simp [UploadLoop.onChunk, Nat.add_assoc]

/-- What is written is what was digested and counted. -/
theorem uploadLoop_eq (pieces : List Bytes) : uploadLoop pieces =
    ⟨(readPieces pieces).flatten, (readPieces pieces).flatten,
      (readPieces pieces).flatten.length⟩ := by
  simp [uploadLoop, foldl_onChunk]

/-- The row tells the file that lies under its id. -/
structure Backed (sha256 : Bytes → String) (lib : AssetLibrary) (a : Asset) : Prop where
  file : ∃ content, lib.files.get a.assetId = some content ∧ a.sizeBytes = content.length ∧
    a.sha256 = sha256 content
  kind : a.assetType = detectAssetType a.filename ∧ a.assetType ≠ "unknown"

structure AllBacked (sha256 : Bytes → String) (lib : AssetLibrary) : Prop where
  keyed : ∀ id a, lib.rows.get id = some a → a.assetId = id
  backed : ∀ id a, lib.rows.get id = some a → Backed sha256 lib a

/-- A row stays, and its file; only its status can change, and not back. -/
structure Keeps (lib lib' : AssetLibrary) : Prop where
  row : ∀ id a, lib.rows.get id = some a →
    ∃ status, lib'.rows.get id = some { a with status } ∧
    (a.status = .archived → status = .archived)
  file : ∀ id a, lib.rows.get id = some a → lib'.files.get id = lib.files.get id

/-- The id that an upload is given. -/
def AssetRequest.draws : AssetRequest → Option String
  | .upload _ newId _ _ _ => some newId
  | .get _ => none
  | .archive _ _ => none

def NewId (lib : AssetLibrary) (request : AssetRequest) : Prop :=
  ∀ id, request.draws = some id → id ∉ lib.rows.keys

section Step

variable {sha256 : Bytes → String} {lib lib' lib'' : AssetLibrary}

theorem Keeps.refl (lib : AssetLibrary) : Keeps lib lib where
  row := fun _ a ha => ⟨a.status, ha, id⟩
  file := fun _ _ _ => rfl

theorem Keeps.trans (h : Keeps lib lib') (h' : Keeps lib' lib'') : Keeps lib lib'' where
  row := by
    intro id a ha
    obtain ⟨status, ha', hkept⟩ := h.row id a ha
    obtain ⟨status', ha'', hkept'⟩ := h'.row id _ ha'
    exact ⟨status', ha'', fun harchived => hkept' (hkept harchived)⟩
  file := by
    intro id a ha
    obtain ⟨status, ha', -⟩ := h.row id a ha
    exact (h'.file id _ ha').trans (h.file id a ha)

/-- What one request can do: nothing to the rows, a new row with its file, or an archived one. -/
inductive AssetEffect (sha256 : Bytes → String) (lib : AssetLibrary) :
    Outcome AssetLibrary Asset → Prop
  | kept (answer : Except HttpError Asset) : AssetEffect sha256 lib ⟨lib, none, answer⟩
  | littered (newId : String) (content : Bytes) (e : HttpError) : newId ∉ lib.rows.keys →
      AssetEffect sha256 lib ⟨{ lib with files := lib.files.set newId content }, none, .error e⟩
  | stored (a : Asset) (content : Bytes) : a.assetId ∉ lib.rows.keys → a.status = .active →
      a.sizeBytes = content.length → a.sha256 = sha256 content →
      a.assetType = detectAssetType a.filename → a.assetType ≠ "unknown" →
      AssetEffect sha256 lib ⟨⟨lib.rows.set a.assetId a, lib.files.set a.assetId content⟩,
        some (assetUploadedEvent a), .ok a⟩
  | archived (id : String) (a : Asset) : lib.rows.get id = some a → a.status ≠ .archived →
      AssetEffect sha256 lib ⟨{ lib with rows := lib.rows.set id { a with status := .archived } },
        some (assetArchivedEvent id a), .ok { a with status := .archived }⟩

theorem refused_effect (e : HttpError) : AssetEffect sha256 lib (.refused lib e) := .kept (.error e)

theorem littered_effect {newId : String} (content : Bytes) (e : HttpError)
    (hnew : newId ∉ lib.rows.keys) :
    AssetEffect sha256 lib (.refused { lib with files := lib.files.set newId content } e) :=
  .littered newId content e hnew

theorem uploadAsset_effect (filename : Option String) {newId : String} (pieces : List Bytes)
    (disk : UploadDisk) (commits : Bool) (hnew : newId ∉ lib.rows.keys) :
    AssetEffect sha256 lib (lib.uploadAsset sha256 filename newId pieces disk commits) := by
  have hcontains : lib.rows.contains newId = false := (Dict.contains_eq_false_iff _ _).mpr hnew
  simp only [AssetLibrary.uploadAsset, uploadLoop_eq, hcontains, Bool.not_false, Bool.and_true]
  by_cases hunknown : detectAssetType (AssetLibrary.uploadedName filename) = "unknown"
  · rw [if_pos hunknown]
    exact refused_effect _
  · rw [if_neg hunknown]
    cases disk with
    | refuses error => exact refused_effect _
    | breaks n bytes error => exact littered_effect _ _ hnew
    | takes =>
      cases commits with
      | false => exact littered_effect _ _ hnew
      | true =>
        exact .stored ⟨newId, AssetLibrary.uploadedName filename,
          detectAssetType (AssetLibrary.uploadedName filename), (readPieces pieces).flatten.length,
          sha256 (readPieces pieces).flatten, .active⟩
            (readPieces pieces).flatten hnew rfl rfl rfl
          rfl hunknown

theorem getAsset_effect (id : PathId) : AssetEffect sha256 lib (lib.getAsset id) := by
  unfold AssetLibrary.getAsset
  cases lib.rows.get id.value with
  | none => exact refused_effect _
  | some a => exact .kept (.ok a)

theorem archiveAsset_effect (id : PathId) (commits : Bool) :
    AssetEffect sha256 lib (lib.archiveAsset id commits) := by
  unfold AssetLibrary.archiveAsset
  cases ha : lib.rows.get id.value with
  | none => exact refused_effect _
  | some a =>
    dsimp only
    split_ifs with harchived
    · exact refused_effect _
    · exact .archived id.value a ha harchived
    · exact refused_effect _

theorem handle_effect (request : AssetRequest) (hnew : NewId lib request) :
    AssetEffect sha256 lib (lib.handle sha256 request) := by
  cases request with
  | upload filename newId pieces disk commits =>
    simp only [AssetLibrary.handle]
    exact uploadAsset_effect filename pieces disk commits (hnew newId rfl)
  | get id =>
    simp only [AssetLibrary.handle]
    exact getAsset_effect id
  | archive id commits =>
    simp only [AssetLibrary.handle]
    exact archiveAsset_effect id commits

theorem backed_files {a : Asset} {files : Dict String Bytes} {rows : Dict String Asset}
    (h : Backed sha256 lib a) (hfile : files.get a.assetId = lib.files.get a.assetId) :
    Backed sha256 ⟨rows, files⟩ a := by
  obtain ⟨content, hcontent, hsize, hdigest⟩ := h.file
  exact ⟨⟨content, hfile.trans hcontent, hsize, hdigest⟩, h.kind⟩

theorem get_set_new {ν : Type} {rows : Dict String Asset} {d : Dict String ν} {newId id : String}
    {v : ν} {a : Asset} (hnew : newId ∉ rows.keys) (ha : rows.get id = some a) :
    (d.set newId v).get id = d.get id := by
  refine Dict.get_set_ne d v ?_
  rintro rfl
  exact hnew ((Dict.get_isSome_iff _ _).mp (by simp [ha]))

theorem AssetEffect.backed {o : Outcome AssetLibrary Asset} (h : AllBacked sha256 lib)
    (heffect : AssetEffect sha256 lib o) : AllBacked sha256 o.state := by
  cases heffect with
  | kept answer => exact h
  | littered newId content e hnew =>
    refine ⟨h.keyed, fun id a ha => backed_files (h.backed id a ha) ?_⟩
    rw [h.keyed id a ha]
    exact get_set_new hnew ha
  | stored new content hnew hactive hsize hdigest hkind hknown =>
    refine ⟨fun id a ha => ?_, fun id a ha => ?_⟩
    · rw [Dict.get_set] at ha
      split_ifs at ha with hid
      · rw [hid, Option.some.inj ha]
      · exact h.keyed id a ha
    · rw [Dict.get_set] at ha
      split_ifs at ha with hid
      · obtain rfl := Option.some.inj ha
        exact ⟨⟨content, by simp, hsize, hdigest⟩, hkind, hknown⟩
      · refine backed_files (h.backed id a ha) ?_
        rw [h.keyed id a ha]
        exact get_set_new hnew ha
  | archived id old hold hopen =>
    refine ⟨fun other a ha => ?_, fun other a ha => ?_⟩
    · rw [Dict.get_set] at ha
      split_ifs at ha with hother
      · rw [← Option.some.inj ha, hother]
        exact h.keyed id old hold
      · exact h.keyed other a ha
    · rw [Dict.get_set] at ha
      split_ifs at ha with hother
      · rw [← Option.some.inj ha]
        have hbacked := h.backed id old hold
        exact ⟨hbacked.file, hbacked.kind⟩
      · exact backed_files (h.backed other a ha) rfl

theorem AssetEffect.keeps {o : Outcome AssetLibrary Asset} (heffect : AssetEffect sha256 lib o) :
    Keeps lib o.state := by
  cases heffect with
  | kept answer => exact .refl lib
  | littered newId content e hnew =>
    exact ⟨fun _ a ha => ⟨a.status, ha, id⟩, fun _ a ha => get_set_new hnew ha⟩
  | stored new content hnew =>
    exact ⟨fun _ a ha => ⟨a.status, (get_set_new hnew ha).trans ha, id⟩,
      fun _ a ha => get_set_new hnew ha⟩
  | archived id old hold hopen =>
    refine ⟨fun other a ha => ?_, fun _ a ha => rfl⟩
    by_cases hother : other = id
    · subst hother
      obtain rfl := Option.some.inj (hold.symm.trans ha)
      exact ⟨.archived, Dict.get_set_self _ _ _, fun _ => rfl⟩
    · exact ⟨a.status, (Dict.get_set_ne _ _ hother).trans ha, fun harchived => harchived⟩

end Step

/-! ### Whole runs -/

section Runs

variable (sha256 : Bytes → String)

theorem uploadAsset_keys (lib : AssetLibrary) (filename : Option String) (newId : String)
    (pieces : List Bytes) (disk : UploadDisk) (commits : Bool) :
    ∀ id ∈ (lib.uploadAsset sha256 filename newId pieces disk commits).state.rows.keys,
      newId = id ∨ id ∈ lib.rows.keys := by
  intro id hid
  simp only [AssetLibrary.uploadAsset] at hid
  split at hid
  · exact Or.inr hid
  · cases disk with
    | refuses error => exact Or.inr hid
    | breaks n bytes error => exact Or.inr hid
    | takes =>
      dsimp only at hid
      split at hid
      · exact ((Dict.mem_keys_set _ _ _ _).mp hid).imp Eq.symm fun h => h
      · exact Or.inr hid

theorem archiveAsset_keys (lib : AssetLibrary) (id : PathId) (commits : Bool) :
    ∀ other ∈ (lib.archiveAsset id commits).state.rows.keys, other ∈ lib.rows.keys := by
  intro other hother
  unfold AssetLibrary.archiveAsset at hother
  cases ha : lib.rows.get id.value with
  | none => simpa [ha, Outcome.refused] using hother
  | some a =>
    simp only [ha] at hother
    split_ifs at hother
    · exact hother
    · rcases (Dict.mem_keys_set _ _ _ _).mp hother with rfl | hin
      · exact (Dict.get_isSome_iff _ _).mp (by simp [ha])
      · exact hin
    · exact hother

theorem next_keys (lib : AssetLibrary) (request : AssetRequest) :
    ∀ id ∈ ((assetRouter sha256).next lib request).rows.keys,
      request.draws = some id ∨ id ∈ lib.rows.keys := by
  intro id hid
  cases request with
  | upload filename newId pieces disk commits =>
    exact (uploadAsset_keys sha256 lib filename newId pieces disk commits id hid).imp_left
      (congrArg some)
  | get other =>
    have hstate : (lib.getAsset other).state = lib := by
      unfold AssetLibrary.getAsset
      cases lib.rows.get other.value <;> rfl
    have hnext : (assetRouter sha256).next lib (.get other) = (lib.getAsset other).state := rfl
    rw [hnext, hstate] at hid
    exact Or.inr hid
  | archive other commits => exact Or.inr (archiveAsset_keys lib other commits id hid)

theorem run_keeps {lib : AssetLibrary} {requests : List AssetRequest}
    (hnew : (assetRouter sha256).EachStep NewId lib requests) (hbacked : AllBacked sha256 lib) :
    AllBacked sha256 ((assetRouter sha256).run lib requests) ∧
      Keeps lib ((assetRouter sha256).run lib requests) :=
  Machine.run_inv_under (M := assetRouter sha256)
    (I := fun lib' => AllBacked sha256 lib' ∧ Keeps lib lib')
    (fun lib' request h hnew => by
      have heffect : AssetEffect sha256 lib' (lib'.handle sha256 request) :=
        handle_effect request hnew
      exact ⟨heffect.backed h.1, h.2.trans heffect.keeps⟩) ⟨hbacked, .refl lib⟩ hnew

theorem allBacked_init : AllBacked sha256 {} where
  keyed := by simp
  backed := by simp

/-! ### What is uploaded and read back -/

/-- The row of an upload. -/
def uploadedAsset (filename : Option String) (newId : String) (content : Bytes) : Asset :=
  ⟨newId, AssetLibrary.uploadedName filename,
    detectAssetType (AssetLibrary.uploadedName filename), content.length, sha256 content, .active⟩

def Accepts (filename : Option String) (disk : UploadDisk) (commits : Bool) : Prop :=
  detectAssetType (AssetLibrary.uploadedName filename) ≠ "unknown" ∧ disk = .takes ∧
    commits = true

/-- The asset is stored under its id, with this content, and read back there. -/
structure ReadBack (lib : AssetLibrary) (a : Asset) (content : Bytes) : Prop where
  file : lib.files.get a.assetId = some content
  answer : ∃ status, ∀ id : PathId, id.value = a.assetId →
    (lib.getAsset id).answer = .ok { a with status }

structure Absent (lib : AssetLibrary) (newId : String) : Prop where
  row : lib.rows.get newId = none
  answer : ∀ id : PathId, id.value = newId → (lib.getAsset id).answer = .error assetNotFound

theorem getAsset_answer {lib : AssetLibrary} {id : PathId} {a : Asset}
    (h : lib.rows.get id.value = some a) : (lib.getAsset id).answer = .ok a := by
  rw [AssetLibrary.getAsset, h]

theorem absent_of_get {lib : AssetLibrary} {newId : String} (h : lib.rows.get newId = none) :
    Absent lib newId := by
  refine ⟨h, fun id hid => ?_⟩
  rw [AssetLibrary.getAsset, hid, h]
  rfl

theorem uploadAsset_accepted {lib : AssetLibrary} {filename : Option String} {newId : String}
    {pieces : List Bytes} {disk : UploadDisk} {commits : Bool} (hnew : newId ∉ lib.rows.keys)
    (h : Accepts filename disk commits) :
    let a := uploadedAsset sha256 filename newId (readPieces pieces).flatten
    let o := lib.uploadAsset sha256 filename newId pieces disk commits
    o.answer = .ok a ∧ o.state.rows.get newId = some a ∧
      o.state.files.get newId = some (readPieces pieces).flatten := by
  obtain ⟨hknown, rfl, rfl⟩ := h
  have hcontains : lib.rows.contains newId = false := (Dict.contains_eq_false_iff _ _).mpr hnew
  simp only [AssetLibrary.uploadAsset, uploadLoop_eq, if_neg hknown, hcontains]
  exact ⟨rfl, Dict.get_set_self _ _ _, Dict.get_set_self _ _ _⟩

theorem uploadAsset_refused {lib : AssetLibrary} {filename : Option String} {newId : String}
    {pieces : List Bytes} {disk : UploadDisk} {commits : Bool}
    (h : ¬ Accepts filename disk commits) :
    let o := lib.uploadAsset sha256 filename newId pieces disk commits
    (∃ e, o.answer = .error e) ∧ o.state.rows = lib.rows := by
  simp only [AssetLibrary.uploadAsset]
  by_cases hknown : detectAssetType (AssetLibrary.uploadedName filename) = "unknown"
  · rw [if_pos hknown]
    exact ⟨⟨_, rfl⟩, rfl⟩
  · rw [if_neg hknown]
    cases disk with
    | refuses error => exact ⟨⟨_, rfl⟩, rfl⟩
    | breaks n bytes error => exact ⟨⟨_, rfl⟩, rfl⟩
    | takes =>
      have hcommits : commits = false := by
        by_contra hne
        exact h ⟨hknown, rfl, by simpa using hne⟩
      subst hcommits
      exact ⟨⟨_, rfl⟩, rfl⟩

/-- What the requests leave: every row tells the file under its id; no row and no file was lost or
altered on the way, but that an asset can be archived, once; an upload that is accepted answers
with the row of its name and content, which are read back by its id for ever, one that is not
leaves nothing to be read; and every row is of an upload. -/
structure AssetsKept (requests : List AssetRequest) : Prop where
  backed : AllBacked sha256 ((assetRouter sha256).run {} requests)
  keeps : ∀ before after, requests = before ++ after →
    Keeps ((assetRouter sha256).run {} before) ((assetRouter sha256).run {} requests)
  accepted : ∀ before filename newId pieces disk commits after,
    requests = before ++ .upload filename newId pieces disk commits :: after →
    Accepts filename disk commits →
      let a := uploadedAsset sha256 filename newId (readPieces pieces).flatten
      (((assetRouter sha256).run {} before).uploadAsset sha256 filename newId pieces disk
        commits).answer = .ok a ∧
      ReadBack ((assetRouter sha256).run {} requests) a (readPieces pieces).flatten
  refused : ∀ before filename newId pieces disk commits after,
    requests = before ++ .upload filename newId pieces disk commits :: after →
    ¬ Accepts filename disk commits →
      (∃ e, (((assetRouter sha256).run {} before).uploadAsset sha256 filename newId pieces disk
        commits).answer = .error e) ∧
      Absent ((assetRouter sha256).run {} requests) newId
  origin : ∀ id a, ((assetRouter sha256).run {} requests).rows.get id = some a →
    ∃ before filename pieces disk commits after,
      requests = before ++ .upload filename id pieces disk commits :: after ∧
        Accepts filename disk commits

section Kept

variable {requests before after : List AssetRequest} {filename : Option String} {newId : String}
  {pieces : List Bytes} {disk : UploadDisk} {commits : Bool}

theorem newId_steps (hdistinct : (requests.filterMap AssetRequest.draws).Nodup) :
    (assetRouter sha256).EachStep NewId {} requests :=
  (assetRouter sha256).eachStep_draws_new AssetRequest.draws (fun lib => lib.rows.keys)
    (next_keys sha256) hdistinct (fun id _ hid => by simp at hid)

theorem run_keeps_from (hdistinct : ((before ++ after).filterMap AssetRequest.draws).Nodup) :
    Keeps ((assetRouter sha256).run {} before)
      ((assetRouter sha256).run {} (before ++ after)) := by
  obtain ⟨hbefore, hafter⟩ := Machine.eachStep_append _ |>.mp (newId_steps sha256 hdistinct)
  have hstart := (run_keeps sha256 hbefore (allBacked_init sha256)).1
  rw [Machine.run_append]
  exact (run_keeps sha256 hafter hstart).2

/-- The id of an upload is new when it comes, and no later request draws it. -/
theorem upload_new (hdistinct : ((before ++ .upload filename newId pieces disk commits ::
      after).filterMap AssetRequest.draws).Nodup) :
    newId ∉ ((assetRouter sha256).run {} before).rows.keys ∧
      newId ∉ after.filterMap AssetRequest.draws := by
  refine ⟨?_, ?_⟩
  · have hsteps := (Machine.eachStep_append _ |>.mp (newId_steps sha256 hdistinct)).2
    exact hsteps.1 newId rfl
  · have hdraws : AssetRequest.draws (.upload filename newId pieces disk commits) = some newId :=
      rfl
    rw [List.filterMap_append, List.filterMap_cons_some hdraws] at hdistinct
    exact (List.nodup_cons.mp (List.nodup_append.mp hdistinct).2.1).1

theorem accepted_readBack (hdistinct : ((before ++ .upload filename newId pieces disk commits ::
      after).filterMap AssetRequest.draws).Nodup) (h : Accepts filename disk commits) :
    ReadBack ((assetRouter sha256).run {}
        (before ++ .upload filename newId pieces disk commits :: after))
      (uploadedAsset sha256 filename newId (readPieces pieces).flatten)
      (readPieces pieces).flatten := by
  obtain ⟨-, hrow, hfile⟩ :=
    @uploadAsset_accepted sha256 _ filename newId pieces disk commits
      (upload_new sha256 hdistinct).1 h
  rw [List.append_cons] at hdistinct ⊢
  have hkeeps := run_keeps_from sha256 hdistinct
  rw [Machine.run_snoc] at hkeeps
  obtain ⟨status, hlater, -⟩ := hkeeps.row newId _ hrow
  refine ⟨(hkeeps.file newId _ hrow).trans hfile, status, fun id hid => getAsset_answer ?_⟩
  rw [hid]
  exact hlater

theorem refused_absent (hdistinct : ((before ++ .upload filename newId pieces disk commits ::
      after).filterMap AssetRequest.draws).Nodup) (h : ¬ Accepts filename disk commits) :
    Absent ((assetRouter sha256).run {}
      (before ++ .upload filename newId pieces disk commits :: after)) newId := by
  obtain ⟨hnew, hlater⟩ := upload_new sha256 hdistinct
  have hrows : ((assetRouter sha256).next ((assetRouter sha256).run {} before)
      (.upload filename newId pieces disk commits)).rows =
        ((assetRouter sha256).run {} before).rows := (uploadAsset_refused sha256 h).2
  refine absent_of_get (Option.not_isSome_iff_eq_none.mp fun hsome => ?_)
  rw [Machine.run_append, Machine.run_cons] at hsome
  have hmem := (Dict.get_isSome_iff _ _).mp hsome
  rcases (assetRouter sha256).known_run AssetRequest.draws (fun lib => lib.rows.keys)
    (next_keys sha256) _ after newId hmem with hdrawn | hold
  · exact hlater hdrawn
  · rw [hrows] at hold
    exact hnew hold

end Kept

/-- Where each upload is given an id of its own. -/
theorem assets_kept (requests : List AssetRequest)
    (hdistinct : (requests.filterMap AssetRequest.draws).Nodup) : AssetsKept sha256 requests where
  backed := (run_keeps sha256 (newId_steps sha256 hdistinct) (allBacked_init sha256)).1
  keeps := by
    rintro before after rfl
    exact run_keeps_from sha256 hdistinct
  accepted := by
    rintro before filename newId pieces disk commits after rfl h
    exact ⟨(uploadAsset_accepted sha256 (upload_new sha256 hdistinct).1 h).1,
      accepted_readBack sha256 hdistinct h⟩
  refused := by
    rintro before filename newId pieces disk commits after rfl h
    exact ⟨(uploadAsset_refused sha256 h).1, refused_absent sha256 hdistinct h⟩
  origin := by
    intro id a ha
    have hmem : id ∈ ((assetRouter sha256).run {} requests).rows.keys :=
      (Dict.get_isSome_iff _ _).mp (by simp [ha])
    rcases (assetRouter sha256).known_run AssetRequest.draws (fun lib => lib.rows.keys)
      (next_keys sha256) _ requests id hmem with hdrawn | hnone
    · obtain ⟨request, hrequest, hdraws⟩ := List.mem_filterMap.mp hdrawn
      cases request with
      | get other => cases hdraws
      | archive other commits => cases hdraws
      | upload filename newId pieces disk commits =>
        obtain rfl := Option.some.inj hdraws
        obtain ⟨before, after, rfl⟩ := List.append_of_mem hrequest
        refine ⟨before, filename, pieces, disk, commits, after, rfl, ?_⟩
        by_contra hnot
        rw [(refused_absent sha256 hdistinct hnot).row] at ha
        cases ha
    · simp at hnone

end Runs

/-! ### A poster that is replaced -/

def posterUpload : AssetRequest :=
  .upload (some "poster.PNG") "a-1" [[137, 80], [78, 71], []] .takes true

/-- The second upload fails when the disk is full, in its second piece. -/
def posterRequests : List AssetRequest :=
  [posterUpload, .upload (some "poster2.png") "a-2" [[137, 80], [78, 71]]
    (.breaks 1 1 "No space left on device") true, .archive ⟨"a-1", by decide, by decide⟩ true]

/-- A digest that tells the length alone. -/
def lengthDigest (content : Bytes) : String := toString content.length

theorem posterRequests_kept : AssetsKept lengthDigest posterRequests :=
  assets_kept lengthDigest posterRequests (by decide)

example : ((assetRouter lengthDigest).run {} posterRequests).files.entries =
    [("a-1", [137, 80, 78, 71]), ("a-2", [137, 80, 78])] := by decide +kernel

end AdaptiveAdvertisement.Dashboard
