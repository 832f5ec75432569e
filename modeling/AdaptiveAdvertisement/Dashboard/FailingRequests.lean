import AdaptiveAdvertisement.Dashboard.LifecycleRequests

/-!
# Manifest requests that fail midway

One request at a time, where a commit may fail, so that the session is rolled back and the answer
is 500, and a file operation may raise `OSError`, which the disk helpers log and swallow
(`routers/manifests.py:95-128`). A write that raises may have left something in the file. The file
is touched before the commit (`routers/manifests.py:299-308`, `330-339`, `508-521`).
-/

namespace AdaptiveAdvertisement.Dashboard
open Library

inductive DiskOutcome where
  | done
  | failed
  | torn (left : FileRead)

structure Attempt where
  request : ManifestRequest
  commits : Bool
  disk : DiskOutcome

def serverError : HttpError := ⟨500, none⟩

def ManifestRequest.lifecycle? : ManifestRequest → Option (PathId × LifecycleRequest)
  | .approve id body now => some (id, .approve body now)
  | .reject id body => some (id, .reject body)
  | .enable id now => some (id, .enable now)
  | .disable id => some (id, .disable)
  | .archive id => some (id, .archive)
  | .create _ => none
  | .updateTags _ _ => none

theorem lifecycle?_none {req : ManifestRequest} (h : req.lifecycle? = none) :
    (∃ body, req = .create body) ∨ ∃ id tags, req = .updateTags id tags := by
  cases req with
  | create body => exact Or.inl ⟨body, rfl⟩
  | updateTags id tags => exact Or.inr ⟨id, tags, rfl⟩
  | approve id body now => cases h
  | reject id body => cases h
  | enable id now => cases h
  | disable id => cases h
  | archive id => cases h

theorem lifecycle?_eq {req : ManifestRequest} {id : PathId} {r : LifecycleRequest}
    (h : req.lifecycle? = some (id, r)) : req = r.request id := by
  cases req <;> cases h <;> rfl

section Attempts

variable {τ : Type} (codec : Codec τ)

def touchDisk (dir : Directory) (m : Manifest) (effect : DiskEffect) : DiskOutcome → Directory
  | .done => applyDisk codec dir m effect
  | .failed => dir
  | .torn left =>
    match effect with
    | .write => dir.set (manifestFile m.manifestId) left
    | .keep => dir
    | .remove => dir

/-- What is left of a request that passed its check. -/
def afterTransition (d : DashboardState) (id : PathId) (r : LifecycleRequest) (m : Manifest)
    (commits : Bool) (disk : DiskOutcome) : DashboardState where
  rows := if commits then d.rows.set id.value (r.result m) else d.rows
  events := if commits then d.events ++ [r.event id m] else d.events
  outputDir := touchDisk codec d.outputDir (r.result m) (r.effect m) disk

def attemptTransition (d : DashboardState) (id : PathId) (r : LifecycleRequest) (commits : Bool)
    (disk : DiskOutcome) : DashboardState × Response :=
  if !r.valid then (d, .error unprocessable)
  else
    match d.rows.get id.value with
    | none => (d, .error (manifestNotFound id.value))
    | some m =>
      if canTransition m.status r.target then
        (afterTransition codec d id r m commits disk,
          if commits then .ok (r.result m) else .error serverError)
      else (d, .error (r.conflict id m))

/-- A handler that leaves the directory alone, with its commit. -/
def commitOr (d : DashboardState) (commits : Bool) (answer : DashboardState × Response) :
    DashboardState × Response :=
  match answer.2 with
  | .ok _ => if commits then answer else (d, .error serverError)
  | .error _ => answer

def DashboardState.attempt (d : DashboardState) (a : Attempt) : DashboardState × Response :=
  match a.request.lifecycle? with
  | some x => attemptTransition codec d x.1 x.2 a.commits a.disk
  | none => commitOr d a.commits (d.handle codec a.request)

def failing : Machine DashboardState Attempt Response := ⟨{}, DashboardState.attempt codec⟩

variable {codec}

theorem attempt_lifecycle {d : DashboardState} {a : Attempt} {id : PathId} {r : LifecycleRequest}
    (h : a.request.lifecycle? = some (id, r)) :
    d.attempt codec a = attemptTransition codec d id r a.commits a.disk := by
  simp only [DashboardState.attempt, h]

theorem attempt_other {d : DashboardState} {a : Attempt} (h : a.request.lifecycle? = none) :
    d.attempt codec a = commitOr d a.commits (d.handle codec a.request) := by
  simp only [DashboardState.attempt, h]

/-- Where nothing fails, this is the router. -/
theorem attempt_done (d : DashboardState) (req : ManifestRequest) :
    d.attempt codec ⟨req, true, .done⟩ = d.handle codec req := by
  cases hreq : req.lifecycle? with
  | none =>
    rw [attempt_other hreq]
    unfold commitOr
    cases hanswer : (d.handle codec req).2 <;> simp
  | some x =>
    obtain ⟨id, r⟩ := x
    rw [attempt_lifecycle hreq, lifecycle?_eq hreq, LifecycleRequest.handle_request]
    unfold attemptTransition transition
    cases hm : d.rows.get id.value with
    | none => rfl
    | some m => simp [afterTransition, touchDisk, LifecycleRequest.result]

end Attempts

/-! ### A file is that of an enabled manifest -/

section Files

variable {τ : Type} {codec : Codec τ}

def FilesEnabled (d : DashboardState) : Prop :=
  ∀ id, (d.outputDir.get (manifestFile id)).isSome = true →
    (d.rows.get id).map Manifest.status = some .enabled

/-- Where the row is not changed to `enabled` the write left nothing, and where it is changed from
`enabled` the file is gone. -/
def FailsSafely (d : DashboardState) (id : PathId) (commits : Bool) (disk : DiskOutcome) :
    DiskEffect → Prop
  | .keep => True
  | .write => commits = true ∨ disk = .failed
  | .remove => commits = false ∨ disk = .done ∨ d.outputDir.get (manifestFile id.value) = none

/-- A request that passes its check fails only so. -/
def HarmlessFailure (d : DashboardState) (a : Attempt) : Prop :=
  ∀ x ∈ a.request.lifecycle?, x.2.valid = true → ∀ m ∈ d.rows.get x.1.value,
    canTransition m.status x.2.target = true →
      FailsSafely d x.1 a.commits a.disk (x.2.effect m)

structure FilesInv (d : DashboardState) : Prop where
  keyed : ∀ id m, d.rows.get id = some m → m.manifestId = id
  files : FilesEnabled d

variable {d : DashboardState} {id : PathId} {r : LifecycleRequest} {m : Manifest} {commits : Bool}
  {disk : DiskOutcome}

/-- After a change of one row and its file, the row and the file decide. -/
theorem filesEnabled_iff {d' : DashboardState} (h : FilesEnabled d) (id : String)
    (hrows : ∀ other, other ≠ id → d'.rows.get other = d.rows.get other)
    (hdir : ∀ other, other ≠ id →
      d'.outputDir.get (manifestFile other) = d.outputDir.get (manifestFile other)) :
    FilesEnabled d' ↔ ((d'.outputDir.get (manifestFile id)).isSome = true →
      (d'.rows.get id).map Manifest.status = some .enabled) := by
  refine ⟨fun hall => hall id, fun hone other hfile => ?_⟩
  by_cases hother : other = id
  · subst hother
    exact hone hfile
  · rw [hdir other hother] at hfile
    rw [hrows other hother]
    exact h other hfile

theorem absent_of_not_enabled (h : FilesEnabled d) {id : String}
    (hstatus : (d.rows.get id).map Manifest.status ≠ some .enabled) :
    d.outputDir.get (manifestFile id) = none := by
  cases hfile : d.outputDir.get (manifestFile id) with
  | none => rfl
  | some f => exact absurd (h id (by rw [hfile]; rfl)) hstatus

/-- A row written beside an untouched directory does not leave `enabled`. -/
theorem FilesInv.setRow (h : FilesInv d) {key : String} (hkey : m.manifestId = key)
    (hstatus : (d.rows.get key).map Manifest.status = some .enabled → m.status = .enabled)
    (events : List AuditEvent) : FilesInv ⟨d.rows.set key m, events, d.outputDir⟩ := by
  have hrows : ∀ other, other ≠ key → (d.rows.set key m).get other = d.rows.get other := by
    intro other hother
    rw [Dict.get_set, if_neg hother]
  have hiff : FilesEnabled ⟨d.rows.set key m, events, d.outputDir⟩ ↔ _ :=
    filesEnabled_iff h.files key hrows fun _ _ => rfl
  refine ⟨keyed_set h.keyed hkey, hiff.mpr fun hfile => ?_⟩
  rw [Dict.get_set_self, Option.map_some, hstatus (h.files key hfile)]

theorem touchDisk_other {m : Manifest} (hid : m.manifestId = id.value) (effect : DiskEffect)
    (disk : DiskOutcome) {other : String} (hother : other ≠ id.value) :
    (touchDisk codec d.outputDir m effect disk).get (manifestFile other) =
      d.outputDir.get (manifestFile other) := by
  have hne : manifestFile other ≠ manifestFile m.manifestId :=
    fun he => hother ((manifestFile_injective he).trans hid)
  cases disk with
  | failed => rfl
  | done => cases effect <;> simp [touchDisk, applyDisk, Dict.get_set, Dict.get_erase, hne]
  | torn left => cases effect <;> simp [touchDisk, Dict.get_set, hne]

theorem attemptTransition_cases (codec : Codec τ) (d : DashboardState) (id : PathId)
    (r : LifecycleRequest) (commits : Bool) (disk : DiskOutcome) :
    (∃ m, r.valid = true ∧ d.rows.get id.value = some m ∧
      canTransition m.status r.target = true ∧
      (attemptTransition codec d id r commits disk).1 =
        afterTransition codec d id r m commits disk) ∨
    ((attemptTransition codec d id r commits disk).1 = d ∧
      (r.valid = true → ∀ m ∈ d.rows.get id.value,
        ¬ canTransition m.status r.target = true)) := by
  unfold attemptTransition
  cases hvalid : r.valid with
  | false => exact Or.inr ⟨rfl, fun h => by cases h⟩
  | true =>
    cases hm : d.rows.get id.value with
    | none => exact Or.inr ⟨rfl, fun _ m hm => by cases hm⟩
    | some m =>
      by_cases hcheck : canTransition m.status r.target = true
      · exact Or.inl ⟨m, rfl, rfl, hcheck, by simp [hcheck]⟩
      · refine Or.inr ⟨by simp [hcheck], fun _ m' hm' => ?_⟩
        obtain rfl := Option.some.inj hm'
        exact hcheck

theorem afterTransition_keyed (h : FilesInv d) (hm : d.rows.get id.value = some m)
    {other : String} {m' : Manifest}
    (hother : (afterTransition codec d id r m commits disk).rows.get other = some m') :
    m'.manifestId = other := by
  cases commits with
  | false => exact h.keyed other m' hother
  | true => exact keyed_set (m := r.result m) h.keyed (h.keyed id.value m hm) other m' hother

/-- The file of the manifest and its row after a request that passed its check. -/
theorem afterTransition_iff (h : FilesInv d) (hm : d.rows.get id.value = some m)
    (hcheck : canTransition m.status r.target = true) :
    FilesEnabled (afterTransition codec d id r m commits disk) ↔
      FailsSafely d id commits disk (r.effect m) := by
  have hid : (r.result m).manifestId = id.value := h.keyed id.value m hm
  have hrows : ∀ other, other ≠ id.value →
      (afterTransition codec d id r m commits disk).rows.get other = d.rows.get other := by
    intro other hother
    cases commits <;> simp [afterTransition, Dict.get_set, hother]
  have hstatus : ((afterTransition codec d id r m commits disk).rows.get id.value).map
      Manifest.status = some (if commits then r.target else m.status) := by
    cases commits <;> simp [afterTransition, hm]
  rw [filesEnabled_iff h.files id.value hrows
    (fun other hother => touchDisk_other hid (r.effect m) disk hother), hstatus, Option.some.injEq]
  have habsent : m.status ≠ .enabled → d.outputDir.get (manifestFile id.value) = none := by
    intro hne
    refine absent_of_not_enabled h.files fun henabled => hne ?_
    rw [hm] at henabled
    exact Option.some.inj henabled
  rw [afterTransition, ← hid]
  cases he : r.effect m with
  | keep =>
    have hnone := habsent (LifecycleRequest.keep_effect hcheck he).1
    rw [← hid] at hnone
    refine iff_of_true (fun hfile => ?_) trivial
    cases disk <;> simp [touchDisk, applyDisk, hnone] at hfile
  | write =>
    have htarget := LifecycleRequest.write_effect he
    have hold : m.status ≠ .enabled := by
      rw [← htarget]
      exact LifecycleRequest.ne_target hcheck
    have hnone := habsent hold
    rw [← hid] at hnone
    cases commits with
    | true => simp [FailsSafely, htarget]
    | false => cases disk <;> simp [FailsSafely, touchDisk, applyDisk, hnone, hold]
  | remove =>
    obtain ⟨hold, htarget⟩ := LifecycleRequest.remove_effect hcheck he
    cases commits with
    | false => simp [FailsSafely, hold]
    | true => cases disk <;> simp [FailsSafely, touchDisk, applyDisk, Dict.get_erase, hid, htarget]

/-! ### The requests without a file -/

theorem createManifest_files (h : FilesInv d) (body : ManifestIn) :
    FilesInv (createManifest d body).1 := by
  unfold createManifest
  split_ifs with hvalid hknown
  · exact h
  · exact h
  · have hnone : d.rows.get body.manifestId = none := by
      rw [Dict.get_eq_none_iff]
      simpa [Dict.contains] using hknown
    have hstatus : (d.rows.get body.manifestId).map Manifest.status = some .enabled →
        body.row.status = .enabled := by simp [hnone]
    exact h.setRow (m := body.row) rfl hstatus _

theorem updateManifestTags_files (h : FilesInv d) (id : PathId) (tags : List String) :
    FilesInv (updateManifestTags d id tags).1 := by
  unfold updateManifestTags
  split_ifs with hvalid
  · exact h
  · cases hm : d.rows.get id.value with
    | none => exact h
    | some m =>
      dsimp only
      split_ifs with harchived
      · exact h
      · exact h.setRow (m := { m with audienceTags := tags }) (h.keyed id.value m hm)
          (by simp [hm]) _

theorem commitOr_files {answer : DashboardState × Response} (h : FilesInv d)
    (hanswer : FilesInv answer.1) (commits : Bool) : FilesInv (commitOr d commits answer).1 := by
  unfold commitOr
  cases answer.2 with
  | error e => exact hanswer
  | ok m => cases commits <;> assumption

theorem attempt_other_files {a : Attempt} (h : FilesInv d) (hreq : a.request.lifecycle? = none) :
    FilesInv (d.attempt codec a).1 := by
  rw [attempt_other hreq]
  refine commitOr_files h ?_ a.commits
  rcases lifecycle?_none hreq with ⟨body, hr⟩ | ⟨id, tags, hr⟩
  · rw [hr]
    exact createManifest_files h body
  · rw [hr]
    exact updateManifestTags_files h id tags

/-! ### Whole runs -/

theorem attempt_files_iff {a : Attempt} (h : FilesInv d) :
    FilesEnabled (d.attempt codec a).1 ↔ HarmlessFailure d a := by
  cases hreq : a.request.lifecycle? with
  | none =>
    refine iff_of_true (attempt_other_files h hreq).files fun x hx => ?_
    rw [hreq] at hx
    cases hx
  | some x =>
    obtain ⟨id, r⟩ := x
    rw [attempt_lifecycle hreq]
    rcases attemptTransition_cases codec d id r a.commits a.disk with
      ⟨m, hvalid, hm, hcheck, hafter⟩ | ⟨hsame, hrefused⟩
    · rw [hafter, afterTransition_iff h hm hcheck]
      refine ⟨fun hsafe x hx _ m' hm' _ => ?_, fun hall => hall _ hreq hvalid m hm hcheck⟩
      obtain rfl := Option.some.inj (hreq.symm.trans hx)
      obtain rfl := Option.some.inj (hm.symm.trans hm')
      exact hsafe
    · rw [hsame]
      refine iff_of_true h.files fun x hx hvalid m hm hcheck => ?_
      obtain rfl := Option.some.inj (hreq.symm.trans hx)
      exact absurd hcheck (hrefused hvalid m hm)

theorem attempt_keyed {a : Attempt} (h : FilesInv d) {other : String} {m' : Manifest}
    (hm' : (d.attempt codec a).1.rows.get other = some m') : m'.manifestId = other := by
  cases hreq : a.request.lifecycle? with
  | none => exact (attempt_other_files h hreq).keyed other m' hm'
  | some x =>
    obtain ⟨id, r⟩ := x
    rw [attempt_lifecycle hreq] at hm'
    rcases attemptTransition_cases codec d id r a.commits a.disk with
      ⟨m, -, hm, -, hafter⟩ | ⟨hsame, -⟩
    · rw [hafter] at hm'
      exact afterTransition_keyed h hm hm'
    · rw [hsame] at hm'
      exact h.keyed other m' hm'

/-- In a run of requests that may fail, every file is that of an enabled manifest after each of
them exactly where every one fails harmlessly. -/
theorem filesEnabled_run_iff (codec : Codec τ) (attempts : List Attempt) :
    (failing codec).EachStep (fun d a => FilesEnabled ((failing codec).next d a))
      (failing codec).init attempts ↔
    (failing codec).EachStep HarmlessFailure (failing codec).init attempts :=
  Machine.eachStep_iff_of_inv (M := failing codec) (I := FilesInv)
    (fun _ _ h hsafe => ⟨fun _ _ hm => attempt_keyed h hm, (attempt_files_iff h).mpr hsafe⟩)
    (fun _ _ h => attempt_files_iff h)
    ⟨fun _ _ hm => (by cases hm), fun _ hfile => (by cases hfile)⟩ attempts

end Files

/-! ### Files that are left -/

def succeeding (req : ManifestRequest) : Attempt := ⟨req, true, .done⟩

def promoApproval : List Attempt :=
  [succeeding (.create promoBody), succeeding (.approve promoId {} 0)]

/-- Enabling writes the file and fails to commit; disabling commits and fails to remove it. -/
theorem promoFile_left :
    (¬ (failing jsonCodec).EachStep (fun d a => FilesEnabled ((failing jsonCodec).next d a))
      (failing jsonCodec).init (promoApproval ++ [⟨.enable promoId 1, false, .done⟩])) ∧
    ¬ (failing jsonCodec).EachStep (fun d a => FilesEnabled ((failing jsonCodec).next d a))
      (failing jsonCodec).init (promoApproval ++
        [succeeding (.enable promoId 1), ⟨.disable promoId, true, .failed⟩]) := by
  refine ⟨fun h => ?_, fun h => ?_⟩
  · obtain ⟨-, -, hlast, -⟩ := h
    have hfile := hlast "promo-1" (by decide +kernel)
    revert hfile
    decide +kernel
  · obtain ⟨-, -, -, hlast, -⟩ := h
    have hfile := hlast "promo-1" (by decide +kernel)
    revert hfile
    decide +kernel

end AdaptiveAdvertisement.Dashboard
