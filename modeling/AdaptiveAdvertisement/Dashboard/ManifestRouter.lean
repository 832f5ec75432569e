import AdaptiveAdvertisement.Dashboard.Manifest
import AdaptiveAdvertisement.Library.Machine

/-!
# The manifest router (`dashboard_api/routers/manifests.py`)

The requests that change a manifest, one at a time with every commit and file operation
succeeding. The five lifecycle requests are one transition with parameters: fetch the row or
404, check the lifecycle or 409, touch the output directory, write the audit event.

Source lines: `_raise_transition_error` 70-77, the disk helpers 95-128, create 168-206, approve
218-249, reject 252-278, enable 281-310, disable 313-341, tags 344-377, archive 491-523. A body
that is refused before its handler answers 422, with no detail of the router; a manifest id in a
path is one path segment.
-/

namespace AdaptiveAdvertisement.Dashboard
open Library

structure PathId where
  value : String
  nonempty : value ≠ ""
  segment : '/' ∉ value.toList

structure HttpError where
  status : ℕ
  detail : Option String
  deriving DecidableEq

structure DashboardState where
  rows : Dict String Manifest := Dict.empty
  events : List AuditEvent := []
  outputDir : Directory := Dict.empty

abbrev Response := Except HttpError Manifest

def unprocessable : HttpError := ⟨422, none⟩

def manifestNotFound (manifestId : String) : HttpError :=
  ⟨404, some ("Manifest '" ++ manifestId ++ "' not found.")⟩

def transitionError (manifestId : String) (current target : ManifestStatus) : HttpError :=
  ⟨409, some ("Manifest '" ++ manifestId ++ "' cannot transition from '" ++ current.value ++
    "' to '" ++ target.value ++ "'.")⟩

def manifestFile (manifestId : String) : String := manifestId ++ ".json"

inductive DiskEffect where
  | keep
  | write
  | remove

section Requests

variable {τ : Type} (codec : Codec τ)

def applyDisk (dir : Directory) (m : Manifest) : DiskEffect → Directory
  | .keep => dir
  | .write =>
    dir.set (manifestFile m.manifestId) (.content (codec.loads (codec.dumps m.manifestJson)))
  | .remove => dir.erase (manifestFile m.manifestId)

-- a lifecycle request changes neither the id nor the content of a row
def moved (target : ManifestStatus) (update : Manifest → Manifest) (m : Manifest) : Manifest :=
  { update m with manifestId := m.manifestId, manifestJson := m.manifestJson, status := target }

/-- The common course of the lifecycle requests. -/
def transition (d : DashboardState) (id : PathId) (target : ManifestStatus)
    (conflict : Manifest → HttpError) (effect : Manifest → DiskEffect)
    (update : Manifest → Manifest) (event : Manifest → AuditEvent) :
    DashboardState × Response :=
  match d.rows.get id.value with
  | none => (d, .error (manifestNotFound id.value))
  | some m =>
    if canTransition m.status target then
      ({ rows := d.rows.set id.value (moved target update m)
         events := d.events ++ [event m]
         outputDir := applyDisk codec d.outputDir (moved target update m) (effect m) },
        .ok (moved target update m))
    else (d, .error (conflict m))

def lifecycleEvent (eventType : String) (id : PathId) (actor : String)
    (payload : List (String × Json)) : AuditEvent :=
  ⟨eventType, "manifest", id.value, actor, .obj payload⟩

def previousStatus (m : Manifest) : String × Json := ("previous_status", .str m.status.value)

def ManifestIn.row (body : ManifestIn) : Manifest where
  manifestId := body.manifestId
  title := body.title
  schemaVersion := body.schemaVersion
  manifestJson := body.manifestJson
  audienceTags := body.audienceTags

def createdEvent (body : ManifestIn) : AuditEvent where
  eventType := "manifest.created"
  entityType := "manifest"
  entityId := body.manifestId
  payload := .obj [("title", .str body.title), ("schema_version", .str body.schemaVersion),
    ("audience_tags", ofStrings body.audienceTags)]

def createManifest (d : DashboardState) (body : ManifestIn) : DashboardState × Response :=
  if !body.valid then (d, .error unprocessable)
  else if d.rows.contains body.manifestId then
    (d, .error ⟨409, some ("manifest_id '" ++ body.manifestId ++ "' already exists.")⟩)
  else
    ({ d with rows := d.rows.set body.manifestId body.row
              events := d.events ++ [createdEvent body] }, .ok body.row)

def approveManifest (d : DashboardState) (id : PathId) (body : ApproveRequest) (now : ℚ) :
    DashboardState × Response :=
  if !body.valid then (d, .error unprocessable)
  else
    transition codec d id .approved (fun m => transitionError id.value m.status .approved)
      (fun _ => .keep)
      (fun m => { m with
        approvedBy := some body.approvedBy, approvedAt := some now, rejectionReason := none })
      (fun m => lifecycleEvent "manifest.approved" id body.approvedBy [previousStatus m])

def rejectManifest (d : DashboardState) (id : PathId) (body : RejectRequest) :
    DashboardState × Response :=
  if !body.valid then (d, .error unprocessable)
  else
    transition codec d id .rejected (fun m => transitionError id.value m.status .rejected)
      (fun _ => .keep) (fun m => { m with rejectionReason := some body.reason })
      (fun m => lifecycleEvent "manifest.rejected" id body.rejectedBy
        [previousStatus m, ("reason", .str body.reason)])

def enableManifest (d : DashboardState) (id : PathId) (now : ℚ) : DashboardState × Response :=
  transition codec d id .enabled (fun m => transitionError id.value m.status .enabled)
    (fun _ => .write) (fun m => { m with enabledAt := some now })
    (fun m => lifecycleEvent "manifest.enabled" id "operator" [previousStatus m])

def disableManifest (d : DashboardState) (id : PathId) : DashboardState × Response :=
  transition codec d id .disabled (fun m => transitionError id.value m.status .disabled)
    (fun _ => .remove) (fun m => m)
    (fun _ => lifecycleEvent "manifest.disabled" id "operator" [])

def archiveManifest (d : DashboardState) (id : PathId) : DashboardState × Response :=
  transition codec d id .archived
    (fun _ => ⟨409, some ("Manifest '" ++ id.value ++ "' is already archived.")⟩)
    (fun m => if m.status = .enabled then .remove else .keep) (fun m => m)
    (fun m => lifecycleEvent "manifest.archived" id "operator" [previousStatus m])

def updateManifestTags (d : DashboardState) (id : PathId) (tags : List String) :
    DashboardState × Response :=
  if !validAudienceTags tags then (d, .error unprocessable)
  else
    match d.rows.get id.value with
    | none => (d, .error (manifestNotFound id.value))
    | some m =>
      if m.status = .archived then
        (d, .error
          ⟨409, some ("Cannot update tags on archived manifest '" ++ id.value ++ "'.")⟩)
      else
        ({ d with
            rows := d.rows.set id.value { m with audienceTags := tags }
            events := d.events ++ [lifecycleEvent "manifest.tags_updated" id "operator"
              [("old_tags", ofStrings m.audienceTags), ("new_tags", ofStrings tags)]] },
          .ok { m with audienceTags := tags })

inductive ManifestRequest where
  | create (body : ManifestIn)
  | approve (id : PathId) (body : ApproveRequest) (now : ℚ)
  | reject (id : PathId) (body : RejectRequest)
  | enable (id : PathId) (now : ℚ)
  | disable (id : PathId)
  | updateTags (id : PathId) (tags : List String)
  | archive (id : PathId)

def DashboardState.handle (d : DashboardState) : ManifestRequest → DashboardState × Response
  | .create body => createManifest d body
  | .approve id body now => approveManifest codec d id body now
  | .reject id body => rejectManifest codec d id body
  | .enable id now => enableManifest codec d id now
  | .disable id => disableManifest codec d id
  | .updateTags id tags => updateManifestTags d id tags
  | .archive id => archiveManifest codec d id

def router : Machine DashboardState ManifestRequest Response :=
  ⟨{}, DashboardState.handle codec⟩

/-! ### The directory mirrors the enabled rows -/

def fileOf (m : Manifest) : Option FileRead :=
  if m.status = .enabled then some (.content (codec.loads (codec.dumps m.manifestJson))) else none

/-- The rows are kept under their own ids, and the output directory holds exactly the content
of the enabled ones. -/
structure Mirrors (d : DashboardState) : Prop where
  keyed : ∀ id m, d.rows.get id = some m → m.manifestId = id
  present : ∀ id m, d.rows.get id = some m → d.outputDir.get (manifestFile id) = fileOf codec m
  absent : ∀ name, (∀ id, d.rows.get id ≠ none → name ≠ manifestFile id) →
    d.outputDir.get name = none

theorem manifestFile_injective {a b : String} (h : manifestFile a = manifestFile b) : a = b := by
  have hl := congrArg String.toList h
  simp only [manifestFile, String.toList_append] at hl
  exact String.ext (List.append_cancel_right hl)

variable {codec}

theorem mirrors_init : Mirrors codec {} where
  keyed := by simp
  present := by simp
  absent := by simp

theorem keyed_set {rows : Dict String Manifest} {id : String} {m : Manifest}
    (h : ∀ id m, rows.get id = some m → m.manifestId = id) (hid : m.manifestId = id) :
    ∀ other m', (rows.set id m).get other = some m' → m'.manifestId = other := by
  intro other m' hm'
  rw [Dict.get_set] at hm'
  split_ifs at hm' with hother
  · obtain rfl := Option.some.inj hm'
    exact hid.trans hother.symm
  · exact h other m' hm'

/-- Writing one row keeps the mirror when the directory changes only at the row's file, to
what the new row asks for. -/
theorem mirrors_set {d : DashboardState} (h : Mirrors codec d) {id : String} {m : Manifest}
    (hid : m.manifestId = id) {dir : Directory}
    (hdir : ∀ name, dir.get name =
      if name = manifestFile id then fileOf codec m else d.outputDir.get name)
    (events : List AuditEvent) :
    Mirrors codec { rows := d.rows.set id m, events := events, outputDir := dir } where
  keyed := keyed_set h.keyed hid
  present := by
    intro j m' hj
    rw [Dict.get_set] at hj
    rw [hdir]
    by_cases hji : j = id
    · rw [if_pos hji, Option.some.injEq] at hj
      rw [if_pos (by rw [hji]), hj]
    · rw [if_neg hji] at hj
      rw [if_neg fun he => hji (manifestFile_injective he)]
      exact h.present j m' hj
  absent := by
    intro name hname
    have hne : name ≠ manifestFile id := hname id (by simp)
    rw [hdir, if_neg hne]
    refine h.absent name fun j hj => hname j ?_
    rw [Dict.get_set]
    split
    · simp
    · exact hj

theorem applyDisk_get {d : DashboardState} {m : Manifest} (effect : DiskEffect)
    (hkeep : effect = .keep → d.outputDir.get (manifestFile m.manifestId) = fileOf codec m)
    (hwrite : effect = .write → m.status = .enabled)
    (hremove : effect = .remove → m.status ≠ .enabled) (name : String) :
    (applyDisk codec d.outputDir m effect).get name =
      if name = manifestFile m.manifestId then fileOf codec m else d.outputDir.get name := by
  cases effect with
  | keep =>
    by_cases hn : name = manifestFile m.manifestId
    · rw [if_pos hn, hn]
      exact hkeep rfl
    · rw [if_neg hn]
      rfl
  | write => simp [applyDisk, Dict.get_set, fileOf, hwrite rfl]
  | remove => simp [applyDisk, Dict.get_erase, fileOf, hremove rfl]

/-- A transition keeps the mirror when it writes on the way to `enabled`, removes on the way
out of it, and leaves the directory alone otherwise. -/
theorem transition_mirrors {d : DashboardState} (h : Mirrors codec d) (id : PathId)
    (target : ManifestStatus) (conflict : Manifest → HttpError) (effect : Manifest → DiskEffect)
    (update : Manifest → Manifest) (event : Manifest → AuditEvent)
    (hkeep : ∀ m, canTransition m.status target = true → effect m = .keep →
      m.status ≠ .enabled ∧ target ≠ .enabled)
    (hwrite : ∀ m, effect m = .write → target = .enabled)
    (hremove : ∀ m, effect m = .remove → target ≠ .enabled) :
    Mirrors codec (transition codec d id target conflict effect update event).1 := by
  unfold transition
  cases hm : d.rows.get id.value with
  | none => exact h
  | some m =>
    by_cases hc : canTransition m.status target = true
    · simp only [hc, ite_true]
      have hid : m.manifestId = id.value := h.keyed _ _ hm
      refine mirrors_set (m := moved target update m) h hid ?_ _
      intro name
      rw [← hid]
      refine applyDisk_get (m := moved target update m) (effect m) ?_ (hwrite m) (hremove m) name
      intro he
      obtain ⟨hold, hnew⟩ := hkeep m hc he
      have hfile := h.present _ _ hm
      rw [← hid] at hfile
      simpa [fileOf, moved, hold, hnew] using hfile
    · simpa [hc] using h

theorem createManifest_mirrors {d : DashboardState} (h : Mirrors codec d) (body : ManifestIn) :
    Mirrors codec (createManifest d body).1 := by
  unfold createManifest
  split
  · exact h
  split
  · exact h
  next hnew =>
    have hnone : d.rows.get body.manifestId = none := by
      rw [Dict.get_eq_none_iff]
      simpa [Dict.contains] using hnew
    refine mirrors_set (m := body.row) h rfl ?_ _
    intro name
    change _ = if name = manifestFile body.manifestId then _ else _
    by_cases hn : name = manifestFile body.manifestId
    · rw [if_pos hn]
      refine (h.absent name fun j hj he => hj ?_).trans (by simp [fileOf, ManifestIn.row])
      rw [manifestFile_injective (he.symm.trans hn), hnone]
    · rw [if_neg hn]

theorem updateManifestTags_mirrors {d : DashboardState} (h : Mirrors codec d) (id : PathId)
    (tags : List String) : Mirrors codec (updateManifestTags d id tags).1 := by
  unfold updateManifestTags
  split
  · exact h
  split
  · exact h
  next m hm =>
    split
    · exact h
    · have hid : m.manifestId = id.value := h.keyed _ _ hm
      refine mirrors_set (m := { m with audienceTags := tags }) h hid ?_ _
      intro name
      by_cases hn : name = manifestFile id.value
      · rw [if_pos hn, hn, h.present _ _ hm]
        rfl
      · rw [if_neg hn]

theorem canTransition_not_enabled {current target : ManifestStatus}
    (ht : target = .approved ∨ target = .rejected) (h : canTransition current target = true) :
    current ≠ .enabled ∧ target ≠ .enabled := by
  rcases ht with rfl | rfl <;> cases current <;> simp [canTransition, validTransitions] at h ⊢

theorem approveManifest_mirrors {d : DashboardState} (h : Mirrors codec d) (id : PathId)
    (body : ApproveRequest) (now : ℚ) :
    Mirrors codec (approveManifest codec d id body now).1 := by
  unfold approveManifest
  split
  · exact h
  · exact transition_mirrors h id _ _ _ _ _
      (fun _ hc _ => canTransition_not_enabled (Or.inl rfl) hc) (by simp) (by simp)

theorem rejectManifest_mirrors {d : DashboardState} (h : Mirrors codec d) (id : PathId)
    (body : RejectRequest) : Mirrors codec (rejectManifest codec d id body).1 := by
  unfold rejectManifest
  split
  · exact h
  · exact transition_mirrors h id _ _ _ _ _
      (fun _ hc _ => canTransition_not_enabled (Or.inr rfl) hc) (by simp) (by simp)

theorem handle_mirrors (d : DashboardState) (req : ManifestRequest) (h : Mirrors codec d) :
    Mirrors codec (d.handle codec req).1 := by
  cases req with
  | create body => exact createManifest_mirrors h body
  | updateTags id tags => exact updateManifestTags_mirrors h id tags
  | approve id body now => exact approveManifest_mirrors h id body now
  | reject id body => exact rejectManifest_mirrors h id body
  | enable id now => exact transition_mirrors h id _ _ _ _ _ (by simp) (by simp) (by simp)
  | disable id => exact transition_mirrors h id _ _ _ _ _ (by simp) (by simp) (by simp)
  | archive id =>
    refine transition_mirrors h id _ _ _ _ _ ?_ ?_ (by simp)
    · intro m _ he
      by_cases hs : m.status = .enabled <;> simp [hs] at he ⊢
    · intro m he
      by_cases hs : m.status = .enabled <;> simp [hs] at he

theorem router_mirrors (reqs : List ManifestRequest) :
    Mirrors codec ((router codec).run (router codec).init reqs) :=
  Machine.run_inv (M := router codec) handle_mirrors mirrors_init reqs

/-! ### No row is deleted -/

theorem transition_rows (d : DashboardState) (id : PathId) (target : ManifestStatus)
    (conflict : Manifest → HttpError) (effect : Manifest → DiskEffect)
    (update : Manifest → Manifest) (event : Manifest → AuditEvent) :
    (transition codec d id target conflict effect update event).1.rows = d.rows ∨
      ∃ key m, (transition codec d id target conflict effect update event).1.rows =
        d.rows.set key m := by
  unfold transition
  cases d.rows.get id.value with
  | none => exact Or.inl rfl
  | some m =>
    dsimp only
    split_ifs with hcheck
    · exact Or.inr ⟨id.value, _, rfl⟩
    · exact Or.inl rfl

theorem handle_rows (codec : Codec τ) (d : DashboardState) (req : ManifestRequest) :
    (d.handle codec req).1.rows = d.rows ∨
      ∃ key m, (d.handle codec req).1.rows = d.rows.set key m := by
  cases req with
  | create body =>
    simp only [DashboardState.handle, createManifest]
    split_ifs with hvalid hknown
    · exact Or.inl rfl
    · exact Or.inl rfl
    · exact Or.inr ⟨body.manifestId, body.row, rfl⟩
  | updateTags id tags =>
    simp only [DashboardState.handle, updateManifestTags]
    split_ifs with hvalid
    · exact Or.inl rfl
    · cases d.rows.get id.value with
      | none => exact Or.inl rfl
      | some m =>
        dsimp only
        split_ifs with harchived
        · exact Or.inl rfl
        · exact Or.inr ⟨id.value, _, rfl⟩
  | approve id body now =>
    simp only [DashboardState.handle, approveManifest]
    split_ifs with hvalid
    · exact Or.inl rfl
    · exact transition_rows d id _ _ _ _ _
  | reject id body =>
    simp only [DashboardState.handle, rejectManifest]
    split_ifs with hvalid
    · exact Or.inl rfl
    · exact transition_rows d id _ _ _ _ _
  | enable id now => exact transition_rows d id _ _ _ _ _
  | disable id => exact transition_rows d id _ _ _ _ _
  | archive id => exact transition_rows d id _ _ _ _ _

theorem handle_known (codec : Codec τ) (d : DashboardState) (req : ManifestRequest) {key : String}
    (h : d.rows.get key ≠ none) : (d.handle codec req).1.rows.get key ≠ none := by
  rcases handle_rows codec d req with hrows | ⟨other, m, hrows⟩
  · rwa [hrows]
  · rw [hrows, Dict.get_set]
    split_ifs
    · simp
    · exact h

end Requests

end AdaptiveAdvertisement.Dashboard
