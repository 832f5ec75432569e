import AdaptiveAdvertisement.Dashboard.FailingRequests

/-!
# Replaying the audit log (`dashboard_api/events.py`)

What the audit events of a manifest tell of it, read from their types, actors and payloads, in the
order in which they were committed. The types are those of `events.py:21-28`.
-/

namespace AdaptiveAdvertisement.Dashboard
open Library

/-- What the log is to reproduce of a row. -/
structure ManifestView where
  status : ManifestStatus
  tags : List String
  approvedBy : Option String
  rejectionReason : Option String
  deriving DecidableEq

def Manifest.view (m : Manifest) : ManifestView :=
  ⟨m.status, m.audienceTags, m.approvedBy, m.rejectionReason⟩

def payloadStrings (payload : Json) (key : String) : List String :=
  match payload.get? key with
  | some (.arr xs) => xs.filterMap Json.asStr?
  | _ => []

def payloadString (payload : Json) (key : String) : Option String :=
  (payload.get? key).bind Json.asStr?

def applyEvent (v : Option ManifestView) (e : AuditEvent) : Option ManifestView :=
  if e.eventType = "manifest.created" then
    some ⟨.draft, payloadStrings e.payload "audience_tags", none, none⟩
  else
    v.map fun v =>
      if e.eventType = "manifest.approved" then
        { v with status := .approved, approvedBy := some e.actor, rejectionReason := none }
      else if e.eventType = "manifest.rejected" then
        { v with status := .rejected, rejectionReason := payloadString e.payload "reason" }
      else if e.eventType = "manifest.enabled" then { v with status := .enabled }
      else if e.eventType = "manifest.disabled" then { v with status := .disabled }
      else if e.eventType = "manifest.archived" then { v with status := .archived }
      else if e.eventType = "manifest.tags_updated" then
        { v with tags := payloadStrings e.payload "new_tags" }
      else v

def AuditEvent.isOf (id : String) (e : AuditEvent) : Bool :=
  decide (e.entityType = "manifest" ∧ e.entityId = id)

def replay (id : String) (events : List AuditEvent) : Option ManifestView :=
  (events.filter (AuditEvent.isOf id)).foldl applyEvent none

/-! ### The law -/

def Reproduced (d : DashboardState) : Prop :=
  ∀ id, replay id d.events = (d.rows.get id).map Manifest.view

/-- One row is written, and one event of it. -/
def Recorded (d d' : DashboardState) (m : Manifest) : Prop :=
  d'.rows = d.rows.set m.manifestId m ∧
    ∃ e : AuditEvent, e.isOf m.manifestId = true ∧ d'.events = d.events ++ [e]

def Unrecorded (d d' : DashboardState) : Prop := d'.rows = d.rows ∧ d'.events = d.events

section Law

variable {τ : Type} (codec : Codec τ)

/-- After a request the log reproduces the rows; a change comes with one event of its manifest, and
a request that is refused or fails changes neither rows nor log. -/
structure Audits (d : DashboardState) (a : Attempt) : Prop where
  reproduced : Reproduced (d.attempt codec a).1
  changed : ∀ m, (d.attempt codec a).2 = .ok m → Recorded d (d.attempt codec a).1 m
  unchanged : ∀ e, (d.attempt codec a).2 = .error e → Unrecorded d (d.attempt codec a).1

end Law

/-! ### One event more -/

section Events

variable {d : DashboardState} {id : String} {e : AuditEvent} {m : Manifest}

theorem replay_snoc (h : e.isOf id = true) (events : List AuditEvent) :
    replay id (events ++ [e]) = applyEvent (replay id events) e := by
  rw [replay, List.filter_append, List.filter_cons_of_pos h, List.foldl_append]
  rfl

theorem replay_snoc_other (h : e.isOf id = false) (events : List AuditEvent) :
    replay id (events ++ [e]) = replay id events := by
  rw [replay, List.filter_append, List.filter_cons_of_neg (by simp [h]), List.filter_nil,
    List.append_nil]
  rfl

theorem isOf_unique {other : String} (h : e.isOf id = true) (hother : other ≠ id) :
    e.isOf other = false := by
  obtain ⟨htype, hid⟩ := of_decide_eq_true h
  exact decide_eq_false fun hof => hother (hof.2.symm.trans hid)

/-- An event that takes the old view of a row to the new one keeps the log in step. -/
theorem reproduced_set {d' : DashboardState} (h : Reproduced d) (he : e.isOf id = true)
    (hview : applyEvent ((d.rows.get id).map Manifest.view) e = some m.view)
    (hrows : d'.rows = d.rows.set id m) (hevents : d'.events = d.events ++ [e]) :
    Reproduced d' := by
  intro other
  rw [hrows, hevents, Dict.get_set]
  by_cases hother : other = id
  · subst hother
    rw [replay_snoc he, h other, hview, if_pos rfl]
    rfl
  · rw [replay_snoc_other (isOf_unique he hother), h other, if_neg hother]

theorem payloadStrings_ofStrings (key : String) (xs : List String) (ms : List (String × Json))
    (hfind : Dict.find key ms = some (ofStrings xs)) : payloadStrings (.obj ms) key = xs := by
  simp [payloadStrings, hfind, ofStrings, List.filterMap_map, Function.comp_def]

theorem applyEvent_created (body : ManifestIn) (v : Option ManifestView) :
    applyEvent v (createdEvent body) = some body.row.view := by
  have htags := payloadStrings_ofStrings "audience_tags" body.audienceTags
    [("title", .str body.title), ("schema_version", .str body.schemaVersion),
      ("audience_tags", ofStrings body.audienceTags)] (by simp [Dict.find])
  simp [applyEvent, createdEvent, htags, ManifestIn.row, Manifest.view]

/-- The event of a lifecycle request tells what the request does to the view. -/
theorem applyEvent_lifecycle (r : LifecycleRequest) (id : PathId) (m : Manifest) :
    applyEvent (some m.view) (r.event id m) = some (r.result m).view := by
  cases r <;> simp [applyEvent, LifecycleRequest.event, lifecycleEvent, LifecycleRequest.result,
    LifecycleRequest.update, LifecycleRequest.target, moved, Manifest.view, payloadString,
    previousStatus, Dict.find]

end Events

/-! ### One request -/

section Attempts

variable {τ : Type} {codec : Codec τ} {d : DashboardState} {id : PathId} {r : LifecycleRequest}

structure LogInv (d : DashboardState) : Prop where
  keyed : ∀ id m, d.rows.get id = some m → m.manifestId = id
  reproduced : Reproduced d

/-- What an answer leaves, said of the state and the answer together. -/
inductive Settled (d : DashboardState) : DashboardState × Response → Prop
  | stored {d' : DashboardState} {id : String} {e : AuditEvent} {m : Manifest}
      (hid : m.manifestId = id) (hof : e.isOf id = true)
      (hview : applyEvent ((d.rows.get id).map Manifest.view) e = some m.view)
      (hrows : d'.rows = d.rows.set id m) (hevents : d'.events = d.events ++ [e]) :
      Settled d (d', .ok m)
  | left {d' : DashboardState} {e : HttpError} (hrows : d'.rows = d.rows)
      (hevents : d'.events = d.events) : Settled d (d', .error e)

theorem Settled.refused (d : DashboardState) (e : HttpError) : Settled d (d, .error e) :=
  .left rfl rfl

theorem lifecycleEvent_isOf (eventType : String) (id : PathId) (actor : String)
    (payload : List (String × Json)) :
    (lifecycleEvent eventType id actor payload).isOf id.value = true :=
  decide_eq_true ⟨rfl, rfl⟩

theorem LifecycleRequest.event_isOf (r : LifecycleRequest) (id : PathId) (m : Manifest) :
    (r.event id m).isOf id.value = true := by
  cases r <;> exact lifecycleEvent_isOf _ _ _ _

theorem attemptTransition_settled (h : LogInv d) (commits : Bool) (disk : DiskOutcome) :
    Settled d (attemptTransition codec d id r commits disk) := by
  unfold attemptTransition
  cases r.valid with
  | false => exact .refused d _
  | true =>
    cases hm : d.rows.get id.value with
    | none => exact .refused d _
    | some m =>
      by_cases hcheck : canTransition m.status r.target = true
      · simp only [hcheck, Bool.not_true, Bool.false_eq_true, if_false, if_true]
        cases commits with
        | false => exact .left rfl rfl
        | true =>
          have hview : applyEvent ((d.rows.get id.value).map Manifest.view) (r.event id m) =
              some (r.result m).view := by
            rw [hm]
            exact applyEvent_lifecycle r id m
          exact .stored (h.keyed id.value m hm) (r.event_isOf id m) hview rfl rfl
      · simp only [hcheck]
        exact .refused d _

theorem createManifest_settled (body : ManifestIn) : Settled d (createManifest d body) := by
  unfold createManifest
  split_ifs with hvalid hknown
  · exact .refused d _
  · exact .refused d _
  · exact .stored (m := body.row) rfl (decide_eq_true ⟨rfl, rfl⟩) (applyEvent_created body _)
      rfl rfl

theorem applyEvent_tags (id : PathId) (m : Manifest) (tags : List String) :
    applyEvent (some m.view) (lifecycleEvent "manifest.tags_updated" id "operator"
      [("old_tags", ofStrings m.audienceTags), ("new_tags", ofStrings tags)]) =
        some { m with audienceTags := tags }.view := by
  have htags := payloadStrings_ofStrings "new_tags" tags
    [("old_tags", ofStrings m.audienceTags), ("new_tags", ofStrings tags)] (by simp [Dict.find])
  simp [applyEvent, lifecycleEvent, htags, Manifest.view]

theorem updateManifestTags_settled (h : LogInv d) (id : PathId) (tags : List String) :
    Settled d (updateManifestTags d id tags) := by
  unfold updateManifestTags
  split_ifs with hvalid
  · exact .refused d _
  · cases hm : d.rows.get id.value with
    | none => exact .refused d _
    | some m =>
      dsimp only
      split_ifs with harchived
      · exact .refused d _
      · have hview := applyEvent_tags id m tags
        rw [← Option.map_some (f := Manifest.view), ← hm] at hview
        exact .stored (m := { m with audienceTags := tags }) (h.keyed id.value m hm)
          (lifecycleEvent_isOf _ _ _ _) hview rfl rfl

theorem commitOr_settled {answer : DashboardState × Response} (h : Settled d answer)
    (commits : Bool) : Settled d (commitOr d commits answer) := by
  cases h with
  | left hrows hevents => exact .left hrows hevents
  | stored hid hof hview hrows hevents =>
    cases commits with
    | true => exact .stored hid hof hview hrows hevents
    | false => exact .refused d serverError

theorem attempt_settled (h : LogInv d) (a : Attempt) : Settled d (d.attempt codec a) := by
  cases hreq : a.request.lifecycle? with
  | some x =>
    rw [attempt_lifecycle hreq]
    exact attemptTransition_settled h a.commits a.disk
  | none =>
    rw [attempt_other hreq]
    refine commitOr_settled ?_ a.commits
    rcases lifecycle?_none hreq with ⟨body, hr⟩ | ⟨id, tags, hr⟩
    · rw [hr]
      exact createManifest_settled body
    · rw [hr]
      exact updateManifestTags_settled h id tags

/-! ### Whole runs -/

theorem Settled.inv {answer : DashboardState × Response} (h : LogInv d)
    (hanswer : Settled d answer) : LogInv answer.1 := by
  cases hanswer with
  | left hrows hevents =>
    refine ⟨?_, ?_⟩
    · rw [hrows]
      exact h.keyed
    · intro id
      rw [hrows, hevents]
      exact h.reproduced id
  | stored hid hof hview hrows hevents =>
    refine ⟨?_, reproduced_set h.reproduced hof hview hrows hevents⟩
    rw [hrows]
    exact keyed_set h.keyed hid

theorem Settled.changed {answer : DashboardState × Response} {m : Manifest}
    (hanswer : Settled d answer) (hm : answer.2 = .ok m) : Recorded d answer.1 m := by
  cases hanswer with
  | left => cases hm
  | stored hid hof hview hrows hevents =>
    cases hm
    subst hid
    exact ⟨hrows, _, hof, hevents⟩

theorem Settled.unchanged {answer : DashboardState × Response} {e : HttpError}
    (hanswer : Settled d answer) (he : answer.2 = .error e) : Unrecorded d answer.1 := by
  cases hanswer with
  | left hrows hevents => exact ⟨hrows, hevents⟩
  | stored => cases he

theorem attempt_audits (h : LogInv d) (a : Attempt) : Audits codec d a := by
  have hsettled : Settled d (d.attempt codec a) := attempt_settled h a
  exact ⟨(hsettled.inv h).reproduced, fun _ => hsettled.changed, fun _ => hsettled.unchanged⟩

theorem logInv_init : LogInv {} where
  keyed := by simp
  reproduced := fun id => rfl

/-- Whatever is asked and whichever commits fail, the log tells the rows, one event a change. -/
theorem audits_run (codec : Codec τ) (attempts : List Attempt) :
    (failing codec).EachStep (Audits codec) (failing codec).init attempts :=
  Machine.eachStep_of_inv (I := LogInv) (fun _ a h => (attempt_settled h a).inv h)
    (fun _ a h => attempt_audits h a) logInv_init attempts

end Attempts

end AdaptiveAdvertisement.Dashboard
