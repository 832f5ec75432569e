import AdaptiveAdvertisement.Dashboard.FailingRequests
import Mathlib.Data.List.Sort

/-!
# The campaign router (`dashboard_api/routers/campaigns.py`)

The rows of `campaigns` and `campaign_manifests` (`models.py:153-212`), the request bodies
(`schemas.py:192-217`) and the endpoints that read or change one campaign (lines 45-66, 97-321),
beside the manifest router over the same database. A link holds the unique `manifest_id` of its
manifest in place of the surrogate key, and the links stand in the order of their insertion.
Instants are seconds.
-/

namespace AdaptiveAdvertisement.Dashboard
open Library

inductive CampaignStatus where
  | draft
  | active
  | paused
  | archived
  deriving DecidableEq

def CampaignStatus.value : CampaignStatus → String
  | .draft => "draft"
  | .active => "active"
  | .paused => "paused"
  | .archived => "archived"

def CampaignStatus.all : List CampaignStatus := [.draft, .active, .paused, .archived]

def CampaignStatus.ofValue (s : String) : Option CampaignStatus :=
  CampaignStatus.all.find? fun status => decide (status.value = s)

structure Campaign where
  id : String
  name : String
  description : Option String
  status : CampaignStatus := .draft
  startAt : Option ℚ
  endAt : Option ℚ
  createdAt : ℚ
  updatedAt : ℚ

structure CampaignManifest where
  campaignId : String
  manifestId : String
  position : ℤ
  deriving DecidableEq

structure CampaignIn where
  name : String
  description : Option String := none
  startAt : Option ℚ := none
  endAt : Option ℚ := none

structure CampaignUpdate where
  name : Option String := none
  description : Option String := none
  status : Option String := none
  startAt : Option ℚ := none
  endAt : Option ℚ := none

structure CampaignOut extends Campaign where
  manifestIds : List String := []

def CampaignIn.valid (b : CampaignIn) : Bool :=
  lengthIn 1 255 b.name && b.description.all (lengthIn 0 2048)

def CampaignUpdate.valid (b : CampaignUpdate) : Bool :=
  b.name.all (lengthIn 1 255) && b.description.all (lengthIn 0 2048)

structure CampaignState where
  dashboard : DashboardState := {}
  campaigns : Dict String Campaign := Dict.empty
  links : List CampaignManifest := []

/-- How the database answers a query ordered by position: equal positions in any order. -/
structure LinkOrder where
  sort : List CampaignManifest → List CampaignManifest
  perm : ∀ links, (sort links).Perm links
  sorted : ∀ links, (sort links).Pairwise fun a b => a.position ≤ b.position

abbrev CampaignResponse := Except HttpError CampaignOut

def campaignNotFound (campaignId : String) : HttpError :=
  ⟨404, some ("Campaign '" ++ campaignId ++ "' not found.")⟩

def campaignEvent (eventType campaignId : String) (payload : List (String × Json)) :
    AuditEvent where
  eventType := eventType
  entityType := "campaign"
  entityId := campaignId
  payload := .obj payload

namespace CampaignState

variable (d : CampaignState) (order : LinkOrder)

def linksOf (campaignId : String) : List CampaignManifest :=
  d.links.filter fun l => decide (l.campaignId = campaignId)

def writeEvent (e : AuditEvent) : CampaignState :=
  { d with dashboard := { d.dashboard with events := d.dashboard.events ++ [e] } }

def setCampaign (c : Campaign) : CampaignState := { d with campaigns := d.campaigns.set c.id c }

/-! ### The answer to every request (45-66) -/

def linkedManifestId (l : CampaignManifest) : Option String :=
  match d.dashboard.rows.get l.manifestId with
  | none => none
  | some m => if m.manifestId = "" then none else some m.manifestId

def buildCampaignOut (c : Campaign) : CampaignOut :=
  { c with manifestIds := (order.sort (d.linksOf c.id)).filterMap d.linkedManifestId }

def answer (c : Campaign) : CampaignState × CampaignResponse :=
  (d, .ok (d.buildCampaignOut order c))

/-! ### The endpoints -/

def createCampaign (newId : String) (body : CampaignIn) (now : ℚ) :
    CampaignState × CampaignResponse :=
  if !body.valid then (d, .error unprocessable)
  -- a second row under one primary key fails at the flush
  else if d.campaigns.contains newId then (d, .error serverError)
  else
    let c : Campaign :=
      { id := newId, name := body.name, description := body.description, startAt := body.startAt,
        endAt := body.endAt, createdAt := now, updatedAt := now }
    ((d.setCampaign c).writeEvent
      (campaignEvent "campaign.created" newId [("name", .str body.name)])).answer order c

def getCampaign (id : PathId) : CampaignState × CampaignResponse :=
  match d.campaigns.get id.value with
  | none => (d, .error (campaignNotFound id.value))
  | some c => d.answer order c

end CampaignState

/-- The status that an update asks for, if it asks for one. -/
def CampaignUpdate.readStatus (b : CampaignUpdate) : Except HttpError (Option CampaignStatus) :=
  match b.status with
  | none => .ok none
  | some s =>
    match CampaignStatus.ofValue s with
    | none => .error ⟨422, some ("Invalid campaign status: " ++ s)⟩
    | some status => .ok (some status)

def CampaignUpdate.apply (b : CampaignUpdate) (status : Option CampaignStatus) (now : ℚ)
    (c : Campaign) : Campaign :=
  { c with
    name := b.name.getD c.name
    description := b.description <|> c.description
    status := status.getD c.status
    startAt := b.startAt <|> c.startAt
    endAt := b.endAt <|> c.endAt
    updatedAt := now }

def CampaignUpdate.changes (b : CampaignUpdate) (c : Campaign) : List (String × Json) :=
  (b.name.map fun s => ("name", Json.str s)).toList ++
  (b.description.map fun s => ("description", Json.str s)).toList ++
  match b.status with
  | none => []
  | some s => [("previous_status", .str c.status.value), ("new_status", .str s)]

def manifestActivatable (m : Manifest) : Bool :=
  decide (m.status = .approved ∨ m.status = .enabled)

def notActivatable (manifestId : String) (m : Manifest) : HttpError :=
  ⟨409, some ("Manifest '" ++ manifestId ++ "' has status '" ++ m.status.value ++
    "'. Only approved or enabled manifests can be added to a campaign.")⟩

def maxPosition (links : List CampaignManifest) : Option ℤ :=
  (links.map CampaignManifest.position).max?

-- `scalar_one_or_none() or -1`: a maximum of 0 counts as none
def orMinusOne : Option ℤ → ℤ
  | none => -1
  | some p => if p = 0 then -1 else p

def nextPosition (links : List CampaignManifest) : ℤ := orMinusOne (maxPosition links) + 1

def CampaignManifest.isLink (campaignId manifestId : String) (l : CampaignManifest) : Bool :=
  decide (l.campaignId = campaignId ∧ l.manifestId = manifestId)

namespace CampaignState

variable (d : CampaignState) (order : LinkOrder)

def linked (campaignId manifestId : String) : Bool :=
  d.links.any (CampaignManifest.isLink campaignId manifestId)

def addLink (campaignId manifestId : String) : CampaignState :=
  { d with links := d.links ++ [⟨campaignId, manifestId, nextPosition (d.linksOf campaignId)⟩] }

def removeLink (campaignId manifestId : String) : CampaignState :=
  { d with links := d.links.filter fun l => !l.isLink campaignId manifestId }

def updateCampaign (id : PathId) (body : CampaignUpdate) (now : ℚ) :
    CampaignState × CampaignResponse :=
  if !body.valid then (d, .error unprocessable)
  else
    match d.campaigns.get id.value with
    | none => (d, .error (campaignNotFound id.value))
    | some c =>
      if c.status = .archived then (d, .error ⟨409, some "Cannot update an archived campaign."⟩)
      else
        match body.readStatus with
        | .error e => (d, .error e)
        | .ok status =>
          ((d.setCampaign (body.apply status now c)).writeEvent
            (campaignEvent "campaign.updated" id.value (body.changes c))).answer order
              (body.apply status now c)

def addManifestToCampaign (id manifestId : PathId) : CampaignState × CampaignResponse :=
  match d.campaigns.get id.value with
  | none => (d, .error (campaignNotFound id.value))
  | some c =>
    if c.status = .archived then (d, .error ⟨409, some "Cannot modify an archived campaign."⟩)
    else
      match d.dashboard.rows.get manifestId.value with
      | none => (d, .error (manifestNotFound manifestId.value))
      | some m =>
        if !manifestActivatable m then (d, .error (notActivatable manifestId.value m))
        else if d.linked id.value manifestId.value then d.answer order c
        else
          ((d.addLink id.value manifestId.value).writeEvent
            (campaignEvent "campaign.manifest_added" id.value
              [("manifest_id", .str manifestId.value)])).answer order c

def removeManifestFromCampaign (id manifestId : PathId) : CampaignState × CampaignResponse :=
  match d.campaigns.get id.value with
  | none => (d, .error (campaignNotFound id.value))
  | some c =>
    match d.dashboard.rows.get manifestId.value with
    | none => (d, .error ⟨404, some "Manifest not found."⟩)
    | some _ =>
      if d.linked id.value manifestId.value then
        ((d.removeLink id.value manifestId.value).writeEvent
          (campaignEvent "campaign.manifest_removed" id.value
            [("manifest_id", .str manifestId.value)])).answer order c
      else
        (d, .error
          ⟨404, some ("Manifest '" ++ manifestId.value ++ "' is not in this campaign.")⟩)

def archiveCampaign (id : PathId) (now : ℚ) : CampaignState × CampaignResponse :=
  match d.campaigns.get id.value with
  | none => (d, .error (campaignNotFound id.value))
  | some c =>
    if c.status = .archived then (d, .error ⟨409, some "Campaign is already archived."⟩)
    else
      ((d.setCampaign { c with status := .archived, updatedAt := now }).writeEvent
        (campaignEvent "campaign.archived" id.value
          [("previous_status", .str c.status.value)])).answer order
            { c with status := .archived, updatedAt := now }

end CampaignState

inductive CampaignRequest where
  | create (newId : String) (body : CampaignIn) (now : ℚ)
  | get (id : PathId)
  | update (id : PathId) (body : CampaignUpdate) (now : ℚ)
  | add (id manifestId : PathId)
  | remove (id manifestId : PathId)
  | archive (id : PathId) (now : ℚ)

/-- A request of either router; a campaign request comes with the order of its answer. -/
inductive DashboardCall where
  | campaign (request : CampaignRequest) (order : LinkOrder)
  | manifest (request : ManifestRequest)

inductive DashboardAnswer where
  | campaign (response : CampaignResponse)
  | manifest (response : Response)

section Calls

variable {τ : Type} (codec : Codec τ)

def CampaignState.handle (d : CampaignState) (order : LinkOrder) :
    CampaignRequest → CampaignState × CampaignResponse
  | .create newId body now => d.createCampaign order newId body now
  | .get id => d.getCampaign order id
  | .update id body now => d.updateCampaign order id body now
  | .add id manifestId => d.addManifestToCampaign order id manifestId
  | .remove id manifestId => d.removeManifestFromCampaign order id manifestId
  | .archive id now => d.archiveCampaign order id now

def CampaignState.call (d : CampaignState) : DashboardCall → CampaignState × DashboardAnswer
  | .campaign request order =>
    ((d.handle order request).1, .campaign (d.handle order request).2)
  | .manifest request =>
    ({ d with dashboard := (d.dashboard.handle codec request).1 },
      .manifest (d.dashboard.handle codec request).2)

def campaignRouter : Machine CampaignState DashboardCall DashboardAnswer :=
  ⟨{}, CampaignState.call codec⟩

end Calls

/-! ### What a call changes -/

namespace CampaignState

section Fields

variable (d : CampaignState)

@[simp] theorem writeEvent_campaigns (e : AuditEvent) :
    (d.writeEvent e).campaigns = d.campaigns := rfl

@[simp] theorem writeEvent_linksOf (e : AuditEvent) (campaignId : String) :
    (d.writeEvent e).linksOf campaignId = d.linksOf campaignId := rfl

@[simp] theorem answer_fst (order : LinkOrder) (c : Campaign) : (d.answer order c).1 = d := rfl

end Fields

/-- An add request that gets as far as a new link. -/
def Appends (d : CampaignState) (id manifestId : PathId) : Prop :=
  ∃ c m, d.campaigns.get id.value = some c ∧ c.status ≠ .archived ∧
    d.dashboard.rows.get manifestId.value = some m ∧ manifestActivatable m = true ∧
    d.linked id.value manifestId.value = false

/-- A remove request that gets as far as a link. -/
def Unlinks (d : CampaignState) (id manifestId : PathId) : Prop :=
  ∃ c m, d.campaigns.get id.value = some c ∧ d.dashboard.rows.get manifestId.value = some m ∧
    d.linked id.value manifestId.value = true

inductive Change {τ : Type} (codec : Codec τ) (d : CampaignState) (call : DashboardCall) :
    CampaignState → Prop
  | manifest (request : ManifestRequest) (hcall : call = .manifest request) :
      Change codec d call { d with dashboard := (d.dashboard.handle codec request).1 }
  | kept : Change codec d call d
  | stored (c : Campaign) (e : AuditEvent)
      (hopen : ∀ old, d.campaigns.get c.id = some old → old.status ≠ .archived) :
      Change codec d call ((d.setCampaign c).writeEvent e)
  | appended (id manifestId : PathId) (order : LinkOrder) (e : AuditEvent)
      (hcall : call = .campaign (.add id manifestId) order) (happends : d.Appends id manifestId) :
      Change codec d call ((d.addLink id.value manifestId.value).writeEvent e)
  | removed (id manifestId : PathId) (order : LinkOrder) (e : AuditEvent)
      (hcall : call = .campaign (.remove id manifestId) order)
      (hunlinks : d.Unlinks id manifestId) :
      Change codec d call ((d.removeLink id.value manifestId.value).writeEvent e)

def Keyed (d : CampaignState) : Prop := ∀ id c, d.campaigns.get id = some c → c.id = id

variable {τ : Type} {codec : Codec τ} {d : CampaignState} {order : LinkOrder}
  {id manifestId : PathId}

theorem addManifestToCampaign_appends (order : LinkOrder) (h : d.Appends id manifestId) :
    ∃ e, (d.addManifestToCampaign order id manifestId).1 =
      (d.addLink id.value manifestId.value).writeEvent e := by
  obtain ⟨c, m, hc, hopen, hm, hactivatable, hlinked⟩ := h
  refine ⟨campaignEvent "campaign.manifest_added" id.value
    [("manifest_id", .str manifestId.value)], ?_⟩
  simp only [addManifestToCampaign, hc, hopen, hm, hactivatable, hlinked, if_false, Bool.not_true,
    Bool.false_eq_true, answer_fst]

theorem addManifestToCampaign_kept (order : LinkOrder) (h : ¬ d.Appends id manifestId) :
    (d.addManifestToCampaign order id manifestId).1 = d := by
  unfold addManifestToCampaign
  cases hc : d.campaigns.get id.value with
  | none => rfl
  | some c =>
    by_cases harchived : c.status = .archived
    · simp only [harchived, if_true]
    · cases hm : d.dashboard.rows.get manifestId.value with
      | none => simp only [harchived, if_false]
      | some m =>
        simp only [harchived, if_false]
        split_ifs with hactivatable hlinked
        · rfl
        · rfl
        · exact absurd ⟨c, m, hc, harchived, hm, by simpa using hactivatable,
            by simpa using hlinked⟩ h

theorem removeManifestFromCampaign_unlinks (order : LinkOrder) (h : d.Unlinks id manifestId) :
    ∃ e out, d.removeManifestFromCampaign order id manifestId =
      ((d.removeLink id.value manifestId.value).writeEvent e, .ok out) := by
  obtain ⟨c, m, hc, hm, hlinked⟩ := h
  exact ⟨_, _, by simp only [removeManifestFromCampaign, hc, hm, hlinked, if_true]; rfl⟩

theorem removeManifestFromCampaign_refused (order : LinkOrder) (h : ¬ d.Unlinks id manifestId) :
    ∃ e, d.removeManifestFromCampaign order id manifestId = (d, .error e) := by
  unfold removeManifestFromCampaign
  cases hc : d.campaigns.get id.value with
  | none => exact ⟨_, rfl⟩
  | some c =>
    cases hm : d.dashboard.rows.get manifestId.value with
    | none => exact ⟨_, rfl⟩
    | some m =>
      cases hlinked : d.linked id.value manifestId.value with
      | false => exact ⟨_, rfl⟩
      | true => exact absurd ⟨c, m, hc, hm, hlinked⟩ h

theorem setCampaign_change {call : DashboardCall} {c old : Campaign} (e : AuditEvent)
    (hkeyed : d.Keyed) (hold : d.campaigns.get id.value = some old)
    (hopen : old.status ≠ .archived)
    (hid : c.id = old.id) : d.Change codec call ((d.setCampaign c).writeEvent e) := by
  refine .stored c e fun other hother => ?_
  rw [hid, hkeyed id.value old hold, hold] at hother
  exact Option.some.inj hother ▸ hopen

theorem createCampaign_change {call : DashboardCall} (order : LinkOrder) (newId : String)
    (body : CampaignIn) (now : ℚ) :
    d.Change codec call (d.createCampaign order newId body now).1 := by
  unfold createCampaign
  split_ifs with hvalid hknown
  · exact .kept
  · exact .kept
  · have hnone : d.campaigns.get newId = none := by
      rw [Dict.get_eq_none_iff]
      simpa [Dict.contains] using hknown
    refine .stored _ _ fun old hold => ?_
    rw [hnone] at hold
    cases hold

theorem updateCampaign_change {call : DashboardCall} (order : LinkOrder) (hkeyed : d.Keyed)
    (id : PathId) (body : CampaignUpdate) (now : ℚ) :
    d.Change codec call (d.updateCampaign order id body now).1 := by
  unfold updateCampaign
  split_ifs with hvalid
  · exact .kept
  · cases hc : d.campaigns.get id.value with
    | none => exact .kept
    | some c =>
      dsimp only
      split_ifs with harchived
      · exact .kept
      · cases body.readStatus with
        | error e => exact .kept
        | ok status => exact setCampaign_change _ hkeyed hc harchived rfl

theorem archiveCampaign_change {call : DashboardCall} (order : LinkOrder) (hkeyed : d.Keyed)
    (id : PathId) (now : ℚ) : d.Change codec call (d.archiveCampaign order id now).1 := by
  unfold archiveCampaign
  cases hc : d.campaigns.get id.value with
  | none => exact .kept
  | some c =>
    dsimp only
    split_ifs with harchived
    · exact .kept
    · exact setCampaign_change _ hkeyed hc harchived rfl

theorem getCampaign_kept (order : LinkOrder) (id : PathId) : (d.getCampaign order id).1 = d := by
  unfold getCampaign
  cases d.campaigns.get id.value <;> rfl

/-- All that one call can do. -/
theorem call_change (codec : Codec τ) (hkeyed : d.Keyed) (call : DashboardCall) :
    d.Change codec call (d.call codec call).1 := by
  cases call with
  | manifest request => exact .manifest request rfl
  | campaign request order =>
    cases request with
    | create newId body now => exact createCampaign_change order newId body now
    | get id => exact (getCampaign_kept order id).symm ▸ .kept
    | update id body now => exact updateCampaign_change order hkeyed id body now
    | archive id now => exact archiveCampaign_change order hkeyed id now
    | add id manifestId =>
      by_cases happends : d.Appends id manifestId
      · obtain ⟨e, he⟩ := addManifestToCampaign_appends order happends
        exact he ▸ .appended id manifestId order e rfl happends
      · exact (addManifestToCampaign_kept order happends).symm ▸ .kept
    | remove id manifestId =>
      by_cases hunlinks : d.Unlinks id manifestId
      · obtain ⟨e, out, he⟩ := removeManifestFromCampaign_unlinks order hunlinks
        exact congrArg Prod.fst he ▸ .removed id manifestId order e rfl hunlinks
      · obtain ⟨e, he⟩ := removeManifestFromCampaign_refused order hunlinks
        exact congrArg Prod.fst he ▸ .kept

theorem Change.keyed {call : DashboardCall} {d' : CampaignState} (h : d.Change codec call d')
    (hkeyed : d.Keyed) : d'.Keyed := by
  cases h with
  | manifest => exact hkeyed
  | kept => exact hkeyed
  | appended => exact hkeyed
  | removed => exact hkeyed
  | stored new e hopen =>
    intro id c hc
    rw [writeEvent_campaigns, setCampaign, Dict.get_set] at hc
    split_ifs at hc with hid
    · exact Option.some.inj hc ▸ hid.symm
    · exact hkeyed id c hc

/-! ### The links of one campaign -/

theorem mem_linksOf {campaignId : String} {l : CampaignManifest} :
    l ∈ d.linksOf campaignId ↔ l ∈ d.links ∧ l.campaignId = campaignId := by
  simp [linksOf, List.mem_filter]

theorem linksOf_addLink_self (d : CampaignState) (campaignId manifestId : String) :
    (d.addLink campaignId manifestId).linksOf campaignId = d.linksOf campaignId ++
      [⟨campaignId, manifestId, nextPosition (d.linksOf campaignId)⟩] := by
  rw [linksOf, addLink, List.filter_append, List.filter_cons_of_pos (by simp)]
  rfl

theorem linksOf_addLink_other (d : CampaignState) {campaignId other : String} (manifestId : String)
    (hother : other ≠ campaignId) :
    (d.addLink campaignId manifestId).linksOf other = d.linksOf other := by
  rw [linksOf, addLink, List.filter_append, List.filter_cons_of_neg (by simpa using hother.symm),
    List.filter_nil, List.append_nil, linksOf]

theorem linksOf_removeLink (d : CampaignState) (campaignId manifestId other : String) :
    ((d.removeLink campaignId manifestId).linksOf other).Sublist (d.linksOf other) :=
  List.filter_sublist.filter _

end CampaignState

end AdaptiveAdvertisement.Dashboard
