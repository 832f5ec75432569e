import AdaptiveAdvertisement.Dashboard.ArchivedCampaigns
import AdaptiveAdvertisement.Dashboard.AssetRouter
import AdaptiveAdvertisement.Dashboard.AuditReplay
import AdaptiveAdvertisement.Dashboard.RuleSync
import AdaptiveAdvertisement.Dashboard.SafeModeIntent
import AdaptiveAdvertisement.Library.EventLog

/-!
# One audit log of all operator requests (`dashboard_api/events.py`)

The routers of manifests, campaigns, assets, rules and safe mode over one database, whose requests
each write their tables and one audit event in one commit. A commit that fails takes both back.
What the log tells of campaigns, of assets and of safe mode is read from the types, actors and
payloads of its events; how a campaign was described when it was created, its dates and its times
of writing are not in it.

Source lines: `write_event` 41-77; `get_safe_mode`, `engage_safe_mode` and `clear_safe_mode` of
`routers/system.py` 156-230; `sync_rules` of `routers/manifests.py` 401-488.
-/

namespace AdaptiveAdvertisement.Dashboard
open Library

/-! ### Campaigns -/

structure CampaignView where
  name : String
  status : CampaignStatus
  manifestIds : List String
  deriving DecidableEq

def CampaignState.view (d : CampaignState) (id : String) : Option CampaignView :=
  (d.campaigns.get id).map fun c =>
    ⟨c.name, c.status, (d.linksOf id).map CampaignManifest.manifestId⟩

def applyCampaignEvent (v : Option CampaignView) (e : AuditEvent) : Option CampaignView :=
  if e.eventType = "campaign.created" then
    some ⟨(payloadString e.payload "name").getD "", .draft, []⟩
  else
    v.map fun v =>
      if e.eventType = "campaign.updated" then
        { v with
          name := (payloadString e.payload "name").getD v.name
          status := ((payloadString e.payload "new_status").bind CampaignStatus.ofValue).getD
            v.status }
      else if e.eventType = "campaign.manifest_added" then
        { v with manifestIds := v.manifestIds ++ (payloadString e.payload "manifest_id").toList }
      else if e.eventType = "campaign.manifest_removed" then
        { v with manifestIds := v.manifestIds.filter fun m =>
            decide (payloadString e.payload "manifest_id" ≠ some m) }
      else if e.eventType = "campaign.archived" then { v with status := .archived }
      else v

def campaignReader (id : String) : LogReader AuditEvent (Option CampaignView) where
  picks e := decide (e.entityType = "campaign" ∧ e.entityId = id)
  init := none
  apply := applyCampaignEvent

/-! ### Assets -/

structure AssetView where
  filename : String
  assetType : String
  sizeBytes : ℕ
  status : AssetStatus
  deriving DecidableEq

def Asset.view (a : Asset) : AssetView := ⟨a.filename, a.assetType, a.sizeBytes, a.status⟩

def payloadNat (payload : Json) (key : String) : ℕ :=
  match payload.get? key with
  | some (.num q) => q.num.toNat
  | _ => 0

def applyAssetEvent (v : Option AssetView) (e : AuditEvent) : Option AssetView :=
  if e.eventType = "asset.uploaded" then
    some ⟨(payloadString e.payload "filename").getD "",
      (payloadString e.payload "asset_type").getD "", payloadNat e.payload "size_bytes", .active⟩
  else
    v.map fun v => if e.eventType = "asset.archived" then { v with status := .archived } else v

def assetReader (id : String) : LogReader AuditEvent (Option AssetView) where
  picks e := decide (e.entityType = "asset" ∧ e.entityId = id)
  init := none
  apply := applyAssetEvent

/-! ### Safe mode -/

/-- Why it is engaged, and by whom. -/
def SafeModeState.view (row : SafeModeState) : Option (Option String × Option String) :=
  if row.isActive then some (row.reason, row.activatedBy) else none

def applySafeModeEvent (v : Option (Option String × Option String)) (e : AuditEvent) :
    Option (Option String × Option String) :=
  if e.eventType = "safe_mode.engaged" then some (payloadString e.payload "reason", some e.actor)
  else if e.eventType = "safe_mode.cleared" then none
  else v

def safeModeReader : LogReader AuditEvent (Option (Option String × Option String)) where
  picks e := decide (e.entityType = "system")
  init := none
  apply := applySafeModeEvent

def manifestReader (id : String) : LogReader AuditEvent (Option ManifestView) where
  picks e := e.isOf id
  init := none
  apply := applyEvent

theorem manifestReader_read (id : String) (events : List AuditEvent) :
    (manifestReader id).read events = replay id events := rfl

/-! ### Safe-mode requests -/

def SafeModeRequest.valid (b : SafeModeRequest) : Bool :=
  lengthIn 1 512 b.reason && lengthIn 0 128 b.activatedBy

def safeModeEngagedEvent (b : SafeModeRequest) : AuditEvent where
  eventType := "safe_mode.engaged"
  entityType := "system"
  entityId := "system"
  actor := b.activatedBy
  payload := .obj [("reason", .str b.reason)]

def safeModeClearedEvent (clearedBy : String) : AuditEvent where
  eventType := "safe_mode.cleared"
  entityType := "system"
  entityId := "system"
  actor := clearedBy
  payload := .obj []

/-- Reading the safe mode commits the row that it creates. -/
def getSafeModeRow (row : Option SafeModeState) (commits : Bool) :
    Outcome (Option SafeModeState) SafeModeInfo :=
  if commits then
    ⟨some (getOrCreateSafeMode row), none, .ok (getSafeMode (getOrCreateSafeMode row))⟩
  else .refused row serverError

def postSafeMode (row : Option SafeModeState) (body : SafeModeRequest) (now : ℚ)
    (commits : Bool) : Outcome (Option SafeModeState) SafeModeInfo :=
  let r := engageSafeMode (getOrCreateSafeMode row) body now
  if !body.valid then .refused row unprocessable
  else if (getOrCreateSafeMode row).isActive then ⟨row, none, .ok r.2⟩
  else if commits then ⟨some r.1, some (safeModeEngagedEvent body), .ok r.2⟩
  else .refused row serverError

def deleteSafeMode (row : Option SafeModeState) (clearedBy : String) (commits : Bool) :
    Outcome (Option SafeModeState) SafeModeInfo :=
  let r := clearSafeMode (getOrCreateSafeMode row)
  if !(getOrCreateSafeMode row).isActive then ⟨row, none, .ok r.2⟩
  else if commits then ⟨some r.1, some (safeModeClearedEvent clearedBy), .ok r.2⟩
  else .refused row serverError

/-! ### One campaign request -/

namespace CampaignState

variable {d : CampaignState} {order : LinkOrder}

structure LogReady (d : CampaignState) : Prop where
  keyed : d.Keyed
  owned : ∀ l ∈ d.links, ∃ c, d.campaigns.get l.campaignId = some c

/-- What a campaign request leaves: everything, or one event that tells the view of its campaign. -/
inductive Told (d : CampaignState) : CampaignState × CampaignResponse → Prop
  | kept (answer : CampaignResponse) : Told d (d, answer)
  | told (d' : CampaignState) (e : AuditEvent) (out : CampaignOut)
      (hevents : d'.dashboard.events = d.dashboard.events ++ [e])
      (hrows : d'.dashboard.rows = d.dashboard.rows) (htype : e.entityType = "campaign")
      (hview : d'.view e.entityId = applyCampaignEvent (d.view e.entityId) e)
      (hother : ∀ other, other ≠ e.entityId → d'.view other = d.view other)
      (hready : d'.LogReady) : Told d (d', .ok out)

theorem view_of {id : String} {c : Campaign} (hc : d.campaigns.get id = some c) :
    d.view id = some ⟨c.name, c.status, (d.linksOf id).map CampaignManifest.manifestId⟩ := by
  simp [view, hc]

theorem LogReady.linksOf_unknown (h : d.LogReady) {id : String} (hid : d.campaigns.get id = none) :
    d.linksOf id = [] := by
  refine List.eq_nil_iff_forall_not_mem.mpr fun l hl => ?_
  obtain ⟨hmem, hof⟩ := mem_linksOf.mp hl
  obtain ⟨c, hc⟩ := h.owned l hmem
  rw [hof, hid] at hc
  cases hc

/-- A row that is written, with an event that tells it. -/
theorem LogReady.stored (h : d.LogReady) {c : Campaign} {e : AuditEvent} (out : CampaignOut)
    (htype : e.entityType = "campaign") (hid : e.entityId = c.id)
    (hview : some ⟨c.name, c.status, (d.linksOf c.id).map CampaignManifest.manifestId⟩ =
      applyCampaignEvent (d.view c.id) e) :
    Told d ((d.setCampaign c).writeEvent e, .ok out) := by
  refine .told _ e out rfl rfl htype ?_ (fun other hother => ?_) ⟨fun other c' hc' => ?_, ?_⟩
  · rw [hid, ← hview, view_of (c := c) (Dict.get_set_self _ _ _)]
    rfl
  · rw [hid] at hother
    simp only [view, writeEvent_campaigns, setCampaign, Dict.get_set_ne _ _ hother]
    rfl
  · rw [writeEvent_campaigns, setCampaign, Dict.get_set] at hc'
    split_ifs at hc' with hsame
    · rw [hsame, Option.some.inj hc']
    · exact h.keyed other c' hc'
  · intro l hl
    obtain ⟨old, hold⟩ := h.owned l hl
    by_cases hsame : l.campaignId = c.id
    · exact ⟨c, by simp [setCampaign, hsame]⟩
    · exact ⟨old, by simpa [setCampaign, Dict.get_set_ne _ _ hsame] using hold⟩

theorem createCampaign_told (h : d.LogReady) (newId : String) (body : CampaignIn) (now : ℚ) :
    Told d (d.createCampaign order newId body now) := by
  unfold createCampaign
  split_ifs with hvalid hknown
  · exact .kept _
  · exact .kept _
  · have hnone : d.campaigns.get newId = none := by
      rw [Dict.get_eq_none_iff]
      simpa [Dict.contains] using hknown
    refine h.stored _ rfl rfl ?_
    simp [h.linksOf_unknown hnone, applyCampaignEvent, campaignEvent, payloadString, Dict.find]

theorem getCampaign_told (id : PathId) : Told d (d.getCampaign order id) := by
  unfold getCampaign
  cases d.campaigns.get id.value with
  | none => exact .kept _
  | some c => exact .kept _

theorem readStatus_told {body : CampaignUpdate} {status : Option CampaignStatus}
    (h : body.readStatus = .ok status) : body.status.bind CampaignStatus.ofValue = status := by
  unfold CampaignUpdate.readStatus at h
  cases hs : body.status with
  | none => simpa [hs] using h
  | some s =>
    cases hof : CampaignStatus.ofValue s with
    | none => simp [hs, hof] at h
    | some st => simpa [hs, hof] using h

theorem changes_name (body : CampaignUpdate) (c : Campaign) :
    payloadString (.obj (body.changes c)) "name" = body.name := by
  cases hname : body.name <;> cases hdesc : body.description <;> cases hstatus : body.status <;>
    simp [payloadString, CampaignUpdate.changes, hname, hdesc, hstatus, Dict.find]

theorem changes_status (body : CampaignUpdate) (c : Campaign) :
    payloadString (.obj (body.changes c)) "new_status" = body.status := by
  cases hname : body.name <;> cases hdesc : body.description <;> cases hstatus : body.status <;>
    simp [payloadString, CampaignUpdate.changes, hname, hdesc, hstatus, Dict.find]

theorem updateCampaign_told (h : d.LogReady) (id : PathId) (body : CampaignUpdate) (now : ℚ) :
    Told d (d.updateCampaign order id body now) := by
  unfold updateCampaign
  split_ifs with hvalid
  · exact .kept _
  · cases hc : d.campaigns.get id.value with
    | none => exact .kept _
    | some c =>
      have hid := h.keyed id.value c hc
      dsimp only
      split_ifs with harchived
      · exact .kept _
      · cases hstatus : body.readStatus with
        | error e => exact .kept _
        | ok status =>
          refine h.stored _ rfl hid.symm ?_
          have htold := readStatus_told hstatus
          have hview := view_of hc
          rw [← hid] at hview
          simp [CampaignUpdate.apply, hview, applyCampaignEvent, campaignEvent, changes_name,
            changes_status, htold]

theorem archiveCampaign_told (h : d.LogReady) (id : PathId) (now : ℚ) :
    Told d (d.archiveCampaign order id now) := by
  unfold archiveCampaign
  cases hc : d.campaigns.get id.value with
  | none => exact .kept _
  | some c =>
    have hid := h.keyed id.value c hc
    have hview := view_of hc
    dsimp only
    split_ifs with harchived
    · exact .kept _
    · refine h.stored _ rfl hid.symm ?_
      rw [← hid] at hview
      simp [hview, applyCampaignEvent, campaignEvent]

theorem addLink_told (h : d.LogReady) (id manifestId : PathId) {c : Campaign}
    (hc : d.campaigns.get id.value = some c) (out : CampaignOut) :
    Told d ((d.addLink id.value manifestId.value).writeEvent (campaignEvent
      "campaign.manifest_added" id.value [("manifest_id", .str manifestId.value)]), .ok out) := by
  refine .told _ _ out rfl rfl rfl ?_ (fun other hother => ?_) ⟨h.keyed, fun l hl => ?_⟩
  · have hadded := linksOf_addLink_self d id.value manifestId.value
    have hcampaigns : (d.addLink id.value manifestId.value).campaigns = d.campaigns := rfl
    simp [campaignEvent, view, hc, hcampaigns, hadded, applyCampaignEvent, payloadString, Dict.find]
  · have hkept : (d.addLink id.value manifestId.value).linksOf other = d.linksOf other :=
      linksOf_addLink_other d manifestId.value hother
    simp only [view, writeEvent_campaigns, writeEvent_linksOf, hkept]
    rfl
  · rcases List.mem_append.mp hl with hold | hnew
    · exact h.owned l hold
    · rw [List.mem_singleton.mp hnew]
      exact ⟨c, hc⟩

theorem addManifestToCampaign_told (h : d.LogReady) (id manifestId : PathId) :
    Told d (d.addManifestToCampaign order id manifestId) := by
  by_cases happends : d.Appends id manifestId
  · obtain ⟨c, m, hc, hopen, hm, hactivatable, hlinked⟩ := happends
    have htold := addLink_told h id manifestId hc
    simp only [addManifestToCampaign, hc, hopen, hm, hactivatable, hlinked, if_false, Bool.not_true,
      Bool.false_eq_true]
    exact htold _
  · have hkept := addManifestToCampaign_kept order happends
    generalize d.addManifestToCampaign order id manifestId = answer at hkept
    obtain ⟨d', response⟩ := answer
    obtain rfl : d' = d := hkept
    exact .kept response

/-- Of the manifests of its campaign a removal takes out just the one. -/
theorem linksOf_removeLink_self (d : CampaignState) (campaignId manifestId : String) :
    ((d.removeLink campaignId manifestId).linksOf campaignId).map CampaignManifest.manifestId =
      ((d.linksOf campaignId).map CampaignManifest.manifestId).filter
        fun m => decide (manifestId ≠ m) := by
  rw [linksOf, removeLink, List.filter_map, linksOf, List.filter_filter, List.filter_filter]
  refine congrArg _ (List.filter_congr fun l _ => ?_)
  by_cases hof : l.campaignId = campaignId
  · simp [CampaignManifest.isLink, hof, eq_comm]
  · simp [hof]

theorem removeLink_told (h : d.LogReady) (id manifestId : PathId) {c : Campaign}
    (hc : d.campaigns.get id.value = some c) (out : CampaignOut) :
    Told d ((d.removeLink id.value manifestId.value).writeEvent (campaignEvent
      "campaign.manifest_removed" id.value [("manifest_id", .str manifestId.value)]), .ok out) := by
  refine .told _ _ out rfl rfl rfl ?_ (fun other hother => ?_) ⟨h.keyed, fun l hl => ?_⟩
  · have hremoved := linksOf_removeLink_self d id.value manifestId.value
    have hcampaigns : (d.removeLink id.value manifestId.value).campaigns = d.campaigns := rfl
    simp [campaignEvent, view, hc, hcampaigns, hremoved, applyCampaignEvent, payloadString,
      Dict.find]
  · have hkept : (d.removeLink id.value manifestId.value).linksOf other = d.linksOf other :=
      linksOf_removeLink_other d manifestId.value hother
    simp only [view, writeEvent_campaigns, writeEvent_linksOf, hkept]
    rfl
  · exact h.owned l (List.mem_filter.mp hl).1

theorem removeManifestFromCampaign_told (h : d.LogReady) (id manifestId : PathId) :
    Told d (d.removeManifestFromCampaign order id manifestId) := by
  by_cases hunlinks : d.Unlinks id manifestId
  · obtain ⟨c, m, hc, hm, hlinked⟩ := hunlinks
    have htold := removeLink_told h id manifestId hc
    simp only [removeManifestFromCampaign, hc, hm, hlinked, if_true]
    exact htold _
  · obtain ⟨e, hrefused⟩ := removeManifestFromCampaign_refused order hunlinks
    rw [hrefused]
    exact .kept _

theorem handle_told (h : d.LogReady) (order : LinkOrder) (request : CampaignRequest) :
    Told d (d.handle order request) := by
  cases request with
  | create newId body now => exact createCampaign_told h newId body now
  | get id => exact getCampaign_told id
  | update id body now => exact updateCampaign_told h id body now
  | add id manifestId => exact addManifestToCampaign_told h id manifestId
  | remove id manifestId => exact removeManifestFromCampaign_told h id manifestId
  | archive id now => exact archiveCampaign_told h id now

end CampaignState

/-! ### All requests -/

structure OperatorState where
  campaigns : CampaignState := {}
  assets : AssetLibrary := {}
  safeMode : Option SafeModeState := none

/-- A request of any router, with what the environment does to it: how the disk takes it and
whether its commit succeeds. The rules file of a sync is not of the database. -/
inductive OperatorRequest where
  | manifest (attempt : Attempt)
  | campaign (request : CampaignRequest) (order : LinkOrder) (commits : Bool)
  | asset (request : AssetRequest)
  | getSafeMode (commits : Bool)
  | engageSafeMode (body : SafeModeRequest) (now : ℚ) (commits : Bool)
  | clearSafeMode (clearedBy : String) (commits : Bool)
  | syncRules (tie : String → ℚ) (written : Except String Unit) (reloaded commits : Bool)

/-- A request that writes no event commits nothing. -/
def CampaignState.attempt (d : CampaignState) (order : LinkOrder) (request : CampaignRequest)
    (commits : Bool) : CampaignState × CampaignResponse :=
  let r := d.handle order request
  if commits || decide (r.1.dashboard.events.length = d.dashboard.events.length) then r
  else (d, .error serverError)

def errorOf {α : Type} : Except HttpError α → Option HttpError
  | .ok _ => none
  | .error e => some e

namespace OperatorState

variable {τ : Type} (codec : Codec τ) (sha256 : Bytes → String) (s : OperatorState)

def dashboard : DashboardState := s.campaigns.dashboard

def log : List AuditEvent := s.dashboard.events

def setDashboard (d : DashboardState) : OperatorState :=
  { s with campaigns := { s.campaigns with dashboard := d } }

def write (e : Option AuditEvent) : OperatorState :=
  s.setDashboard { s.dashboard with events := s.log ++ e.toList }

def syncRules (tie : String → ℚ) (written : Except String Unit) (reloaded commits : Bool) :
    OperatorState × Option HttpError :=
  match written with
  | .error e => (s, some ⟨500, some ("Failed to write rules file: " ++ e)⟩)
  | .ok _ =>
    if commits then
      (s.write (some (rulesSyncedEvent (syncReport (enabledManifests tie s.dashboard) reloaded))),
        none)
    else (s, some serverError)

def step : OperatorRequest → OperatorState × Option HttpError
  | .manifest attempt =>
    let r := s.dashboard.attempt codec attempt
    (s.setDashboard r.1, errorOf r.2)
  | .campaign request order commits =>
    let r := s.campaigns.attempt order request commits
    ({ s with campaigns := r.1 }, errorOf r.2)
  | .asset request =>
    let o := s.assets.handle sha256 request
    ({ s with assets := o.state }.write o.event, errorOf o.answer)
  | .getSafeMode commits =>
    let o := getSafeModeRow s.safeMode commits
    ({ s with safeMode := o.state }.write o.event, errorOf o.answer)
  | .engageSafeMode body now commits =>
    let o := postSafeMode s.safeMode body now commits
    ({ s with safeMode := o.state }.write o.event, errorOf o.answer)
  | .clearSafeMode clearedBy commits =>
    let o := deleteSafeMode s.safeMode clearedBy commits
    ({ s with safeMode := o.state }.write o.event, errorOf o.answer)
  | .syncRules tie written reloaded commits => s.syncRules tie written reloaded commits

end OperatorState

def operating {τ : Type} (codec : Codec τ) (sha256 : Bytes → String) :
    Machine OperatorState OperatorRequest (Option HttpError) :=
  ⟨{}, OperatorState.step codec sha256⟩

/-! ### The law -/

/-- What the log tells of every subject is how the tables have it. -/
structure LogTells (s : OperatorState) : Prop where
  manifests : ∀ id, (manifestReader id).read s.log =
    (s.dashboard.rows.get id).map Manifest.view
  campaigns : ∀ id, (campaignReader id).read s.log = s.campaigns.view id
  assets : ∀ id, (assetReader id).read s.log = (s.assets.rows.get id).map Asset.view
  safeMode : safeModeReader.read s.log = (getOrCreateSafeMode s.safeMode).view

/-- The tables, but for the row of safe mode that a reading creates. -/
structure SameTables (s s' : OperatorState) : Prop where
  manifests : s'.dashboard.rows = s.dashboard.rows
  campaigns : s'.campaigns.campaigns = s.campaigns.campaigns
  links : s'.campaigns.links = s.campaigns.links
  assets : s'.assets.rows = s.assets.rows
  safeMode : getOrCreateSafeMode s'.safeMode = getOrCreateSafeMode s.safeMode

/-- A request adds one event at most; without one it changes no table, and so it is when the
request is refused or fails. -/
structure Accounted (s s' : OperatorState) (answer : Option HttpError) : Prop where
  appended : ∃ e : Option AuditEvent, s'.log = s.log ++ e.toList
  silent : s'.log = s.log → SameTables s s'
  refused : answer ≠ none → s'.log = s.log

/-! ### Events of another subject -/

section Kinds

variable {log : List AuditEvent} {e : AuditEvent}

theorem manifests_other (h : e.entityType ≠ "manifest") (id : String) :
    (manifestReader id).read (log ++ [e]) = (manifestReader id).read log :=
  LogReader.read_other (decide_eq_false fun hof => h hof.1)

theorem campaigns_other (h : e.entityType ≠ "campaign") (id : String) :
    (campaignReader id).read (log ++ [e]) = (campaignReader id).read log :=
  LogReader.read_other (decide_eq_false fun hof => h hof.1)

theorem assets_other (h : e.entityType ≠ "asset") (id : String) :
    (assetReader id).read (log ++ [e]) = (assetReader id).read log :=
  LogReader.read_other (decide_eq_false fun hof => h hof.1)

theorem safeMode_other (h : e.entityType ≠ "system") :
    safeModeReader.read (log ++ [e]) = safeModeReader.read log :=
  LogReader.read_other (decide_eq_false h)

end Kinds

/-! ### One request of the other routers -/

/-- What an asset request leaves of the rows: all of them, or one more and the event that tells. -/
inductive AssetTold (lib : AssetLibrary) : Outcome AssetLibrary Asset → Prop
  | kept (lib' : AssetLibrary) (answer : Except HttpError Asset) (hrows : lib'.rows = lib.rows) :
      AssetTold lib ⟨lib', none, answer⟩
  | told (lib' : AssetLibrary) (e : AuditEvent) (a : Asset) (htype : e.entityType = "asset")
      (hrows : lib'.rows = lib.rows.set e.entityId a)
      (hview : applyAssetEvent ((lib.rows.get e.entityId).map Asset.view) e = some a.view) :
      AssetTold lib ⟨lib', some e, .ok a⟩

section Assets

variable {lib : AssetLibrary}

theorem applyAssetEvent_uploaded (v : Option AssetView) {a : Asset} (h : a.status = .active) :
    applyAssetEvent v (assetUploadedEvent a) = some a.view := by
  simp [applyAssetEvent, assetUploadedEvent, payloadString, payloadNat, Dict.find, Asset.view,
    Json.int, h]

theorem uploadAsset_told (sha256 : Bytes → String) (lib : AssetLibrary) (filename : Option String)
    (newId : String) (pieces : List Bytes) (disk : UploadDisk) (commits : Bool) :
    AssetTold lib (lib.uploadAsset sha256 filename newId pieces disk commits) := by
  simp only [AssetLibrary.uploadAsset]
  split
  · exact .kept lib _ rfl
  · cases disk with
    | refuses error => exact .kept lib _ rfl
    | breaks n bytes error => exact .kept _ _ rfl
    | takes =>
      dsimp only
      split
      · exact .told _ _ _ rfl rfl (applyAssetEvent_uploaded _ rfl)
      · exact .kept _ _ rfl

theorem archiveAsset_told (lib : AssetLibrary) (id : PathId) (commits : Bool) :
    AssetTold lib (lib.archiveAsset id commits) := by
  unfold AssetLibrary.archiveAsset
  cases ha : lib.rows.get id.value with
  | none => exact .kept lib _ rfl
  | some a =>
    dsimp only
    split_ifs with harchived
    · exact .kept lib _ rfl
    · refine .told _ _ _ rfl rfl ?_
      have hget : lib.rows.get (assetArchivedEvent id.value a).entityId = some a := ha
      rw [hget]
      simp [applyAssetEvent, assetArchivedEvent, Asset.view]
    · exact .kept lib _ rfl

theorem assetHandle_told (sha256 : Bytes → String) (lib : AssetLibrary) (request : AssetRequest) :
    AssetTold lib (lib.handle sha256 request) := by
  cases request with
  | upload filename newId pieces disk commits =>
    exact uploadAsset_told sha256 lib filename newId pieces disk commits
  | get id =>
    have hget : lib.handle sha256 (.get id) = lib.getAsset id := rfl
    rw [hget]
    unfold AssetLibrary.getAsset
    cases lib.rows.get id.value with
    | none => exact .kept lib _ rfl
    | some a => exact .kept lib _ rfl
  | archive id commits => exact archiveAsset_told lib id commits

end Assets

/-- What a safe-mode request leaves of the row: its reading, or another and the event that tells. -/
inductive SafeModeTold (row : Option SafeModeState) :
    Outcome (Option SafeModeState) SafeModeInfo → Prop
  | kept (row' : Option SafeModeState) (answer : Except HttpError SafeModeInfo)
      (hrow : getOrCreateSafeMode row' = getOrCreateSafeMode row) :
      SafeModeTold row ⟨row', none, answer⟩
  | told (row' : SafeModeState) (e : AuditEvent) (info : SafeModeInfo)
      (htype : e.entityType = "system")
      (hview : ∀ v, applySafeModeEvent v e = row'.view) :
    SafeModeTold row ⟨some row', some e, .ok info⟩

section SafeMode

variable (row : Option SafeModeState) (commits : Bool)

theorem getSafeModeRow_told : SafeModeTold row (getSafeModeRow row commits) := by
  unfold getSafeModeRow
  split_ifs
  · exact .kept _ _ rfl
  · exact .kept row _ rfl

theorem postSafeMode_told (body : SafeModeRequest) (now : ℚ) :
    SafeModeTold row (postSafeMode row body now commits) := by
  unfold postSafeMode
  split_ifs with hvalid hactive
  · exact .kept row _ rfl
  · exact .kept row _ rfl
  · refine .told _ _ _ rfl fun v => ?_
    simp [applySafeModeEvent, safeModeEngagedEvent, engageSafeMode, hactive, SafeModeState.view,
      payloadString, Dict.find]
  · exact .kept row _ rfl

theorem deleteSafeMode_told (clearedBy : String) :
    SafeModeTold row (deleteSafeMode row clearedBy commits) := by
  unfold deleteSafeMode
  split_ifs with hinactive
  · exact .kept row _ rfl
  · refine .told _ _ _ rfl fun v => ?_
    have hactive : (getOrCreateSafeMode row).isActive = true := by simpa using hinactive
    simp [applySafeModeEvent, safeModeClearedEvent, clearSafeMode, hactive, SafeModeState.view]
  · exact .kept row _ rfl

end SafeMode

/-! ### One request, and all of them -/

structure OperatorInv (s : OperatorState) : Prop where
  keyed : ∀ id m, s.dashboard.rows.get id = some m → m.manifestId = id
  ready : s.campaigns.LogReady
  tells : LogTells s

/-- What every request leaves. -/
structure StepLaw (s s' : OperatorState) (answer : Option HttpError) : Prop where
  inv : OperatorInv s'
  accounted : Accounted s s' answer

section Step

variable {τ : Type} {codec : Codec τ} {sha256 : Bytes → String} {s : OperatorState}

theorem SameTables.refl (s : OperatorState) : SameTables s s := ⟨rfl, rfl, rfl, rfl, rfl⟩

theorem accounted_nothing {s' : OperatorState} (hlog : s'.log = s.log) (htables : SameTables s s')
    (answer : Option HttpError) : Accounted s s' answer where
  appended := ⟨none, by simp [hlog]⟩
  silent := fun _ => htables
  refused := fun _ => hlog

theorem accounted_event {s' : OperatorState} {e : AuditEvent} (hlog : s'.log = s.log ++ [e]) :
    Accounted s s' none where
  appended := ⟨some e, hlog⟩
  silent := fun h => by simp [hlog] at h
  refused := fun h => absurd rfl h

/-- A request that changes no table the log tells of. -/
theorem stepLaw_nothing (h : OperatorInv s) (s' : OperatorState) (answer : Option HttpError)
    (hlog : s'.log = s.log) (htables : SameTables s s') : StepLaw s s' answer := by
  have hviews : ∀ id, s'.campaigns.view id = s.campaigns.view id := fun id => by
    simp only [CampaignState.view, CampaignState.linksOf, htables.campaigns, htables.links]
  refine ⟨⟨?_, ⟨?_, ?_⟩, ⟨fun id => ?_, fun id => ?_, fun id => ?_, ?_⟩⟩,
    accounted_nothing hlog htables answer⟩
  · rw [htables.manifests]
    exact h.keyed
  · rw [CampaignState.Keyed, htables.campaigns]
    exact h.ready.keyed
  · rw [htables.campaigns, htables.links]
    exact h.ready.owned
  · rw [hlog, htables.manifests]
    exact h.tells.manifests id
  · rw [hlog, hviews]
    exact h.tells.campaigns id
  · rw [hlog, htables.assets]
    exact h.tells.assets id
  · rw [hlog, htables.safeMode]
    exact h.tells.safeMode

theorem manifest_law (h : OperatorInv s) {r : DashboardState × Response}
    (hsettled : Settled s.dashboard r) : StepLaw s (s.setDashboard r.1) (errorOf r.2) := by
  cases hsettled with
  | left hrows hevents =>
    exact stepLaw_nothing h (s.setDashboard _) _ hevents ⟨hrows, rfl, rfl, rfl, rfl⟩
  | stored hid hof hview hrows hevents =>
    rename_i d' id e m
    have htype : e.entityType = "manifest" := (of_decide_eq_true hof).1
    have hlog : (s.setDashboard d').log = s.log ++ [e] := hevents
    have hreproduced := reproduced_set (d := s.dashboard) h.tells.manifests hof hview hrows hevents
    refine ⟨⟨?_, ⟨h.ready.keyed, h.ready.owned⟩,
      ⟨hreproduced, fun id => ?_, fun id => ?_, ?_⟩⟩,
      accounted_event hlog⟩
    · have hkeyed : ∀ other m', (s.dashboard.rows.set id m).get other = some m' →
          m'.manifestId = other := keyed_set h.keyed hid
      rw [← hrows] at hkeyed
      exact hkeyed
    · rw [hlog, campaigns_other (by simp [htype])]
      exact h.tells.campaigns id
    · rw [hlog, assets_other (by simp [htype])]
      exact h.tells.assets id
    · rw [hlog, safeMode_other (by simp [htype])]
      exact h.tells.safeMode

theorem attempt_told {d : CampaignState} (h : d.LogReady) (order : LinkOrder)
    (request : CampaignRequest) (commits : Bool) : d.Told (d.attempt order request commits) := by
  unfold CampaignState.attempt
  dsimp only
  split_ifs
  · exact CampaignState.handle_told h order request
  · exact .kept _

theorem campaign_law (h : OperatorInv s) {r : CampaignState × CampaignResponse}
    (htold : s.campaigns.Told r) : StepLaw s { s with campaigns := r.1 } (errorOf r.2) := by
  cases htold with
  | kept answer => exact stepLaw_nothing h s _ rfl (.refl s)
  | told d' e out hevents hrows htype hview hother hready =>
    have hlog : ({ s with campaigns := d' } : OperatorState).log = s.log ++ [e] := hevents
    refine ⟨⟨?_, hready, ⟨fun id => ?_, fun id => ?_, fun id => ?_, ?_⟩⟩,
      accounted_event hlog⟩
    · intro id m hm
      rw [OperatorState.dashboard, hrows] at hm
      exact h.keyed id m hm
    · rw [hlog, manifests_other (by simp [htype]), OperatorState.dashboard, hrows]
      exact h.tells.manifests id
    · rw [hlog]
      by_cases hid : id = e.entityId
      · subst hid
        exact LogReader.read_told (h.tells.campaigns e.entityId) (decide_eq_true ⟨htype, rfl⟩)
          hview.symm
      · have hunpicked : (campaignReader id).picks e = false :=
          decide_eq_false fun hof => hid hof.2.symm
        rw [LogReader.read_other hunpicked, h.tells.campaigns id]
        exact (hother id hid).symm
    · rw [hlog, assets_other (by simp [htype])]
      exact h.tells.assets id
    · rw [hlog, safeMode_other (by simp [htype])]
      exact h.tells.safeMode

theorem asset_law (h : OperatorInv s) {o : Outcome AssetLibrary Asset}
    (htold : AssetTold s.assets o) :
    StepLaw s ({ s with assets := o.state }.write o.event) (errorOf o.answer) := by
  cases htold with
  | kept lib' answer hrows =>
    exact stepLaw_nothing h ({ s with assets := lib' }.write none) _ (List.append_nil _)
      ⟨rfl, rfl, rfl, hrows, rfl⟩
  | told lib' e a htype hrows hview =>
    have hlog : ({ s with assets := lib' }.write (some e)).log = s.log ++ [e] := rfl
    refine ⟨⟨h.keyed, ⟨h.ready.keyed, h.ready.owned⟩,
      ⟨fun id => ?_, fun id => ?_, fun id => ?_, ?_⟩⟩,
      accounted_event hlog⟩
    · rw [hlog, manifests_other (by simp [htype])]
      exact h.tells.manifests id
    · rw [hlog, campaigns_other (by simp [htype])]
      exact h.tells.campaigns id
    · have hassets : ({ s with assets := lib' }.write (some e)).assets.rows =
          s.assets.rows.set e.entityId a := hrows
      rw [hlog, hassets, Dict.get_set]
      by_cases hid : id = e.entityId
      · subst hid
        rw [if_pos rfl]
        exact LogReader.read_told (h.tells.assets e.entityId)
          (decide_eq_true ⟨htype, rfl⟩) hview
      · have hunpicked : (assetReader id).picks e = false :=
          decide_eq_false fun hof => hid hof.2.symm
        rw [if_neg hid, LogReader.read_other hunpicked]
        exact h.tells.assets id
    · rw [hlog, safeMode_other (by simp [htype])]
      exact h.tells.safeMode

theorem safeMode_law (h : OperatorInv s) {o : Outcome (Option SafeModeState) SafeModeInfo}
    (htold : SafeModeTold s.safeMode o) :
    StepLaw s ({ s with safeMode := o.state }.write o.event) (errorOf o.answer) := by
  cases htold with
  | kept row' answer hrow =>
    exact stepLaw_nothing h ({ s with safeMode := row' }.write none) _ (List.append_nil _)
      ⟨rfl, rfl, rfl, rfl, hrow⟩
  | told row' e info htype hview =>
    have hlog : ({ s with safeMode := some row' }.write (some e)).log = s.log ++ [e] := rfl
    refine ⟨⟨h.keyed, ⟨h.ready.keyed, h.ready.owned⟩,
      ⟨fun id => ?_, fun id => ?_, fun id => ?_, ?_⟩⟩,
      accounted_event hlog⟩
    · rw [hlog, manifests_other (by simp [htype])]
      exact h.tells.manifests id
    · rw [hlog, campaigns_other (by simp [htype])]
      exact h.tells.campaigns id
    · rw [hlog, assets_other (by simp [htype])]
      exact h.tells.assets id
    · rw [hlog]
      exact LogReader.read_told rfl (decide_eq_true htype) (hview _)

/-- The event of a sync is of no manifest's view, not even of one with the id `*`. -/
theorem rulesSynced_reads (id : String) (log : List AuditEvent) (r : SyncRulesOut) :
    (manifestReader id).read (log ++ [rulesSyncedEvent r]) = (manifestReader id).read log := by
  rw [LogReader.read_snoc]
  split_ifs
  · simp [manifestReader, applyEvent, rulesSyncedEvent]
  · rfl

theorem syncRules_law (h : OperatorInv s) (tie : String → ℚ) (written : Except String Unit)
    (reloaded commits : Bool) :
    StepLaw s (s.syncRules tie written reloaded commits).1
      (s.syncRules tie written reloaded commits).2 := by
  unfold OperatorState.syncRules
  cases written with
  | error e => exact stepLaw_nothing h s _ rfl (.refl s)
  | ok done =>
    dsimp only
    split_ifs
    · refine ⟨⟨h.keyed, ⟨h.ready.keyed, h.ready.owned⟩,
        ⟨fun id => ?_, fun id => ?_, fun id => ?_, ?_⟩⟩,
        accounted_event rfl⟩
      · exact (rulesSynced_reads id s.log _).trans (h.tells.manifests id)
      · exact (campaigns_other (by simp [rulesSyncedEvent]) id).trans (h.tells.campaigns id)
      · exact (assets_other (by simp [rulesSyncedEvent]) id).trans (h.tells.assets id)
      · exact (safeMode_other (by simp [rulesSyncedEvent])).trans h.tells.safeMode
    · exact stepLaw_nothing h s _ rfl (.refl s)

theorem step_law (codec : Codec τ) (sha256 : Bytes → String) (h : OperatorInv s)
    (request : OperatorRequest) :
    StepLaw s (s.step codec sha256 request).1 (s.step codec sha256 request).2 := by
  cases request with
  | manifest attempt =>
    exact manifest_law h (attempt_settled ⟨h.keyed, h.tells.manifests⟩ attempt)
  | campaign request order commits =>
    exact campaign_law h (attempt_told h.ready order request commits)
  | asset request => exact asset_law h (assetHandle_told sha256 s.assets request)
  | getSafeMode commits => exact safeMode_law h (getSafeModeRow_told s.safeMode commits)
  | engageSafeMode body now commits =>
    exact safeMode_law h (postSafeMode_told s.safeMode commits body now)
  | clearSafeMode clearedBy commits =>
    exact safeMode_law h (deleteSafeMode_told s.safeMode commits clearedBy)
  | syncRules tie written reloaded commits => exact syncRules_law h tie written reloaded commits

end Step

theorem operatorInv_init : OperatorInv {} where
  keyed := by simp [OperatorState.dashboard]
  ready := ⟨by simp [CampaignState.Keyed], by simp⟩
  tells := ⟨fun id => rfl, fun id => rfl, fun id => rfl, rfl⟩

/-- Whatever the operators ask and whichever commits fail, the log tells the manifests, the
campaigns with their links, the assets and the safe mode, and each change is one event of it. -/
theorem log_tells {τ : Type} (codec : Codec τ) (sha256 : Bytes → String)
    (requests : List OperatorRequest) :
    (operating codec sha256).EachStep (fun s request =>
      LogTells (s.step codec sha256 request).1 ∧
        Accounted s (s.step codec sha256 request).1 (s.step codec sha256 request).2)
      {} requests :=
  Machine.eachStep_of_inv (M := operating codec sha256) (I := OperatorInv)
    (fun _ request h => (step_law codec sha256 h request).inv)
    (fun _ request h => by
      have hlaw := step_law codec sha256 h request
      exact ⟨hlaw.inv.tells, hlaw.accounted⟩) operatorInv_init requests

end AdaptiveAdvertisement.Dashboard
