import AdaptiveAdvertisement.Dashboard.CampaignOrder

/-!
# Archived campaigns (`dashboard_api/routers/campaigns.py:135-321`)

Each endpoint that changes a campaign checks for itself that the campaign is not archived;
`remove_manifest_from_campaign` (lines 254-292) does not.
-/

namespace AdaptiveAdvertisement.Dashboard
open Library

/-- The campaign that a request is to change. -/
def CampaignRequest.mutates? : CampaignRequest → Option PathId
  | .create _ _ _ => none
  | .get _ => none
  | .update id _ _ => some id
  | .add id _ => some id
  | .remove id _ => some id
  | .archive id _ => some id

def CampaignState.archived (d : CampaignState) (id : String) : Prop :=
  ∃ c, d.campaigns.get id = some c ∧ c.status = .archived

section Law

variable {τ : Type} (codec : Codec τ)

/-- A call leaves every archived campaign and its links as they are, and a request to change one is
refused. -/
structure Frozen (d : CampaignState) (call : DashboardCall) : Prop where
  kept : ∀ id, d.archived id →
    (d.call codec call).1.campaigns.get id = d.campaigns.get id ∧
      (d.call codec call).1.linksOf id = d.linksOf id
  refused : ∀ request order, call = .campaign request order →
    ∀ id ∈ request.mutates?, d.archived id.value →
      ∃ e, (d.handle order request).2 = .error e

end Law

/-- No link of an archived campaign is removed. -/
def SparesArchived (d : CampaignState) (call : DashboardCall) : Prop :=
  ∀ id manifestId order, call = .campaign (.remove id manifestId) order →
    d.Unlinks id manifestId → ¬ d.archived id.value

namespace CampaignState

variable {τ : Type} {codec : Codec τ} {d : CampaignState} {call : DashboardCall} {id : PathId}

theorem linksOf_removeLink_other (d : CampaignState) {campaignId other : String}
    (manifestId : String) (hother : other ≠ campaignId) :
    (d.removeLink campaignId manifestId).linksOf other = d.linksOf other := by
  rw [linksOf, removeLink, List.filter_filter, linksOf]
  refine List.filter_congr fun l _ => ?_
  by_cases hl : l.campaignId = other
  · simp [hl, CampaignManifest.isLink, hother]
  · simp [hl]

theorem archived_kept (codec : Codec τ) (hkeyed : d.Keyed) (hspares : SparesArchived d call)
    {id : String} (h : d.archived id) :
    (d.call codec call).1.campaigns.get id = d.campaigns.get id ∧
      (d.call codec call).1.linksOf id = d.linksOf id := by
  obtain ⟨c, hc, harchived⟩ := h
  have hchange := call_change codec hkeyed call
  generalize (d.call codec call).1 = d' at hchange
  cases hchange with
  | kept => exact ⟨rfl, rfl⟩
  | manifest => exact ⟨rfl, rfl⟩
  | stored new e hopen =>
    refine ⟨?_, rfl⟩
    rw [writeEvent_campaigns, setCampaign, Dict.get_set, if_neg]
    rintro rfl
    exact hopen c hc harchived
  | appended cid manifestId order e hcall happends =>
    refine ⟨rfl, linksOf_addLink_other d manifestId.value ?_⟩
    rintro rfl
    obtain ⟨old, -, hold, hopen, -⟩ := happends
    rw [hc, Option.some.injEq] at hold
    exact hopen (hold ▸ harchived)
  | removed cid manifestId order e hcall hunlinks =>
    refine ⟨rfl, linksOf_removeLink_other d manifestId.value ?_⟩
    rintro rfl
    exact hspares cid manifestId order hcall hunlinks ⟨c, hc, harchived⟩

/-! ### The guards -/

theorem updateCampaign_archived (order : LinkOrder) (h : d.archived id.value)
    (body : CampaignUpdate) (now : ℚ) :
    ∃ e, (d.updateCampaign order id body now).2 = .error e := by
  obtain ⟨c, hc, harchived⟩ := h
  unfold updateCampaign
  split_ifs with hvalid
  · exact ⟨_, rfl⟩
  · simp only [hc, harchived, if_true]
    exact ⟨_, rfl⟩

theorem addManifestToCampaign_archived (order : LinkOrder) (h : d.archived id.value)
    (manifestId : PathId) : ∃ e, (d.addManifestToCampaign order id manifestId).2 = .error e := by
  obtain ⟨c, hc, harchived⟩ := h
  simp only [addManifestToCampaign, hc, harchived, if_true]
  exact ⟨_, rfl⟩

theorem archiveCampaign_archived (order : LinkOrder) (h : d.archived id.value) (now : ℚ) :
    ∃ e, (d.archiveCampaign order id now).2 = .error e := by
  obtain ⟨c, hc, harchived⟩ := h
  simp only [archiveCampaign, hc, harchived, if_true]
  exact ⟨_, rfl⟩

theorem archived_refused {request : CampaignRequest} {order : LinkOrder}
    (hspares : SparesArchived d (.campaign request order)) (hid : id ∈ request.mutates?)
    (h : d.archived id.value) : ∃ e, (d.handle order request).2 = .error e := by
  cases request with
  | create newId body now => cases hid
  | get other => cases hid
  | update other body now =>
    obtain rfl := Option.some.inj hid
    exact updateCampaign_archived order h body now
  | add other manifestId =>
    obtain rfl := Option.some.inj hid
    exact addManifestToCampaign_archived order h manifestId
  | archive other now =>
    obtain rfl := Option.some.inj hid
    exact archiveCampaign_archived order h now
  | remove other manifestId =>
    obtain rfl := Option.some.inj hid
    have hmissing : ¬ d.Unlinks other manifestId :=
      fun hunlinks => hspares other manifestId order rfl hunlinks h
    obtain ⟨e, he⟩ := removeManifestFromCampaign_refused order hmissing
    exact ⟨e, congrArg Prod.snd he⟩

theorem frozen_iff (hkeyed : d.Keyed) : Frozen codec d call ↔ SparesArchived d call := by
  refine ⟨fun h id manifestId order hcall hunlinks harchived => ?_, fun h => ?_⟩
  · obtain ⟨e, he⟩ := h.refused _ order hcall id rfl harchived
    obtain ⟨event, out, hout⟩ := removeManifestFromCampaign_unlinks order hunlinks
    have hok : (d.handle order (.remove id manifestId)).2 = .ok out := congrArg Prod.snd hout
    cases hok.symm.trans he
  · refine ⟨fun id harchived => archived_kept codec hkeyed h harchived, ?_⟩
    rintro request order rfl id hid harchived
    exact archived_refused h hid harchived

/-! ### Whole runs -/

theorem keyed_init : Keyed {} := by simp [Keyed]

theorem keyed_next (hkeyed : d.Keyed) (call : DashboardCall) : (d.call codec call).1.Keyed :=
  (call_change codec hkeyed call).keyed hkeyed

/-- What was archived is after any number of further calls what it was. -/
theorem archived_run (hkeyed : d.Keyed) {id : String} (h : d.archived id)
    {calls : List DashboardCall}
    (hspares : (campaignRouter codec).EachStep SparesArchived d calls) :
    ((campaignRouter codec).run d calls).campaigns.get id = d.campaigns.get id ∧
      ((campaignRouter codec).run d calls).linksOf id = d.linksOf id := by
  have hinv := Machine.run_inv_under (M := campaignRouter codec)
    (I := fun s => s.Keyed ∧ s.campaigns.get id = d.campaigns.get id ∧
      s.linksOf id = d.linksOf id) (C := SparesArchived) ?_ ⟨hkeyed, rfl, rfl⟩ hspares
  · exact hinv.2
  · rintro s call ⟨hs, hrow, hlinks⟩ hcall
    have harchived : s.archived id := by rwa [archived, hrow]
    obtain ⟨hrow', hlinks'⟩ := archived_kept codec hs hcall harchived
    exact ⟨keyed_next hs call, hrow'.trans hrow, hlinks'.trans hlinks⟩

end CampaignState

/-- Archived campaigns are frozen exactly in the runs that remove no link of one. -/
theorem frozen_run_iff {τ : Type} (codec : Codec τ) (calls : List DashboardCall) :
    (campaignRouter codec).EachStep (Frozen codec) (campaignRouter codec).init calls ↔
      (campaignRouter codec).EachStep SparesArchived (campaignRouter codec).init calls :=
  Machine.eachStep_iff (M := campaignRouter codec) (I := CampaignState.Keyed)
    (fun _ call hkeyed => CampaignState.keyed_next hkeyed call)
    (fun _ _ hkeyed => CampaignState.frozen_iff hkeyed) CampaignState.keyed_init calls

/-- The manifest of an archived campaign is taken from it, however the campaign was archived. -/
theorem summer_emptied :
    (¬ (campaignRouter jsonCodec).EachStep (Frozen jsonCodec) (campaignRouter jsonCodec).init
      (summerCalls ++ [.campaign (.archive summerId 1) insertionOrder,
        .campaign (.remove summerId promoId) insertionOrder])) ∧
    ¬ (campaignRouter jsonCodec).EachStep (Frozen jsonCodec) (campaignRouter jsonCodec).init
      (summerCalls ++ [.campaign (.update summerId { status := "archived" } 1) insertionOrder,
        .campaign (.remove summerId promoId) insertionOrder]) := by
  refine ⟨fun h => ?_, fun h => ?_⟩
  · obtain ⟨-, -, -, -, -, -, -, hlast, -⟩ := h
    obtain ⟨-, hlinks⟩ := hlast.kept "summer" ⟨_, rfl, rfl⟩
    revert hlinks
    decide +kernel
  · obtain ⟨-, -, -, -, -, -, -, hlast, -⟩ := h
    obtain ⟨-, hlinks⟩ := hlast.kept "summer" ⟨_, rfl, rfl⟩
    revert hlinks
    decide +kernel

end AdaptiveAdvertisement.Dashboard
