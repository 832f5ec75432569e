import AdaptiveAdvertisement.Dashboard.CampaignRouter

/-!
# The order of a campaign's manifests (`dashboard_api/routers/campaigns.py:45-66`, `227-239`)

The position of a new link is one more than `max(position) or -1`, so that a maximum of 0 counts
as no maximum: every link of every campaign stands at position 0.
-/

namespace AdaptiveAdvertisement.Dashboard
open Library

section Law

variable {τ : Type} (codec : Codec τ)

/-- After a call positions tell links apart, a new link stands last, and a campaign is listed in
the order of insertion, however the database orders equal positions. -/
structure InOrder (d : CampaignState) (call : DashboardCall) : Prop where
  distinct : ∀ id, (((d.call codec call).1.linksOf id).map CampaignManifest.position).Nodup
  last : ∀ id, ∀ l ∈ (d.call codec call).1.linksOf id, l ∉ d.linksOf id →
    ∀ old ∈ d.linksOf id, old.position < l.position
  listed : ∀ order id c, (d.call codec call).1.campaigns.get id = some c →
    ((d.call codec call).1.buildCampaignOut order c).manifestIds =
      ((d.call codec call).1.linksOf id).map CampaignManifest.manifestId

end Law

/-- A manifest is added only to a campaign without one. -/
def AppendsAlone (d : CampaignState) (call : DashboardCall) : Prop :=
  ∀ id manifestId order, call = .campaign (.add id manifestId) order →
    d.Appends id manifestId → d.linksOf id.value = []

/-! ### Positions -/

theorem nextPosition_zero {links : List CampaignManifest} (h : ∀ l ∈ links, l.position = 0) :
    nextPosition links = 0 := by
  unfold nextPosition
  cases hmax : maxPosition links with
  | none => rfl
  | some p =>
    obtain ⟨l, hl, rfl⟩ := List.mem_map.mp (List.max?_mem hmax)
    rw [h l hl]
    rfl

theorem LinkOrder.sort_short (order : LinkOrder) {links : List CampaignManifest}
    (h : links.length ≤ 1) : order.sort links = links := by
  have hperm := order.perm links
  rcases links with _ | ⟨l, _ | ⟨l', links⟩⟩
  · exact List.perm_nil.mp hperm
  · exact List.perm_singleton.mp hperm
  · simp at h

namespace CampaignState

variable {τ : Type} {codec : Codec τ} {d : CampaignState} {call : DashboardCall}

/-- What holds in every run: all positions are 0, and each link names a row. -/
structure LinksInv (codec : Codec τ) (d : CampaignState) : Prop where
  keyed : d.Keyed
  mirrors : Mirrors codec d.dashboard
  named : ∀ l ∈ d.links, l.manifestId ≠ "" ∧ d.dashboard.rows.get l.manifestId ≠ none
  zero : ∀ l ∈ d.links, l.position = 0

theorem LinksInv.nextPosition (h : LinksInv codec d) (campaignId : String) :
    nextPosition (d.linksOf campaignId) = 0 :=
  nextPosition_zero fun l hl => h.zero l (mem_linksOf.mp hl).1

theorem mirrors_events {dashboard : DashboardState} (h : Mirrors codec dashboard)
    (events : List AuditEvent) : Mirrors codec { dashboard with events := events } :=
  ⟨h.keyed, h.present, h.absent⟩

theorem linksInv_change (h : LinksInv codec d) {d' : CampaignState}
    (hchange : d.Change codec call d') : LinksInv codec d' := by
  have hkeyed := hchange.keyed h.keyed
  cases hchange with
  | kept => exact h
  | manifest request =>
    refine ⟨hkeyed, handle_mirrors d.dashboard request h.mirrors, fun l hl => ?_, h.zero⟩
    obtain ⟨hid, hrow⟩ := h.named l hl
    exact ⟨hid, handle_known codec d.dashboard request hrow⟩
  | stored c e => exact ⟨hkeyed, mirrors_events h.mirrors _, h.named, h.zero⟩
  | removed id manifestId order e =>
    have hlinks : ∀ l ∈ (d.removeLink id.value manifestId.value).links, l ∈ d.links :=
      fun l hl => (List.mem_filter.mp hl).1
    exact ⟨hkeyed, mirrors_events h.mirrors _, fun l hl => h.named l (hlinks l hl),
      fun l hl => h.zero l (hlinks l hl)⟩
  | appended id manifestId order e hcall happends =>
    obtain ⟨c, m, -, -, hm, -⟩ := happends
    refine ⟨hkeyed, mirrors_events h.mirrors _, fun l hl => ?_, fun l hl => ?_⟩
    · rcases List.mem_append.mp hl with hold | hnew
      · exact h.named l hold
      · rw [List.mem_singleton.mp hnew]
        exact ⟨manifestId.nonempty, fun hnone => by cases hm.symm.trans hnone⟩
    · rcases List.mem_append.mp hl with hold | hnew
      · exact h.zero l hold
      · rw [List.mem_singleton.mp hnew]
        exact h.nextPosition id.value

theorem linksInv_init : LinksInv codec {} where
  keyed := by simp [Keyed]
  mirrors := mirrors_init
  named := by simp
  zero := by simp

theorem linksInv_next (h : LinksInv codec d) (call : DashboardCall) :
    LinksInv codec (d.call codec call).1 := linksInv_change h (call_change codec h.keyed call)

/-- Every link stands at position 0. -/
theorem positions_zero (codec : Codec τ) (calls : List DashboardCall) :
    ∀ l ∈ ((campaignRouter codec).run (campaignRouter codec).init calls).links,
      l.position = 0 :=
  (Machine.run_inv (M := campaignRouter codec) (I := LinksInv codec)
    (fun _ call h => linksInv_next h call) linksInv_init calls).zero

/-! ### One link for each campaign -/

structure Sole (codec : Codec τ) (d : CampaignState) : Prop where
  links : LinksInv codec d
  sole : ∀ id, (d.linksOf id).length ≤ 1

theorem sole_init : Sole codec {} := ⟨linksInv_init, fun _ => Nat.zero_le 1⟩

theorem sole_next (h : Sole codec d) (halone : AppendsAlone d call) :
    Sole codec (d.call codec call).1 := by
  refine ⟨linksInv_next h.links call, fun other => ?_⟩
  have hchange := call_change codec h.links.keyed call
  generalize (d.call codec call).1 = d' at hchange
  cases hchange with
  | kept => exact h.sole other
  | manifest => exact h.sole other
  | stored => exact h.sole other
  | removed id manifestId =>
    exact (linksOf_removeLink d id.value manifestId.value other).length_le.trans (h.sole other)
  | appended id manifestId order e hcall happends =>
    rw [writeEvent_linksOf]
    by_cases hother : other = id.value
    · rw [hother, linksOf_addLink_self, halone id manifestId order hcall happends]
      exact le_rfl
    · rw [linksOf_addLink_other d manifestId.value hother]
      exact h.sole other

theorem linkedManifestId_eq (h : LinksInv codec d) {l : CampaignManifest} (hl : l ∈ d.links) :
    d.linkedManifestId l = some l.manifestId := by
  obtain ⟨hid, hrow⟩ := h.named l hl
  unfold linkedManifestId
  cases hm : d.dashboard.rows.get l.manifestId with
  | none => exact absurd hm hrow
  | some m =>
    dsimp only
    rw [h.mirrors.keyed _ m hm, if_neg hid]

theorem Sole.listed (h : Sole codec d) (order : LinkOrder) {id : String} {c : Campaign}
    (hc : d.campaigns.get id = some c) : (d.buildCampaignOut order c).manifestIds =
      (d.linksOf id).map CampaignManifest.manifestId := by
  have hall : ∀ l ∈ d.linksOf id, d.linkedManifestId l = some l.manifestId :=
    fun l hl => linkedManifestId_eq h.links (mem_linksOf.mp hl).1
  rw [buildCampaignOut, h.links.keyed id c hc, order.sort_short (h.sole id),
    List.filterMap_congr hall, ← List.filterMap_eq_map]
  rfl

theorem Sole.distinct (h : Sole codec d) (id : String) :
    ((d.linksOf id).map CampaignManifest.position).Nodup := by
  have hsole := h.sole id
  generalize d.linksOf id = links at hsole
  rcases links with _ | ⟨l, _ | ⟨l', links⟩⟩
  · exact List.nodup_nil
  · exact List.nodup_singleton _
  · simp at hsole

theorem new_link_last (h : Sole codec d) (halone : AppendsAlone d call) (id : String) :
    ∀ l ∈ (d.call codec call).1.linksOf id, l ∉ d.linksOf id →
      ∀ old ∈ d.linksOf id, old.position < l.position := by
  intro l hl hnew old hold
  have hchange := call_change codec h.links.keyed call
  generalize (d.call codec call).1 = d' at hchange hl
  cases hchange with
  | kept => exact absurd hl hnew
  | manifest => exact absurd hl hnew
  | stored => exact absurd hl hnew
  | removed => exact absurd ((linksOf_removeLink d _ _ id).subset hl) hnew
  | appended cid manifestId order e hcall happends =>
    rw [writeEvent_linksOf] at hl
    by_cases hid : id = cid.value
    · rw [hid, halone cid manifestId order hcall happends] at hold
      cases hold
    · rw [linksOf_addLink_other d manifestId.value hid] at hl
      exact absurd hl hnew

theorem inOrder_iff (h : Sole codec d) : InOrder codec d call ↔ AppendsAlone d call := by
  refine ⟨fun horder id manifestId order hcall happends => ?_, fun halone => ?_⟩
  · subst hcall
    obtain ⟨e, he⟩ := addManifestToCampaign_appends order happends
    have hnodup := horder.distinct id.value
    have hnext : (d.call codec (.campaign (.add id manifestId) order)).1 =
        (d.addLink id.value manifestId.value).writeEvent e := he
    rw [hnext, writeEvent_linksOf, linksOf_addLink_self, h.links.nextPosition, List.map_append,
      List.nodup_append] at hnodup
    refine List.eq_nil_iff_forall_not_mem.mpr fun l hl => ?_
    have hzero := h.links.zero l (mem_linksOf.mp hl).1
    exact hnodup.2.2 l.position (List.mem_map_of_mem hl) 0 (by simp) hzero
  · have hnext := sole_next h halone
    exact ⟨hnext.distinct, new_link_last h halone, fun order _ _ hc => hnext.listed order hc⟩

end CampaignState

/-- A campaign keeps its order exactly as long as it never gets a second manifest. -/
theorem inOrder_run_iff {τ : Type} (codec : Codec τ) (calls : List DashboardCall) :
    (campaignRouter codec).EachStep (InOrder codec) (campaignRouter codec).init calls ↔
      (campaignRouter codec).EachStep AppendsAlone (campaignRouter codec).init calls :=
  Machine.eachStep_iff_of_inv (M := campaignRouter codec) (I := CampaignState.Sole codec)
    (fun _ _ h halone => CampaignState.sole_next h halone)
    (fun _ _ h => CampaignState.inOrder_iff h) CampaignState.sole_init calls

/-! ### Two manifests in a campaign -/

def insertionOrder : LinkOrder where
  sort := List.insertionSort fun a b => a.position ≤ b.position
  perm := List.perm_insertionSort _
  sorted := fun links => by
    have htotal : Std.Total fun a b : CampaignManifest => a.position ≤ b.position :=
      ⟨fun a b => le_total a.position b.position⟩
    have htrans : IsTrans CampaignManifest fun a b => a.position ≤ b.position :=
      ⟨fun _ _ _ => le_trans⟩
    exact List.pairwise_insertionSort _ links

def posterBody : ManifestIn where
  manifestId := "poster"
  title := "Poster"
  manifestJson := .obj []

def posterId : PathId := ⟨"poster", by decide, by decide⟩

def summerId : PathId := ⟨"summer", by decide, by decide⟩

/-- A campaign with one approved manifest, and another that is approved. -/
def summerCalls : List DashboardCall :=
  [.manifest (.create promoBody), .manifest (.approve promoId {} 0),
    .manifest (.create posterBody), .manifest (.approve posterId {} 0),
    .campaign (.create "summer" { name := "Summer" } 0) insertionOrder,
    .campaign (.add summerId promoId) insertionOrder]

/-- The second manifest of a campaign stands at position 0 like the first. -/
theorem summer_tied : ¬ (campaignRouter jsonCodec).EachStep (InOrder jsonCodec)
    (campaignRouter jsonCodec).init
    (summerCalls ++ [.campaign (.add summerId posterId) insertionOrder]) := by
  intro h
  obtain ⟨-, -, -, -, -, -, hlast, -⟩ := h
  have hdistinct := hlast.distinct "summer"
  revert hdistinct
  decide +kernel

end AdaptiveAdvertisement.Dashboard
