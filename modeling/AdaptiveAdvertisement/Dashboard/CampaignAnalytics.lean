import AdaptiveAdvertisement.Dashboard.CampaignOrder
import AdaptiveAdvertisement.Dashboard.PlayEventSink

/-!
# Impressions of a campaign (`dashboard_api/routers/analytics.py:153-238`)

The summary counts the play events of each manifest that is linked to the campaign, adds the counts
up, and looks for the first and the last of them and for their average attention. The rows of a
join come in an order of the database's own; the play events stand in the order in which the query
for the attention gives them.
-/

namespace AdaptiveAdvertisement.Dashboard
open Library

/-- How the database orders the rows of a join. -/
structure JoinOrder where
  rows : List String → List String
  perm : ∀ ids, (rows ids).Perm ids

structure CampaignAnalyticsOut where
  campaignId : String
  campaignName : String
  totalImpressions : ℕ
  manifestBreakdown : List (String × ℕ)
  windowStart : Option ℚ
  windowEnd : Option ℚ
  avgAttentionAtTrigger : Option Number

/-- The manifests of the join of both tables, by their ICD-5 ids. -/
def CampaignState.icd5Ids (d : CampaignState) (campaignId : String) : List String :=
  (d.linksOf campaignId).filterMap fun l =>
    (d.dashboard.rows.get l.manifestId).map Manifest.manifestId

def impressionsOf (events : List PlayEventOut) (manifestId : String) : ℕ :=
  events.countP fun e => e.manifestId == manifestId

/-- The loop over the manifests, with its two accumulators. -/
def countImpressions (events : List PlayEventOut) (manifestIds : List String) :
    List (String × ℕ) × ℕ :=
  manifestIds.foldl (fun acc mid =>
    (acc.1 ++ [(mid, impressionsOf events mid)], acc.2 + impressionsOf events mid)) ([], 0)

/-- `WHERE manifest_id IN (…)`. -/
def eventsIn (manifestIds : List String) (events : List PlayEventOut) : List PlayEventOut :=
  events.filter fun e => decide (e.manifestId ∈ manifestIds)

def avgAttention (events : List PlayEventOut) : Option Number :=
  let attnValues := events.filterMap PlayEventOut.attentionAtTrigger
  if attnValues.isEmpty then none else some ((Number.mean attnValues).roundTo 4)

/-- A mean that is not finite may fail to render. -/
def CampaignAnalyticsOut.rendered (renders : Number → Bool) (out : CampaignAnalyticsOut) :
    Except HttpError CampaignAnalyticsOut :=
  if out.avgAttentionAtTrigger.all renders then .ok out else .error serverError

def getCampaignAnalytics (renders : Number → Bool) (join : JoinOrder) (d : CampaignState)
    (events : List PlayEventOut) (campaignId : PathId) : Except HttpError CampaignAnalyticsOut :=
  match d.campaigns.get campaignId.value with
  | none => .error ⟨404, some "Campaign not found"⟩
  | some c =>
    let manifestIds := join.rows (d.icd5Ids campaignId.value)
    let counted := countImpressions events manifestIds
    let instants := (eventsIn manifestIds events).map PlayEventOut.activatedAt
    CampaignAnalyticsOut.rendered renders {
      campaignId := campaignId.value
      campaignName := c.name
      totalImpressions := counted.2
      manifestBreakdown := counted.1
      windowStart := if 0 < counted.2 then instants.min? else none
      windowEnd := if 0 < counted.2 then instants.max? else none
      avgAttentionAtTrigger :=
        if !manifestIds.isEmpty && decide (0 < counted.2) then
          avgAttention (eventsIn manifestIds events)
        else none }

/-! ### The law -/

/-- What the summary tells of the events of its manifests. -/
structure Reports (linked : List String) (events : List PlayEventOut)
    (out : CampaignAnalyticsOut) : Prop where
  total : out.totalImpressions = (eventsIn linked events).length
  covers : (out.manifestBreakdown.map Prod.fst).Perm linked
  counts : ∀ b ∈ out.manifestBreakdown, b.2 = impressionsOf events b.1
  first : ∀ t, out.windowStart = some t ↔
    (∃ e ∈ eventsIn linked events, e.activatedAt = t) ∧
      ∀ e ∈ eventsIn linked events, t ≤ e.activatedAt
  last : ∀ t, out.windowEnd = some t ↔
    (∃ e ∈ eventsIn linked events, e.activatedAt = t) ∧
      ∀ e ∈ eventsIn linked events, e.activatedAt ≤ t
  attention : out.avgAttentionAtTrigger = avgAttention (eventsIn linked events)

def CampaignState.linkedIds (d : CampaignState) (campaignId : String) : List String :=
  (d.linksOf campaignId).map CampaignManifest.manifestId

/-! ### Counting -/

section Counting

variable {events : List PlayEventOut} {manifestIds : List String}

theorem countImpressions_eq (events : List PlayEventOut) (manifestIds : List String) :
    countImpressions events manifestIds = (manifestIds.map fun mid =>
      (mid, impressionsOf events mid), (manifestIds.map (impressionsOf events)).sum) := by
  have hloop : ∀ (ids : List String) (acc : List (String × ℕ) × ℕ),
      ids.foldl (fun acc mid =>
        (acc.1 ++ [(mid, impressionsOf events mid)], acc.2 + impressionsOf events mid)) acc =
      (acc.1 ++ ids.map fun mid => (mid, impressionsOf events mid),
        acc.2 + (ids.map (impressionsOf events)).sum) := by
    intro ids
    induction ids with
    | nil => simp
    | cons mid ids ih =>
      intro acc
      rw [List.foldl_cons, ih]
      simp [Nat.add_assoc]
  rw [countImpressions, hloop]
  simp

theorem eventsIn_cons {mid : String} (h : mid ∉ manifestIds) (events : List PlayEventOut) :
    (eventsIn (mid :: manifestIds) events).length =
      impressionsOf events mid + (eventsIn manifestIds events).length := by
  induction events with
  | nil => rfl
  | cons e events ih =>
    simp only [eventsIn, impressionsOf, ← List.countP_eq_length_filter,
      List.countP_cons] at ih ⊢
    rw [ih]
    by_cases hmid : e.manifestId = mid
    · simp [hmid, h]
      omega
    · simp [hmid]
      omega

/-- Counted manifest by manifest, no event is counted twice. -/
theorem sum_impressionsOf (h : manifestIds.Nodup) :
    (manifestIds.map (impressionsOf events)).sum = (eventsIn manifestIds events).length := by
  induction manifestIds with
  | nil => simp [eventsIn]
  | cons mid manifestIds ih =>
    obtain ⟨hmid, hnodup⟩ := List.nodup_cons.mp h
    rw [List.map_cons, List.sum_cons, ih hnodup, eventsIn_cons hmid]

theorem eventsIn_perm {ids ids' : List String} (h : ids.Perm ids') (events : List PlayEventOut) :
    eventsIn ids events = eventsIn ids' events :=
  List.filter_congr fun e _ => by simp only [h.mem_iff]

/-- The average has four places, and so keeps to bounds that have no more. -/
theorem avgAttention_within {lo hi : ℤ}
    (h : ∀ e ∈ events, ∀ x, e.attentionAtTrigger = some x →
      x.Within (lo / 10 ^ 4) (hi / 10 ^ 4)) :
    ∀ x, avgAttention events = some x → x.Within (lo / 10 ^ 4) (hi / 10 ^ 4) := by
  intro x hx
  unfold avgAttention at hx
  dsimp only at hx
  split_ifs at hx with hempty
  rw [← Option.some.inj hx]
  refine Number.roundTo_within_grid lo hi 4 (Number.mean_within ?_ fun y hy => ?_)
  · intro hnil
    exact hempty (by rw [hnil]; rfl)
  · obtain ⟨e, he, hvalue⟩ := List.mem_filterMap.mp hy
    exact h e he y hvalue

end Counting

/-! ### The manifests of a campaign -/

namespace CampaignState

variable {τ : Type} {codec : Codec τ} {d : CampaignState} {call : DashboardCall}

/-- In every run a campaign has each of its manifests once. -/
structure LinkedOnce (codec : Codec τ) (d : CampaignState) : Prop where
  links : LinksInv codec d
  once : ∀ id, (d.linkedIds id).Nodup

theorem linkedOnce_init : LinkedOnce codec {} := ⟨linksInv_init, fun _ => List.nodup_nil⟩

theorem not_mem_linkedIds {id manifestId : String} (h : d.linked id manifestId = false) :
    manifestId ∉ d.linkedIds id := by
  intro hmem
  obtain ⟨l, hl, hid⟩ := List.mem_map.mp hmem
  obtain ⟨hlinks, hcampaign⟩ := mem_linksOf.mp hl
  have hall := List.any_eq_false.mp h l hlinks
  simp [CampaignManifest.isLink, hcampaign, hid] at hall

theorem linkedOnce_next (h : LinkedOnce codec d) (call : DashboardCall) :
    LinkedOnce codec (d.call codec call).1 := by
  refine ⟨linksInv_next h.links call, fun other => ?_⟩
  have hchange := call_change codec h.links.keyed call
  generalize (d.call codec call).1 = d' at hchange
  cases hchange with
  | kept => exact h.once other
  | manifest => exact h.once other
  | stored => exact h.once other
  | removed id manifestId =>
    exact ((linksOf_removeLink d id.value manifestId.value other).map _).nodup (h.once other)
  | appended id manifestId order e hcall happends =>
    obtain ⟨c, m, -, -, -, -, hlinked⟩ := happends
    by_cases hother : other = id.value
    · have hids : linkedIds ((d.addLink id.value manifestId.value).writeEvent e) other =
          d.linkedIds other ++ [manifestId.value] := by
        rw [linkedIds, writeEvent_linksOf, hother, linksOf_addLink_self, List.map_append]
        rfl
      rw [hids]
      refine List.nodup_append.mpr ⟨h.once other, List.nodup_singleton _, ?_⟩
      intro x hx y hy hxy
      rw [List.mem_singleton.mp hy] at hxy
      rw [hother, hxy] at hx
      exact not_mem_linkedIds hlinked hx
    · have hids : linkedIds ((d.addLink id.value manifestId.value).writeEvent e) other =
          d.linkedIds other := by
        rw [linkedIds, writeEvent_linksOf, linksOf_addLink_other d manifestId.value hother]
        rfl
      rw [hids]
      exact h.once other

theorem linkedOnce_run (codec : Codec τ) (calls : List DashboardCall) :
    LinkedOnce codec ((campaignRouter codec).run (campaignRouter codec).init calls) :=
  Machine.run_inv (M := campaignRouter codec) (I := LinkedOnce codec)
    (fun _ call h => linkedOnce_next h call) linkedOnce_init calls

/-- The join loses no link. -/
theorem icd5Ids_eq (h : LinksInv codec d) (id : String) : d.icd5Ids id = d.linkedIds id := by
  have hall : ∀ l ∈ d.linksOf id,
      (d.dashboard.rows.get l.manifestId).map Manifest.manifestId = some l.manifestId := by
    intro l hl
    obtain ⟨-, hrow⟩ := h.named l (mem_linksOf.mp hl).1
    cases hm : d.dashboard.rows.get l.manifestId with
    | none => exact absurd hm hrow
    | some m => rw [Option.map_some, h.mirrors.keyed _ m hm]
  rw [icd5Ids, List.filterMap_congr hall, linkedIds, ← List.filterMap_eq_map]
  rfl

end CampaignState

/-! ### The summary -/

section Summary

variable {τ : Type} {codec : Codec τ} {d : CampaignState} {linked : List String}
  {events : List PlayEventOut}

theorem min_instant (events : List PlayEventOut) (t : ℚ) :
    (events.map PlayEventOut.activatedAt).min? = some t ↔
      (∃ e ∈ events, e.activatedAt = t) ∧ ∀ e ∈ events, t ≤ e.activatedAt := by
  simp [List.min?_eq_some_iff]

theorem max_instant (events : List PlayEventOut) (t : ℚ) :
    (events.map PlayEventOut.activatedAt).max? = some t ↔
      (∃ e ∈ events, e.activatedAt = t) ∧ ∀ e ∈ events, e.activatedAt ≤ t := by
  simp [List.max?_eq_some_iff]

/-- The guards of the three queries only spare them an empty answer. -/
theorem guarded_eq {α β : Type} (xs : List α) (f : List α → Option β) (hnil : f [] = none) :
    (if 0 < xs.length then f xs else none) = f xs := by
  cases xs with
  | nil => exact hnil.symm
  | cons x xs => rfl

theorem guarded_attention (ids : List String) (events : List PlayEventOut) :
    (if !ids.isEmpty && decide (0 < (eventsIn ids events).length) then
      avgAttention (eventsIn ids events) else none) = avgAttention (eventsIn ids events) := by
  cases ids with
  | nil =>
    have hnone : eventsIn [] events = [] := by simp [eventsIn]
    rw [hnone]
    rfl
  | cons id ids =>
    have hguard := guarded_eq (eventsIn (id :: ids) events) avgAttention rfl
    simpa using hguard

/-- Whatever the order of the join. -/
theorem getCampaignAnalytics_reports (h : CampaignState.LinkedOnce codec d)
    (renders : Number → Bool) (join : JoinOrder) (events : List PlayEventOut) (id : PathId)
    {out : CampaignAnalyticsOut} (hout : getCampaignAnalytics renders join d events id = .ok out) :
    Reports (d.linkedIds id.value) events out := by
  unfold getCampaignAnalytics at hout
  cases hc : d.campaigns.get id.value with
  | none =>
    rw [hc] at hout
    cases hout
  | some c =>
    simp only [hc, CampaignState.icd5Ids_eq h.links] at hout
    have hperm := join.perm (d.linkedIds id.value)
    have hattention := guarded_attention (join.rows (d.linkedIds id.value)) events
    have hfirst := guarded_eq (eventsIn (d.linkedIds id.value) events)
      (fun es => (es.map PlayEventOut.activatedAt).min?) rfl
    have hlast := guarded_eq (eventsIn (d.linkedIds id.value) events)
      (fun es => (es.map PlayEventOut.activatedAt).max?) rfl
    simp only [countImpressions_eq, sum_impressionsOf (hperm.nodup_iff.mpr (h.once id.value)),
      hattention] at hout
    simp only [eventsIn_perm hperm events, hfirst, hlast] at hout
    unfold CampaignAnalyticsOut.rendered at hout
    split_ifs at hout with hrenders
    obtain rfl := Except.ok.inj hout
    refine ⟨rfl, ?_, fun b hb => ?_, min_instant _, max_instant _, rfl⟩
    · rw [List.map_map]
      exact (List.map_id _).symm ▸ hperm
    · obtain ⟨mid, -, rfl⟩ := List.mem_map.mp hb
      rfl

end Summary

end AdaptiveAdvertisement.Dashboard
