import AdaptiveAdvertisement.Dashboard.CampaignAnalytics
import AdaptiveAdvertisement.System.ImpressionLog

/-!
# From the activations to the summary of a campaign

The summary of `routers/analytics.py:153-238` reads two tables that nothing ties together: the links
of the campaign router, and the impressions that came through the broker.
-/

namespace AdaptiveAdvertisement.System
open Library Player Dashboard

variable {τ : Type}

section Counts

variable {ev : EventRuntime τ}

theorem countP_records {origins : List (PlayEvent × ClockText ev)} {rows : List PlayEventOut}
    (h : List.Forall₂ Records origins rows) (p : String → Bool) :
    rows.countP (fun row => p row.manifestId) =
      (origins.map Prod.fst).countP fun e => p e.manifestId := by
  induction h with
  | nil => rfl
  | cons hrow _ ih =>
    rw [List.map_cons, List.countP_cons, List.countP_cons, ih, hrow.manifestId]

/-- The table never counts more of a manifest than was activated. -/
theorem countP_rows_le (rt : Runtime τ) (ev : EventRuntime τ) (store : ManifestStore)
    (is : List (ImpressionInput ev)) (p : String → Bool) :
    ((impressions rt ev store).run (impressions rt ev store).init is).rows.countP
        (fun row => p row.manifestId) ≤
      (eventsOf ((impressions rt ev store).outputs (impressions rt ev store).init is)).countP
        fun e => p e.manifestId := by
  obtain ⟨t, h⟩ := conveyed rt ev store is
  rw [countP_records h.kept]
  exact h.accounted.kept_events.countP_le _

end Counts

/-- At any moment, for every run of the dashboard's requests and every run of the players' events:
a campaign has each manifest once, its summary counts each impression of its manifests once and
never more of them than were activated, and its average stays within the attention that was
measured, for bounds of four places like its own. -/
theorem campaign_impressions {σ : Type} (codec : Codec σ) (rt : Runtime τ) (ev : EventRuntime τ)
    (store : ManifestStore) (calls : List DashboardCall) (is : List (ImpressionInput ev))
    (renders : Number → Bool) (join : JoinOrder) (id : PathId) :
    let d := (campaignRouter codec).run (campaignRouter codec).init calls
    let s := (impressions rt ev store).run (impressions rt ev store).init is
    let accepted :=
      eventsOf ((impressions rt ev store).outputs (impressions rt ev store).init is)
    (d.linkedIds id.value).Nodup ∧
      ∀ out, getCampaignAnalytics renders join d s.rows id = .ok out →
        Reports (d.linkedIds id.value) s.rows out ∧
        out.totalImpressions ≤
          (accepted.countP fun e => decide (e.manifestId ∈ d.linkedIds id.value)) ∧
        (∀ b ∈ out.manifestBreakdown, b.2 ≤ accepted.countP fun e => e.manifestId == b.1) ∧
        ∀ lo hi : ℤ,
          (∀ snapshot ∈ s.snapshots, ∀ x, snapshot.attentionEngaged = some x →
            x.Within (lo / 10 ^ 4) (hi / 10 ^ 4)) →
          ∀ x, out.avgAttentionAtTrigger = some x → x.Within (lo / 10 ^ 4) (hi / 10 ^ 4) := by
  intro d s accepted
  have hlinks := CampaignState.linkedOnce_run codec calls
  refine ⟨hlinks.once id.value, fun out hout => ?_⟩
  have hreports := getCampaignAnalytics_reports hlinks renders join s.rows id hout
  refine ⟨hreports, ?_, fun b hb => ?_, fun lo hi hmeasured => ?_⟩
  · rw [hreports.total, eventsIn, ← List.countP_eq_length_filter]
    exact countP_rows_le rt ev store is fun m => decide (m ∈ d.linkedIds id.value)
  · rw [hreports.counts b hb]
    exact countP_rows_le rt ev store is fun m => m == b.1
  · rw [hreports.attention]
    refine avgAttention_within fun row hrow x hx => ?_
    obtain ⟨t, h⟩ := conveyed rt ev store is
    obtain ⟨snapshot, hmem, hvalue, -, -⟩ := h.attended row (List.mem_filter.mp hrow).1 x hx
    exact hmeasured snapshot hmem x hvalue

end AdaptiveAdvertisement.System
