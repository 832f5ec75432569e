import AdaptiveAdvertisement.Creative.Service
import AdaptiveAdvertisement.System.ApprovalPath

/-!
# From the dashboard's approval to the creative service and the player

Both services load the directory that the dashboard writes: the player at every reload, the creative
service when it comes up. The player keeps the last valid file of an id, the creative service the
last one that is approved.
-/

namespace AdaptiveAdvertisement.System
open Library Contracts Player Dashboard

variable {τ : Type}

/-- The player would render the manifest that it holds under an id. -/
def Accepts (rt : Runtime τ) (store : Player.ManifestStore) (id : String) (now : ℚ) (m : Json) :
    Prop :=
  store.get id = some m ∧ Player.ManifestStore.checkManifest rt m now = .ok none

section Directory

variable {rt : Runtime τ} {dir : Option Directory} {id : String} {m : Json} {now : ℚ}

theorem reload_get (before : Player.ManifestStore)
    (h : ∀ f ∈ manifestFiles dir, uncaught f = false)
    (id : String) : (before.reload dir).1.get id = lastWith id (validManifests dir) := by
  rw [Player.ManifestStore.reload_eq, Player.ManifestStore.get,
    (Player.ManifestStore.loadFiles_caught .empty h).1]
  exact Player.ManifestStore.get_setAll_keyed _ id

theorem approvedManifests_eq (dir : Option Directory) :
    Creative.approvedManifests dir = (validManifests dir).filter Creative.isApproved :=
  (List.filter_filterMap ..).symm

theorem lastWith_mem {ms : List Json} (h : lastWith id ms = some m) :
    m ∈ ms ∧ manifestId m = id := by
  obtain ⟨hmem, hid⟩ := List.mem_filter.mp (List.mem_of_getLast? h)
  exact ⟨hmem, of_decide_eq_true hid⟩

/-- The last one that is approved is the last one, if that is approved. -/
theorem lastWith_approved {ms : List Json} (h : lastWith id ms = some m)
    (happroved : Creative.isApproved m = true) :
    lastWith id (ms.filter Creative.isApproved) = some m := by
  unfold lastWith at h ⊢
  rw [List.filter_comm]
  obtain ⟨earlier, hlast⟩ := List.getLast?_eq_some_iff.mp h
  rw [hlast, List.filter_append, List.filter_cons_of_pos happroved, List.filter_nil]
  exact List.getLast?_concat

/-- What the player accepts, the creative service serves, but for the last instant. -/
theorem accepts_served (hvalid : creativeManifest m = true)
    (hcheck : Player.ManifestStore.checkManifest rt m now = .ok none) :
    Creative.isApproved m = true ∧
      (Creative.expiredNow now (Player.ManifestStore.parsedExpiry rt m) = false ∨
        Player.ManifestStore.parsedExpiry rt m = some (.aware now)) := by
  cases happroved : Player.ManifestStore.approved m with
  | false =>
    rw [Player.ManifestStore.checkManifest_unapproved happroved] at hcheck
    cases hcheck
  | true =>
    refine ⟨happroved, ?_⟩
    rcases Player.ManifestStore.checkManifest_approved rt now hvalid happroved with
      ⟨-, hnone | ⟨expiry, haware, hle⟩⟩ | ⟨⟨reason, hreason⟩, -⟩ | ⟨hraises, -⟩
    · exact Or.inl (by rw [hnone]; rfl)
    · rcases hle.lt_or_eq with hlt | rfl
      · exact Or.inl (by rw [haware]; exact decide_eq_false (not_le.mpr hlt))
      · exact Or.inr haware
    · rw [hreason] at hcheck
      cases hcheck
    · rw [hraises] at hcheck
      cases hcheck

theorem served_accepts (hvalid : creativeManifest m = true)
    (happroved : Creative.isApproved m = true)
    (hzoned : Player.ManifestStore.parsedExpiry rt m ≠ some .naive)
    (hexpired : Creative.expiredNow now (Player.ManifestStore.parsedExpiry rt m) = false) :
    Player.ManifestStore.checkManifest rt m now = .ok none := by
  rcases Player.ManifestStore.checkManifest_approved rt now hvalid happroved with
    ⟨hcheck, -⟩ | ⟨-, ⟨message, hinvalid⟩ | ⟨expiry, haware, hlt⟩⟩ | ⟨-, hnaive⟩
  · exact hcheck
  · rw [hinvalid] at hexpired
    cases hexpired
  · rw [haware] at hexpired
    exact absurd hlt.le (of_decide_eq_false hexpired)
  · exact absurd hnaive hzoned

end Directory

/-! ### The directory of the dashboard -/

section Mirrored

variable {rt : Runtime τ} {d : DashboardState} {id : String} {m : Json} {now : ℚ}

theorem mirrors_caught (h : Mirrors rt.toCodec d) (digits : String → Bool) :
    ∀ f ∈ manifestFiles (some d.outputDir),
      uncaught f = false ∧ Creative.nested digits f = false := by
  intro f hf
  obtain ⟨_, row, -, -, hfile⟩ := mirrors_file h hf
  obtain ⟨name, file⟩ := f
  simp only at hfile
  subst hfile
  exact ⟨rfl, rfl⟩

/-- What either service holds is the content of an enabled row. -/
theorem mirrors_held (h : Mirrors rt.toCodec d)
    (hm : m ∈ validManifests (some d.outputDir)) : creativeManifest m = true ∧
      ∃ id row, d.rows.get id = some row ∧ row.status = .enabled ∧ row.manifestJson = m := by
  obtain ⟨f, hf, hvalid⟩ := List.mem_filterMap.mp hm
  obtain ⟨id, row, hrow, henabled, hfile⟩ := mirrors_file h hf
  obtain ⟨name, file⟩ := f
  simp only at hfile
  subst hfile
  simp only [validManifest] at hvalid
  split_ifs at hvalid with hcreative
  obtain rfl := Option.some.inj hvalid
  exact ⟨hcreative, id, row, hrow, henabled, rfl⟩

end Mirrored

/-- What holds of a creative service that came up on the directory of the dashboard, beside a
player that reloads it. -/
structure ServesApproved (rt : Runtime τ) (d : DashboardState) (store : Player.ManifestStore)
    (service : Creative.ManifestStore) : Prop where
  enabled : ∀ id now m, service.getManifest rt id now = ⟨200, some m⟩ →
    creativeManifest m = true ∧
      ∃ own row, d.rows.get own = some row ∧ row.status = .enabled ∧ row.manifestJson = m
  accepted : ∀ id now m, Accepts rt store id now m →
    service.getManifest rt id now = ⟨200, some m⟩ ∨
      Player.ManifestStore.parsedExpiry rt m = some (.aware now)
  served : ContentRepeatsRow rt d → ∀ id now m,
    service.getManifest rt id now = ⟨200, some m⟩ → Accepts rt store id now m

theorem mirrors_servesApproved {rt : Runtime τ} {d : DashboardState} {digits : String → Bool}
    {clock : String → ℚ} {service : Creative.ManifestStore} (h : Mirrors rt.toCodec d)
    (before : Player.ManifestStore)
    (hstart : Creative.start rt digits clock (some d.outputDir) = .ok service) :
    ServesApproved rt d (before.reload (some d.outputDir)).1 service := by
  have hserves := Creative.serves_of_start hstart
  have hstartable := Creative.start_iff_startable.mp ⟨service, hstart⟩
  have hanswer : ∀ id now m, service.getManifest rt id now = ⟨200, some m⟩ ↔
      lastWith id (Creative.approvedManifests (some d.outputDir)) = some m ∧
        Creative.expiredNow now (Player.ManifestStore.parsedExpiry rt m) = false := by
    intro id now m
    rw [hserves.answers id now]
    exact Creative.answerFor_ok_iff
  have hheld : ∀ id m, lastWith id (Creative.approvedManifests (some d.outputDir)) = some m →
      m ∈ validManifests (some d.outputDir) ∧ Creative.isApproved m = true ∧
        manifestId m = id := by
    intro id m hm
    rw [approvedManifests_eq] at hm
    obtain ⟨hmem, hid⟩ := lastWith_mem hm
    obtain ⟨hvalid, happroved⟩ := List.mem_filter.mp hmem
    exact ⟨hvalid, happroved, hid⟩
  have hstored := reload_get before fun f hf => (mirrors_caught h digits f hf).1
  refine ⟨fun id now m hok => ?_, fun id now m haccepts => ?_, fun hrepeat id now m hok => ?_⟩
  · exact mirrors_held h (hheld id m ((hanswer id now m).mp hok).1).1
  · obtain ⟨hget, hcheck⟩ := haccepts
    rw [hstored id] at hget
    obtain ⟨happroved, hexpiry⟩ :=
      accepts_served (mirrors_held h (lastWith_mem hget).1).1 hcheck
    refine hexpiry.imp_left fun hfresh => (hanswer id now m).mpr ⟨?_, hfresh⟩
    rw [approvedManifests_eq]
    exact lastWith_approved hget happroved
  · obtain ⟨hlast, hfresh⟩ := (hanswer id now m).mp hok
    obtain ⟨hmem, happroved, hid⟩ := hheld id m hlast
    obtain ⟨hvalid, own, row, hrow, henabled, rfl⟩ := mirrors_held h hmem
    -- the row is called as its content calls itself, so that no other row has the id
    have hown := (hrepeat own row hrow henabled hvalid).1.symm.trans hid
    subst hown
    have hresp := (reload_respects_iff rt h before).mpr hrepeat
    exact ⟨(hresp.enabled_stored own row hrow henabled hvalid).1,
      served_accepts hvalid happroved (hstartable.zoned own _ hlast) hfresh⟩

/-- For every run of the manifest router: the creative service comes up exactly where nothing that
it would hold expires at a time without a zone; it then serves content of enabled rows only, all
that the player accepts, up to the last instant, and nothing else where the content of the rows
repeats them. -/
theorem creative_serves_approved (rt : Runtime τ) (reqs : List ManifestRequest)
    (digits : String → Bool) (clock : String → ℚ) (before : Player.ManifestStore) :
    let d := (router rt.toCodec).run (router rt.toCodec).init reqs
    ((∃ service, Creative.start rt digits clock (some d.outputDir) = .ok service) ↔
      ∀ id m, lastWith id (Creative.approvedManifests (some d.outputDir)) = some m →
        Player.ManifestStore.parsedExpiry rt m ≠ some .naive) ∧
    ∀ service, Creative.start rt digits clock (some d.outputDir) = .ok service →
      ServesApproved rt d (before.reload (some d.outputDir)).1 service := by
  intro d
  have hmirrors : Mirrors rt.toCodec d := router_mirrors reqs
  refine ⟨Creative.start_iff_startable.trans
    ⟨fun h => h.zoned, fun h => ⟨by simp, ?_, h⟩⟩,
    fun service hstart => mirrors_servesApproved hmirrors before hstart⟩
  exact fun f hf => (mirrors_caught hmirrors digits f hf).2

end AdaptiveAdvertisement.System
