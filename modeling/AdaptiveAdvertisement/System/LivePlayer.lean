import AdaptiveAdvertisement.Dashboard.LiveStatus
import AdaptiveAdvertisement.System.ImpressionLog
import AdaptiveAdvertisement.System.LiveView

/-!
# The player as the dashboard shows it

The live view takes the manifest of the latest play event for the one on screen, and whatever has
been activated once for active (`routers/system.py:346-365`). Where all events are stored it names
the last activation, which the player may have left again.
-/

namespace AdaptiveAdvertisement.System
open Library Player Dashboard

variable {τ : Type}

section Turn

variable {rt : Runtime τ} {ev : EventRuntime τ}

/-- The instant at which a task starts. -/
def startedAt : ImpressionInput ev → Option ℚ
  | .publish _ now _ => some now.instant
  | _ => none

/-- The tasks start in the order in which they are scheduled, each at a later instant. -/
structure StartsInTurn (is : List (ImpressionInput ev)) : Prop where
  first : ∀ k now sent, .publish k now sent ∈ is → k = 0
  clock : (is.filterMap startedAt).Pairwise (· < ·)

theorem startedAt_step (s : ImpressionLog τ) (i : ImpressionInput ev) :
    List.Sublist ((s.starts i).toList.map fun m => m.2.instant) (startedAt i).toList := by
  cases i with
  | publish k now sent =>
    simp only [ImpressionLog.starts, startedAt]
    cases s.scheduled[k]? with
    | none => exact List.nil_sublist _
    | some e => exact List.Sublist.refl _
  | control c => exact List.Sublist.refl _
  | lose k => exact List.Sublist.refl _
  | receive k id now query commits => exact List.Sublist.refl _
  | sample snapshot => exact List.Sublist.refl _

/-- The tasks read the clock in the order of their start. -/
theorem started_times (rt : Runtime τ) (store : ManifestStore) (is : List (ImpressionInput ev)) :
    ((started rt ev store is).map fun m => m.2.instant).Sublist (is.filterMap startedAt) := by
  induction is using List.reverseRecOn with
  | nil => exact List.Sublist.refl _
  | append_singleton is i ih =>
    have hlast : [i].filterMap startedAt = (startedAt i).toList := by
      cases hi : startedAt i with
      | none => rw [List.filterMap_cons_none hi]; rfl
      | some now => rw [List.filterMap_cons_some hi]; rfl
    rw [started, Machine.collect_snoc, List.map_append, List.filterMap_append]
    exact ih.append (hlast ▸ startedAt_step _ i)

theorem inTurn_step (rt : Runtime τ) {s : ImpressionLog τ} {events : List PlayEvent}
    {launched : List (PlayEvent × ClockText ev)}
    (h : launched.map Prod.fst ++ s.scheduled = events) (i : ImpressionInput ev)
    (hfirst : ∀ k now sent, i = .publish k now sent → k = 0) :
    (launched ++ (s.starts i).toList).map Prod.fst ++ (s.step rt ev i).1.scheduled =
      events ++ (s.step rt ev i).2.toList := by
  cases i with
  | control c => simp [ImpressionLog.starts, ImpressionLog.step, ← h]
  | publish k now sent =>
    obtain rfl := hfirst k now sent rfl
    cases hscheduled : s.scheduled with
    | nil => simp [ImpressionLog.starts, ImpressionLog.step, hscheduled, ← h]
    | cons e rest => simp [ImpressionLog.starts, ImpressionLog.step, hscheduled, ← h]
  | lose k => simpa [ImpressionLog.starts, ImpressionLog.step] using h
  | receive k id now query commits =>
    rw [step_unscheduled (by simp)]
    simp only [ImpressionLog.starts, ImpressionLog.step, Option.toList_none, List.append_nil]
    split <;> exact h
  | sample snapshot => simpa [ImpressionLog.starts, ImpressionLog.step] using h

/-- Where each task starts in its turn, the events are those started and those that wait. -/
theorem started_inTurn (rt : Runtime τ) (store : ManifestStore) {is : List (ImpressionInput ev)}
    (hfirst : ∀ k now sent, .publish k now sent ∈ is → k = 0) :
    (started rt ev store is).map Prod.fst ++
        ((impressions rt ev store).run (impressions rt ev store).init is).scheduled =
      eventsOf ((impressions rt ev store).outputs (impressions rt ev store).init is) := by
  induction is using List.reverseRecOn with
  | nil => rfl
  | append_singleton is i ih =>
    have hturn := ih fun k now sent hmem => hfirst k now sent (List.mem_append_left _ hmem)
    have hnext := inTurn_step rt hturn i fun k now sent hi =>
      hfirst k now sent (List.mem_append_right _ (List.mem_singleton.mpr hi.symm))
    rw [started, Machine.collect_snoc, Machine.run_snoc, Machine.outputs_append,
      Machine.outputs_cons, Machine.outputs_nil, eventsOf_snoc]
    exact hnext

end Turn

/-! ### The latest row -/

section Latest

variable {rt : Runtime τ} {ev : EventRuntime τ} {store : ManifestStore}
  {is : List (ImpressionInput ev)}

theorem getLast_of_latest {α : Type} {f : α → ℚ} {l : List α}
    (hordered : l.Pairwise fun a b => f a < f b) {m : α} (hm : m ∈ l)
    (hlatest : ∀ other ∈ l, f other ≤ f m) : l.getLast? = some m := by
  induction l using List.reverseRecOn with
  | nil => exact absurd hm List.not_mem_nil
  | append_singleton l x _ =>
    rw [List.getLast?_concat]
    rcases List.mem_append.mp hm with hold | hlast
    · have hlt := (List.pairwise_append.mp hordered).2.2 m hold x List.mem_cons_self
      exact absurd (hlatest x (List.mem_append_right _ List.mem_cons_self)) (not_le.mpr hlt)
    · rw [List.mem_singleton.mp hlast]

theorem row_of_origin {origins : List (PlayEvent × ClockText ev)} {rows : List PlayEventOut}
    (h : List.Forall₂ Records origins rows) {m : PlayEvent × ClockText ev} (hm : m ∈ origins) :
    ∃ row ∈ rows, Records m row := by
  obtain ⟨k, hk, rfl⟩ := List.mem_iff_getElem.mp hm
  exact ⟨_, List.getElem_mem (h.length_eq ▸ hk), h.get hk (h.length_eq ▸ hk)⟩

/-- Where every event is stored, the latest row is that of the last activation. -/
theorem latest_recorded (hturn : StartsInTurn is)
    (hstored : ((impressions rt ev store).run (impressions rt ev store).init is).rows.length =
      (eventsOf ((impressions rt ev store).outputs (impressions rt ev store).init is)).length)
    (latestPlay : LatestPlayQuery) :
    (latestPlay.pick
        ((impressions rt ev store).run (impressions rt ev store).init is).rows).map
          PlayEventOut.manifestId =
      (eventsOf ((impressions rt ev store).outputs (impressions rt ev store).init is)).getLast?.map
        PlayEvent.manifestId := by
  obtain ⟨t, h⟩ := conveyed rt ev store is
  have hlaunched := started_inTurn rt store hturn.first
  have hordered : (started rt ev store is).Pairwise fun a b => a.2.instant < b.2.instant :=
    List.pairwise_map.mp (hturn.clock.sublist (started_times rt store is))
  generalize (impressions rt ev store).run (impressions rt ev store).init is = s
    at h hlaunched hstored ⊢
  generalize eventsOf ((impressions rt ev store).outputs (impressions rt ev store).init is) = events
    at h hlaunched hstored ⊢
  obtain ⟨hnone, hperm⟩ := h.accounted.complete (h.kept.length_eq.trans hstored)
  rw [h.scheduled, hnone, List.append_nil] at hlaunched
  cases hpick : latestPlay.pick s.rows with
  | none =>
    rw [latestPlay.answers _ hpick, List.length_nil] at hstored
    rw [List.length_eq_zero_iff.mp hstored.symm]
    rfl
  | some row =>
    obtain ⟨m, hm, hrecords⟩ := records_of_row h.kept (latestPlay.mem _ _ hpick)
    have hlast : (started rt ev store is).getLast? = some m := by
      refine getLast_of_latest hordered (hperm.subset hm) fun other hother => ?_
      obtain ⟨row', hrow', hrecords'⟩ := row_of_origin h.kept (hperm.symm.subset hother)
      rw [← hrecords.activatedAt, ← hrecords'.activatedAt]
      exact latestPlay.latest _ _ hpick row' hrow'
    rw [← hlaunched, List.getLast?_map, hlast, Option.map_some, Option.map_some, Option.map_some,
      hrecords.manifestId]

end Latest

/-! ### The law -/

/-- The view names the last activation, and so the manifest on screen. Its state is the player's
but for a frozen player, which it takes for active, and for a fallback after an activation. -/
structure ShowsPlayer (events : List PlayEvent) (sm : StateMachine) (safe : SafeModeState)
    (out : PlayerLiveOut) : Prop where
  manifest : out.activeManifestId = events.getLast?.map PlayEvent.manifestId
  onScreen : ∀ m, sm.activeManifestId = some m → out.activeManifestId = some m
  state : out.state = some sm.state.value ↔
    if safe.isActive then sm.state = .safeMode
    else out.available = true ∧ (sm.state = .active ∨ sm.state = .fallback ∧ events = [])

theorem value_injective : Function.Injective PlayerState.value := by
  intro a b h
  cases a <;> cases b <;> first | rfl | exact absurd h (by decide)

theorem value_eq_iff (a b : PlayerState) : a.value = b.value ↔ b = a :=
  value_injective.eq_iff.trans eq_comm

theorem not_active_of_none {events : List PlayEvent} {sm : StateMachine}
    (h : Tells events sm.activeManifestId) (hwf : WellFormed sm) (hnil : events = []) :
    sm.state ≠ .active := by
  intro hactive
  obtain ⟨m, hm⟩ := Option.isSome_iff_exists.mp (hwf.active_iff.mpr (Or.inl hactive))
  obtain ⟨e, he, -⟩ := h m hm
  rw [hnil] at he
  cases he

theorem playerLive_shows {events : List PlayEvent} {sm : StateMachine}
    (htells : Tells events sm.activeManifestId) (hwf : WellFormed sm)
    {latest : Option PlayEventOut}
    (hlatest : latest.map PlayEventOut.manifestId = events.getLast?.map PlayEvent.manifestId)
    (probe : ProbeOutcome) (safe : SafeModeState) :
    ShowsPlayer events sm safe (playerLive probe safe latest) := by
  refine ⟨hlatest, fun m hm => ?_, ?_⟩
  · obtain ⟨e, he, hid⟩ := htells m hm
    exact hlatest.trans (by rw [Option.mem_def.mp he, Option.map_some, hid])
  · simp only [playerLive, playerState]
    cases hsafe : safe.isActive with
    | true =>
      simp only [if_true, Option.some.injEq]
      exact value_eq_iff .safeMode sm.state
    | false =>
      generalize (probeStatus probe == "healthy") = available
      cases available with
      | false => simp
      | true =>
        cases latest with
        | none =>
          have hnil : events = [] := by simpa using hlatest.symm
          have hidle := not_active_of_none htells hwf hnil
          simp only [Bool.false_eq_true, if_false, Option.isSome_none, Bool.and_false, if_true,
            Option.some.injEq, hidle, hnil, false_or, and_true, true_and]
          exact value_eq_iff .fallback sm.state
        | some row =>
          have hne : events ≠ [] := by
            rintro rfl
            cases hlatest
          simp only [Bool.false_eq_true, if_false, Option.isSome_some, Bool.and_true, if_true,
            Option.some.injEq, hne, and_false, or_false, true_and]
          exact value_eq_iff .active sm.state

/-- The scheduled events are a history of the player's screen. -/
theorem screen_told (rt : Runtime τ) (ev : EventRuntime τ) (store : ManifestStore)
    (is : List (ImpressionInput ev)) :
    let sm := ((impressions rt ev store).run (impressions rt ev store).init is).session.handler.sm
    Tells (eventsOf ((impressions rt ev store).outputs (impressions rt ev store).init is))
      sm.activeManifestId ∧ WellFormed sm := by
  obtain ⟨js, hsession, hevents⟩ := log_session rt store is
  have hrun := Machine.outputs_inv (M := publishing rt store)
    (J := fun outs s => Tells (eventsOf outs) s.handler.sm.activeManifestId ∧
      WellFormed s.handler.sm)
    (fun outs s i h => ⟨tells_step h.1 i, (step_performs rt s i).2.wellFormed h.2⟩)
    ⟨tells_init rt store, StateMachine.init_wellFormed⟩ js
  rw [List.nil_append] at hrun
  rw [hsession, hevents]
  exact hrun

/-- In every run whose tasks start in turn and whose events are all stored, however they overtook
one another on the way. -/
theorem live_player (rt : Runtime τ) (ev : EventRuntime τ) (store : ManifestStore)
    {is : List (ImpressionInput ev)} (hturn : StartsInTurn is)
    (hstored : ((impressions rt ev store).run (impressions rt ev store).init is).rows.length =
      (eventsOf ((impressions rt ev store).outputs (impressions rt ev store).init is)).length)
    (latest : LatestQuery) (latestPlay : LatestPlayQuery) (now : ℚ) (probe : ProbeOutcome)
    (safe : Option SafeModeState) :
    let s := (impressions rt ev store).run (impressions rt ev store).init is
    ShowsPlayer (eventsOf ((impressions rt ev store).outputs (impressions rt ev store).init is))
      s.session.handler.sm (getOrCreateSafeMode safe)
      (getLiveStatus latest latestPlay now probe s.snapshots s.rows safe).1.player := by
  intro s
  have hlatest := latest_recorded hturn hstored latestPlay
  obtain ⟨htells, hwf⟩ := screen_told rt ev store is
  exact playerLive_shows htells hwf hlatest probe (getOrCreateSafeMode safe)

/-! ### Two posters -/

def argmaxPlayQuery : LatestPlayQuery where
  pick := List.argmax PlayEventOut.activatedAt
  mem := fun _ _ h => List.argmax_mem h
  latest := fun _ _ h _ hother => List.le_of_mem_argmax hother h
  answers := fun _ h => List.argmax_eq_none.mp h

def lobbyEvents : EventRuntime Json where
  toSinkRuntime := { viewRuntime with
    fromisoformat := fun s =>
      if s = "2026-01-01T00:00:06.000+00:00" then some 1767225606 else viewRuntime.fromisoformat s }
  str := fun j => j.asStr?.getD ""
  str_str := fun _ => rfl

def promoPoster : Json :=
  .obj [("schema_version", .str "1.0.0"), ("manifest_id", .str "promo-1"),
    ("approved_at", .str "2026-01-01T00:00:00Z"), ("approved_by", .str "ops"),
    ("items", .arr [.obj [("item_id", .str "i-1"), ("asset_id", .str "a-1"),
      ("asset_type", .str "image"), ("duration_ms", .int 5000)]])]

def promoCommand : Json :=
  .obj [("schema_version", .str "1.0.0"), ("command_id", .str "c-2"), ("sequence_number", .int 2),
    ("produced_at", .str "2026-01-01T00:00:01Z"), ("command_type", .str "activate_creative"),
    ("activate_creative", .obj [("manifest_id", .str "promo-1"), ("min_dwell_ms", .int 0)])]

def postersStore : ManifestStore := (posterStore.put promoPoster).1

theorem poster_time : lobbyEvents.fromisoformat (withUtcOffset "2026-01-01T00:00:05.000Z") =
    some 1767225605 := by decide +kernel

theorem promo_time : lobbyEvents.fromisoformat (withUtcOffset "2026-01-01T00:00:06.000Z") =
    some 1767225606 := by decide +kernel

/-- The second event overtakes the first on the way to the sink. -/
def postersRun : List (ImpressionInput lobbyEvents) :=
  [.control .connects, .control (.frame posterCommand ⟨0, .at 0⟩),
    .control (.frame promoCommand ⟨1, .at 1⟩),
    .publish 0 ⟨1767225605, "2026-01-01T00:00:05.000Z", poster_time⟩ true,
    .publish 0 ⟨1767225606, "2026-01-01T00:00:06.000Z", promo_time⟩ true,
    .receive 1 "row-1" 1767225607 argmaxQuery true,
    .receive 0 "row-2" 1767225608 argmaxQuery true]

theorem posterRun_shown :
    let s := (impressions jsonRuntime lobbyEvents postersStore).run
      (impressions jsonRuntime lobbyEvents postersStore).init postersRun
    s.rows.map PlayEventOut.manifestId = ["promo-1", "poster"] ∧
      ShowsPlayer (eventsOf ((impressions jsonRuntime lobbyEvents postersStore).outputs
          (impressions jsonRuntime lobbyEvents postersStore).init postersRun))
        s.session.handler.sm {} (getLiveStatus argmaxQuery argmaxPlayQuery 1767225609
          (.answered 200) s.snapshots s.rows none).1.player := by
  refine ⟨by decide +kernel, live_player jsonRuntime lobbyEvents postersStore ⟨?_, ?_⟩
    (by decide +kernel) argmaxQuery argmaxPlayQuery 1767225609 (.answered 200) none⟩
  · simp only [postersRun, List.mem_cons, ImpressionInput.publish.injEq, reduceCtorEq,
      List.not_mem_nil, false_or, or_false]
    rintro k now sent (⟨rfl, -⟩ | ⟨rfl, -⟩) <;> rfl
  · have hstarts : postersRun.filterMap startedAt = [1767225605, 1767225606] := rfl
    rw [hstarts]
    exact List.pairwise_pair.mpr (by norm_num)

end AdaptiveAdvertisement.System
