import AdaptiveAdvertisement.System.CommandChannel
import AdaptiveAdvertisement.System.LivePlayer
import AdaptiveAdvertisement.System.PolicyDistribution

/-!
# From an approved rule to a row of impressions

The whole way of an advertisement: the dashboard's rules file, the optimizer that loads it, the
commands of its ticks, the player that shows the manifest, and the sink that stores the row. What
is stored was sanctioned at the other end of that way.
-/

namespace AdaptiveAdvertisement.System
open Library Contracts Player Dashboard DecisionOptimizer

/-! ### What the player makes of a command -/

section Command

variable {τ : Type} {rt : Runtime τ} {P Q : String → Prop} {h : CommandHandler}
  {event : PlayEvent}

theorem activateManifest_event {id : String} {d c : ℤ} {r : Option String} {t : FrameClock}
    {sm : StateMachine} {result : TransitionResult}
    (hr : h.activateManifest rt id d c r t = .ok (sm, result, some event)) :
    event.manifestId = id := by
  unfold CommandHandler.activateManifest at hr
  split at hr
  · simp at hr
  · split at hr
    · cases hr
    · simp at hr
    · simp only [Except.ok.injEq, Prod.mk.injEq] at hr
      obtain ⟨-, -, hevent⟩ := hr
      split_ifs at hevent
      obtain rfl := Option.some.inj hevent
      rfl

/-- Whichever handler reads the frame and whenever, its event is of a manifest with `P`. -/
def Names (rt : Runtime τ) (P : String → Prop) (raw : τ) : Prop :=
  ∀ (h : CommandHandler) (t : FrameClock) (event : PlayEvent),
    eventOf (h.handleRaw rt raw t).2 = some event → P event.manifestId

theorem Names.mono {raw : τ} (h : Names rt P raw) (hle : ∀ m, P m → Q m) : Names rt Q raw :=
  fun handler t event hevent => hle _ (h handler t event hevent)

/-- Only a command that is admitted makes an event, and `dispatch` makes it. -/
theorem published_dispatch {msg : Json} {hd : Header} (hhd : header msg = .ok hd) {t : FrameClock}
    (hevent : eventOf (h.handleRaw rt (rt.dumps msg) t).2 = some event) :
    playerCommand msg = true ∧ ∃ sm result,
      (h.record hd.sequenceNumber hd.commandId).dispatch rt msg hd.commandType t =
        .ok (sm, result, some event) := by
  cases hadmits : h.admits rt (rt.dumps msg) with
  | none =>
    obtain ⟨-, hnone⟩ := CommandHandler.handleRaw_unadmitted t hadmits
    rw [eventOf_undispatched hnone] at hevent
    cases hevent
  | some hd' =>
    obtain ⟨msg', hload, hvalid, hhd', -, -⟩ := CommandHandler.admits_some hadmits
    obtain rfl := loads_dumps_inj hload
    obtain rfl := Except.ok.inj (hhd.symm.trans hhd')
    obtain ⟨msg', hload, hhandled⟩ := CommandHandler.handleRaw_admitted t hadmits
    obtain rfl := loads_dumps_inj hload
    rw [hhandled] at hevent
    refine ⟨hvalid, ?_⟩
    generalize (h.record hd.sequenceNumber hd.commandId).dispatch rt msg hd.commandType t = r
      at hevent ⊢
    cases r with
    | error e => cases hevent
    | ok r =>
      obtain ⟨sm, result, event'⟩ := r
      obtain rfl : event' = some event := hevent
      exact ⟨sm, result, rfl⟩

theorem names_activate (n : ℕ) (stamp : CommandStamp) {m : String} (d c : ℤ) (r : String)
    (hm : P m) : Names rt P (rt.dumps (command n stamp "activate_creative"
      (some (activatePayload m d c (some r))))) := by
  intro handler t event hevent
  obtain ⟨hvalid, sm, result, hdispatch⟩ := published_dispatch header_command hevent
  obtain ⟨hmanifest, hdwell, -, -⟩ := read_activatePayload m d c r
  have hmember : (command n stamp "activate_creative"
      (some (activatePayload m d c (some r)))).get? "activate_creative" =
        some (activatePayload m d c (some r)) := by simp [command, Dict.find]
  have hpayload := (activatePayload_valid hvalid hmember).1
  rw [CommandHandler.dispatch, if_pos rfl, CommandHandler.handleActivateCreative_of_payload rt _
    hpayload hmanifest hdwell t] at hdispatch
  rw [activateManifest_event hdispatch]
  exact hm

theorem names_freeze (n : ℕ) (stamp : CommandStamp) (payload : Option Json) :
    Names rt P (rt.dumps (command n stamp "freeze" payload)) := by
  intro handler t event hevent
  obtain ⟨-, sm, result, hdispatch⟩ := published_dispatch header_command hevent
  simp [CommandHandler.dispatch] at hdispatch

variable {κ δ : Type} [DecidableEq κ]

theorem broadcast_raw {g : PlayerGateway κ} {commandType : String} {payload : Option Json}
    {stamp : CommandStamp} {alive : κ → Bool} {b : Broadcast κ τ}
    (hb : (g.broadcast rt.toCodec commandType payload stamp alive).2 = some b) :
    b.raw = rt.dumps (command (g.sequence + 1) stamp commandType payload) := by
  rcases PlayerGateway.broadcast_cases rt.toCodec g commandType payload stamp alive with
    hnone | ⟨-, hsent⟩
  · rw [hnone] at hb
    cases hb
  · rw [hsent] at hb
    obtain rfl := Option.some.inj hb
    rfl

theorem send_names (cfg : LoopConfig δ) (g : PlayerGateway κ) (stamp : CommandStamp)
    (alive : κ → Bool) {decision : Decision} {b : Broadcast κ τ}
    (hb : (DecisionLoop.send cfg rt.toCodec g stamp alive decision).2 = some b)
    (hdecision : ∀ m why, decision = .activate m why → P m) : Names rt P b.raw := by
  cases decision with
  | freeze reason =>
    rw [broadcast_raw hb]
    exact names_freeze _ stamp _
  | activate m why =>
    rw [broadcast_raw hb]
    exact names_activate _ stamp _ _ why (hdecision m why rfl)
  | hold => cases hb
  | noSignal => cases hb
  | noMatch => cases hb
  | raised e => cases hb
  | unchanged m => cases hb

end Command

/-! ### The whole way -/

variable {τ κ : Type}

/-- What stays fixed: the codec and the clock's texts, and the optimizer's setting. -/
structure Site (τ : Type) where
  rt : Runtime τ
  formatting : Formatting
  staleSignalThresholdMs : ℤ
  texts : Number.Texts
  shipped : FileRead

def Site.deployment (site : Site τ) : Deployment τ :=
  ⟨⟨site.rt.toCodec, site.formatting, site.staleSignalThresholdMs⟩, site.texts,
    site.shipped⟩

def DistributionOutput.command : DistributionOutput τ κ → Option τ
  | .sent (some b) => some b.raw
  | _ => none

/-- `sent` holds every command that has gone out. The channel may bring one late, more than once,
after a later one, or never. -/
structure Signage (τ κ : Type) where
  distribution : Distribution κ
  sent : List τ := []
  log : ImpressionLog τ

inductive SignageInput (κ : Type) (ev : EventRuntime τ) where
  | distribute (i : DistributionInput τ κ)
  | deliver (k : ℕ) (t : FrameClock)
  | record (i : ImpressionInput ev) (own : ∀ raw t, i ≠ .control (.frame raw t))

def distributionOf {ev : EventRuntime τ} : SignageInput κ ev → Option (DistributionInput τ κ)
  | .distribute i => some i
  | _ => none

section Step

variable [DecidableEq κ] (site : Site τ) {ev : EventRuntime τ}

namespace Signage

def record (s : Signage τ κ) (i : ImpressionInput ev) : Signage τ κ × Option PlayEvent :=
  let r := s.log.step site.rt ev i
  ({ s with log := r.1 }, r.2)

def step (s : Signage τ κ) : SignageInput κ ev → Signage τ κ × Option PlayEvent
  | .distribute i =>
    let r := s.distribution.step site.deployment i
    ({ s with distribution := r.1, sent := s.sent ++ r.2.command.toList }, none)
  | .deliver k t =>
    match s.sent[k]? with
    | some raw => s.record site (.control (.frame raw t) : ImpressionInput ev)
    | none => (s, none)
  | .record i _ => s.record site i

def logInput (s : Signage τ κ) : SignageInput κ ev → Option (ImpressionInput ev)
  | .distribute _ => none
  | .deliver k t => (s.sent[k]?).map fun raw => .control (.frame raw t)
  | .record i _ => some i

end Signage

def signage (ev : EventRuntime τ) (store : ManifestStore) :
    Machine (Signage τ κ) (SignageInput κ ev) (Option PlayEvent) where
  init := { distribution := (distributing site.deployment).init
            log := (impressions site.rt ev store).init }
  step := fun s i => s.step site i

end Step

/-! ### The law -/

section Law

variable [DecidableEq κ] {site : Site τ} {ev : EventRuntime τ} {store : ManifestStore}
  {is : List (SignageInput κ ev)} {s : Signage τ κ}

def distributed (is : List (SignageInput κ ev)) : List (DistributionInput τ κ) :=
  is.filterMap distributionOf

omit [DecidableEq κ] in
theorem distributed_snoc (is : List (SignageInput κ ev)) (i : SignageInput κ ev) :
    distributed (is ++ [i]) = distributed is ++ (distributionOf i).toList := by
  rw [distributed, List.filterMap_append]
  cases i <;> rfl

/-- Every command that has gone out names what is sanctioned. -/
structure SignageInv (site : Site τ) (store : ManifestStore) (is : List (SignageInput κ ev))
    (s : Signage τ κ) : Prop where
  distribution : s.distribution =
    (distributing site.deployment).run (distributing site.deployment).init (distributed is)
  sent : ∀ raw ∈ s.sent, Names site.rt (Sanctioned site.deployment (distributed is)) raw
  store : s.log.session.handler.store = store

/-- Only a tick sends a command. -/
theorem command_tick {dp : Deployment τ} {d : Distribution κ} {i : DistributionInput τ κ}
    {raw : τ} (hraw : (d.step dp i).2.command = some raw) :
    ∃ o t b, d.optimizer = some o ∧ (o.tick dp.setting t).2.2 = some b ∧ b.raw = raw := by
  cases i with
  | optimize i own =>
    simp only [Distribution.step] at hraw
    cases ho : d.optimizer with
    | none =>
      rw [ho] at hraw
      cases hraw
    | some o =>
      rw [ho] at hraw
      cases i with
      | tick t =>
        simp only [Optimizer.step] at hraw
        cases hb : (o.tick dp.setting t).2.2 with
        | none =>
          rw [hb] at hraw
          cases hraw
        | some b =>
          rw [hb] at hraw
          exact ⟨o, t, b, rfl, hb, Option.some.inj hraw⟩
      | signal raw now => cases hraw
      | connect ws => cases hraw
      | close ws => cases hraw
      | reloadPolicy p => cases hraw
  | request r => cases hraw
  | select job tie =>
    simp only [Distribution.step] at hraw
    split at hraw <;> cases hraw
  | truncate job seen =>
    simp only [Distribution.step] at hraw
    split at hraw <;> cases hraw
  | write job outcome =>
    simp only [Distribution.step] at hraw
    split at hraw
    · cases outcome <;> cases hraw
    · cases hraw
  | report job post commits =>
    simp only [Distribution.step] at hraw
    split at hraw
    · simp only [Distribution.report] at hraw
      split at hraw <;> cases hraw
    · cases hraw
  | abandon job => cases hraw
  | relay post => cases hraw
  | stop => cases hraw
  | start =>
    simp only [Distribution.step] at hraw
    split at hraw <;> cases hraw

theorem command_names {before : List (DistributionInput τ κ)} {i : DistributionInput τ κ}
    {raw : τ} (hraw : ((distributing site.deployment).out ((distributing site.deployment).run
      (distributing site.deployment).init before) i).command = some raw) :
    Names site.rt (Sanctioned site.deployment before) raw := by
  obtain ⟨o, t, b, ho, hb, rfl⟩ := command_tick hraw
  refine send_names _ _ _ _ hb fun m why hdecision => ?_
  obtain ⟨signal, -, -, heval, -⟩ := (decide_activate_iff _ _ _ _ _ _ _).mp hdecision
  exact policy_sanctioned ho heval

theorem record_silent {log : ImpressionLog τ} {i : ImpressionInput ev}
    (hown : ∀ raw t, i ≠ .control (.frame raw t)) : (log.step site.rt ev i).2 = none := by
  cases i with
  | control i =>
    cases i with
    | frame raw t => exact absurd rfl (hown raw t)
    | connectFails now => rfl
    | connects => rfl
    | ends how now => rfl
    | engageSafeMode reason now => rfl
    | clearSafeMode => rfl
  | publish k now sent =>
    simp only [ImpressionLog.step]
    split <;> rfl
  | lose k => rfl
  | receive k id now query commits =>
    simp only [ImpressionLog.step]
    split <;> rfl
  | sample snapshot => rfl

theorem logStep_store (rt : Runtime τ) (ev : EventRuntime τ) (log : ImpressionLog τ)
    (i : ImpressionInput ev) :
    (log.step rt ev i).1.session.handler.store = log.session.handler.store := by
  cases i with
  | control i => exact (step_performs rt log.session i).1
  | publish k now sent =>
    simp only [ImpressionLog.step]
    split <;> rfl
  | lose k => rfl
  | receive k id now query commits =>
    simp only [ImpressionLog.step]
    split <;> rfl
  | sample snapshot => rfl

theorem frame_event (ev : EventRuntime τ) {log : ImpressionLog τ} {raw : τ} {t : FrameClock}
    {event : PlayEvent} {P : String → Prop} (hnames : Names site.rt P raw)
    (hevent : (log.step site.rt ev (.control (.frame raw t))).2 = some event) :
    P event.manifestId ∧
      Admissible site.rt log.session.handler.store event.manifestId t.utcNow := by
  simp only [ImpressionLog.step, ControlSession.published] at hevent
  split at hevent
  · have hperforms := (handleRaw_performs site.rt log.session.handler raw t).2
    exact ⟨hnames _ t event hevent, hperforms.admissible hevent⟩
  · cases hevent

theorem signageInv_record (h : SignageInv site store is s) {js : List (SignageInput κ ev)}
    (hjs : distributed js = distributed is) (i : ImpressionInput ev) :
    SignageInv site store js (s.record site i).1 := by
  refine ⟨?_, ?_, (logStep_store site.rt ev s.log i).trans h.store⟩
  · rw [hjs]
    exact h.distribution
  · rw [hjs]
    exact h.sent

theorem signageInv_distribute (h : SignageInv site store is s) (i : DistributionInput τ κ) :
    SignageInv site store (is ++ [.distribute i])
      ((signage site ev store).next s (.distribute i)) := by
  have hpre : distributed is <+: distributed (is ++ [(.distribute i : SignageInput κ ev)]) := by
    rw [distributed_snoc]
    exact List.prefix_append _ _
  refine ⟨?_, fun raw hraw => ?_, h.store⟩
  · rw [distributed_snoc, distributionOf, Option.toList_some, Machine.run_snoc, ← h.distribution]
    rfl
  · rcases List.mem_append.mp hraw with hold | hnew
    · exact (h.sent raw hold).mono fun m hm => hm.mono hpre
    · rw [h.distribution] at hnew
      exact (command_names (Option.mem_toList.mp hnew)).mono fun m hm => hm.mono hpre

theorem signageInv_step (h : SignageInv site store is s) (i : SignageInput κ ev) :
    SignageInv site store (is ++ [i]) ((signage site ev store).next s i) := by
  cases i with
  | distribute i => exact signageInv_distribute h i
  | deliver k t =>
    have hjs : distributed (is ++ [(.deliver k t : SignageInput κ ev)]) = distributed is := by
      rw [distributed_snoc]
      exact List.append_nil _
    simp only [Machine.next, signage, Signage.step]
    cases s.sent[k]? with
    | none =>
      refine ⟨?_, ?_, h.store⟩
      · rw [hjs]
        exact h.distribution
      · rw [hjs]
        exact h.sent
    | some raw => exact signageInv_record h hjs _
  | record i own =>
    have hjs : distributed (is ++ [(.record i own : SignageInput κ ev)]) = distributed is := by
      rw [distributed_snoc]
      exact List.append_nil _
    exact signageInv_record h hjs i

theorem signageInv_run (site : Site τ) (ev : EventRuntime τ) (store : ManifestStore)
    (is : List (SignageInput κ ev)) :
    SignageInv site store is ((signage site ev store).run (signage site ev store).init is) := by
  induction is using List.reverseRecOn with
  | nil => exact ⟨rfl, fun raw h => absurd h List.not_mem_nil, rfl⟩
  | append_singleton is i ih =>
    rw [Machine.run_snoc]
    exact signageInv_step ih i

/-- The player has made the event of a command that the channel brought. By then the manifest was
sanctioned, and it passed the check on the clock of that frame. -/
def ShownOn (site : Site τ) (ev : EventRuntime τ) (store : ManifestStore)
    (is : List (SignageInput κ ev)) (event : PlayEvent) : Prop :=
  ∃ pre k t post, is = pre ++ .deliver k t :: post ∧
    (signage site ev store).out ((signage site ev store).run (signage site ev store).init pre)
      (.deliver k t) = some event ∧
    Sanctioned site.deployment (distributed pre) event.manifestId ∧
    Admissible site.rt store event.manifestId t.utcNow

/-- Only a command that the channel brings makes an event. -/
theorem shownOn_of_mem {event : PlayEvent}
    (hmem : event ∈ eventsOf ((signage site ev store).outputs (signage site ev store).init is)) :
    ShownOn site ev store is event := by
  obtain ⟨out, hout, hid⟩ := List.mem_filterMap.mp hmem
  obtain ⟨pre, i, post, hcut, rfl⟩ := (Machine.mem_outputs_iff _).mp hout
  have hinv := signageInv_run site ev store pre
  cases i with
  | distribute i => cases hid
  | record i own =>
    have hsilent : (signage site ev store).out ((signage site ev store).run
      (signage site ev store).init pre) (.record i own) = none := record_silent own
    rw [id, hsilent] at hid
    cases hid
  | deliver k t =>
    refine ⟨pre, k, t, post, hcut, hid, ?_⟩
    simp only [id, Machine.out, signage, Signage.step] at hid
    split at hid
    · next raw hraw =>
      have hevent := frame_event ev (hinv.sent raw (List.mem_of_getElem? hraw)) hid
      rw [← hinv.store]
      exact hevent
    · cases hid

theorem log_step (s : Signage τ κ) (log : ImpressionLog τ) (i : SignageInput κ ev)
    (hs : s.log = log) :
    ((signage site ev store).next s i).log =
        (impressions site.rt ev store).run log (s.logInput i).toList ∧
      ((signage site ev store).out s i).toList =
        ((impressions site.rt ev store).outputs log (s.logInput i).toList).filterMap id := by
  obtain rfl := hs
  have hrecord : ∀ i : ImpressionInput ev,
      (s.record site i).1.log = (impressions site.rt ev store).run s.log [i] ∧
        (s.record site i).2.toList =
          ((impressions site.rt ev store).outputs s.log [i]).filterMap id := by
    intro i
    refine ⟨rfl, ?_⟩
    have hout : (impressions site.rt ev store).outputs s.log [i] = [(s.record site i).2] := rfl
    rw [hout]
    cases (s.record site i).2 <;> rfl
  cases i with
  | distribute i => exact ⟨rfl, rfl⟩
  | deliver k t =>
    simp only [Machine.next, Machine.out, signage, Signage.step, Signage.logInput]
    cases s.sent[k]? with
    | none => exact ⟨rfl, rfl⟩
    | some raw => exact hrecord (.control (.frame raw t))
  | record i own => exact hrecord i

theorem signage_log (site : Site τ) (ev : EventRuntime τ) (store : ManifestStore)
    (is : List (SignageInput κ ev)) :
    ∃ js, ((signage site ev store).run (signage site ev store).init is).log =
        (impressions site.rt ev store).run (impressions site.rt ev store).init js ∧
      eventsOf ((signage site ev store).outputs (signage site ev store).init is) =
        eventsOf ((impressions site.rt ev store).outputs
          (impressions site.rt ev store).init js) := by
  obtain ⟨js, -, hrun, hevents⟩ := Machine.simulated_run (M := signage site ev store)
    (N := impressions site.rt ev store) (R := fun s log => s.log = log) (P := fun _ => True)
    (f := id) (g := id) (fun s log i hs => ⟨(s.logInput i).toList, fun _ _ => trivial,
      log_step s log i hs⟩) (s := (signage site ev store).init)
    (t := (impressions site.rt ev store).init) rfl is
  exact ⟨js, hrun, hevents⟩

/-- Whatever the dashboard, its syncs, the optimizer, the channel, the player and the broker do in
between: a row is the record of an event that the player made of a sanctioned manifest, when this
passed its check. -/
theorem impressions_sanctioned (site : Site τ) (ev : EventRuntime τ) (store : ManifestStore)
    (is : List (SignageInput κ ev)) :
    ∀ row ∈ ((signage site ev store).run (signage site ev store).init is).log.rows,
      ∃ event now, Records (event, (now : ClockText ev)) row ∧
        ShownOn site ev store is event := by
  obtain ⟨js, hlog, hevents⟩ := signage_log site ev store is
  obtain ⟨t, h⟩ := conveyed site.rt ev store js
  intro row hrow
  rw [hlog] at hrow
  obtain ⟨⟨event, now⟩, hm, hrecords⟩ := records_of_row h.kept hrow
  have hmem : event ∈ eventsOf ((impressions site.rt ev store).outputs
      (impressions site.rt ev store).init js) :=
    h.accounted.kept_events.subset (List.mem_map_of_mem hm)
  rw [← hevents] at hmem
  exact ⟨event, now, hrecords, shownOn_of_mem hmem⟩

end Law

/-! ### One advertisement -/

def lobbySite : Site Json :=
  ⟨jsonRuntime, defaultSetting.formatting, 5000, lobbyDeployment.texts, .osError⟩

def promoStore : ManifestStore := (ManifestStore.empty.put promoPoster).1

def lobbyTicks : List (DistributionInput Json Unit) :=
  lobbyRun ++ [.optimize (.connect ()) (by simp), .optimize (.tick lobbyTick) (by simp)]

def lobbyShown : List (SignageInput Unit lobbyEvents) :=
  lobbyTicks.map .distribute ++
    [.record (.control .connects) (by simp), .deliver 0 ⟨0, .at 0⟩,
      .record (.publish 0 ⟨1767225605, "2026-01-01T00:00:05.000Z", poster_time⟩ true) (by simp),
      .record (.receive 0 "row-1" 1767225606 argmaxQuery true) (by simp)]

theorem lobbyShown_rows : ((signage lobbySite lobbyEvents promoStore).run
    (signage lobbySite lobbyEvents promoStore).init lobbyShown).log.rows.map
      PlayEventOut.manifestId = ["promo-1"] := by
  decide +kernel

theorem lobbyShown_sanctioned : ∃ event, event.manifestId = "promo-1" ∧
    ShownOn lobbySite lobbyEvents promoStore lobbyShown event := by
  have hmem : "promo-1" ∈ ((signage lobbySite lobbyEvents promoStore).run
      (signage lobbySite lobbyEvents promoStore).init lobbyShown).log.rows.map
        PlayEventOut.manifestId := by
    rw [lobbyShown_rows]
    exact List.mem_singleton_self "promo-1"
  obtain ⟨row, hrow, hid⟩ := List.mem_map.mp hmem
  obtain ⟨event, now, hrecords, hshown⟩ :=
    impressions_sanctioned lobbySite lobbyEvents promoStore lobbyShown row hrow
  exact ⟨event, hrecords.manifestId.symm.trans hid, hshown⟩

end AdaptiveAdvertisement.System
