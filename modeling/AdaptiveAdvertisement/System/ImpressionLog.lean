import AdaptiveAdvertisement.Dashboard.PlayEventSink
import AdaptiveAdvertisement.Library.Transit
import AdaptiveAdvertisement.Player.PlayEventPublisher

/-!
# From an accepted activation to a row of impressions

The player schedules a task for each accepted activation; the task connects to the broker and
publishes (`player/play_event_publisher.py:40-70`). The sink of the dashboard reads what the broker
delivers and commits a row (`dashboard_api/play_event_sink.py:98-141`). Tasks overtake one another,
messages are lost, and a commit may fail.
-/

namespace AdaptiveAdvertisement.System
open Library Player Dashboard
open DecisionOptimizer (memberOr)

variable {τ : Type}

/-- A reading of the clock, and what `isoformat` makes of it. -/
structure ClockText (ev : EventRuntime τ) where
  instant : ℚ
  text : String
  reads : ev.fromisoformat (withUtcOffset text) = some instant

structure ImpressionLog (τ : Type) where
  session : ControlSession
  scheduled : List PlayEvent := []
  underway : List τ := []
  snapshots : List AudienceSnapshot := []
  rows : List PlayEventOut := []

inductive ImpressionInput (ev : EventRuntime τ) where
  | control (i : SessionStep τ)
  | publish (k : ℕ) (now : ClockText ev) (sent : Bool)
  | lose (k : ℕ)
  | receive (k : ℕ) (id : String) (now : ℚ) (query : LatestQuery) (commits : Bool)
  | sample (snapshot : AudienceSnapshot)

def ImpressionLog.step (rt : Runtime τ) (ev : EventRuntime τ) (s : ImpressionLog τ) :
    ImpressionInput ev → ImpressionLog τ × Option PlayEvent
  | .control i =>
    ({ s with
      session := s.session.step rt i
      scheduled := s.scheduled ++ (s.session.published rt i).toList }, s.session.published rt i)
  | .publish k now sent =>
    match s.scheduled[k]? with
    | some e =>
      ({ s with
        scheduled := s.scheduled.eraseIdx k
        underway :=
          if sent then s.underway ++ [ev.dumps (e.payload now.text)] else s.underway }, none)
    | none => (s, none)
  | .lose k => ({ s with underway := s.underway.eraseIdx k }, none)
  | .receive k id now query commits =>
    match s.underway[k]? with
    | some raw =>
      ({ s with
        underway := s.underway.eraseIdx k
        rows := s.rows ++ (receivePlayEvent ev query s.snapshots raw id now commits).toList },
        none)
    | none => (s, none)
  | .sample snapshot => ({ s with snapshots := s.snapshots ++ [snapshot] }, none)

/-- The output of a step is the event that it schedules. -/
def impressions (rt : Runtime τ) (ev : EventRuntime τ) (store : ManifestStore) :
    Machine (ImpressionLog τ) (ImpressionInput ev) (Option PlayEvent) where
  init := { session := (controlLoop rt store).init }
  step := fun s i => s.step rt ev i

/-- The event whose task starts, with the time that the task reads. -/
def ImpressionLog.starts {ev : EventRuntime τ} (s : ImpressionLog τ) :
    ImpressionInput ev → Option (PlayEvent × ClockText ev)
  | .publish k now _ => (s.scheduled[k]?).map fun e => (e, now)
  | _ => none

/-- The tasks that start in a run. -/
def started (rt : Runtime τ) (ev : EventRuntime τ) (store : ManifestStore)
    (is : List (ImpressionInput ev)) : List (PlayEvent × ClockText ev) :=
  (impressions rt ev store).collect ImpressionLog.starts (impressions rt ev store).init is

/-! ### One message there and back -/

section Message

variable {ev : EventRuntime τ}

/-- What the row tells of an activation at an instant. -/
structure Records (m : PlayEvent × ClockText ev) (row : PlayEventOut) : Prop where
  manifestId : row.manifestId = m.1.manifestId
  activatedAt : row.activatedAt = m.2.instant
  reason : row.reason = (m.1.reason.filter fun s => decide (s ≠ "")).map (firstChars 256)
  prevManifestId : row.prevManifestId = m.1.prevManifestId

/-- The attention of the row is that of a snapshot of the five seconds before. -/
def Attended (snapshots : List AudienceSnapshot) (row : PlayEventOut) : Prop :=
  ∀ engaged, row.attentionAtTrigger = some engaged →
    ∃ snapshot ∈ snapshots, snapshot.attentionEngaged = some engaged ∧
      row.activatedAt - 5 ≤ snapshot.sampledAt ∧ snapshot.sampledAt ≤ row.activatedAt

structure EventNamed (e : PlayEvent) : Prop where
  manifestId : Named e.manifestId
  prevManifestId : ∀ m, e.prevManifestId = some m → Named m

theorem shortText_ofOption (n : ℕ) (s : Option String) :
    ev.shortText n (Json.ofOption .str s) =
      (s.filter fun s => decide (s ≠ "")).map (firstChars n) := by
  cases s with
  | none => rfl
  | some s =>
    by_cases hs : s = ""
    · simp [EventRuntime.shortText, Json.ofOption, Json.truthy, hs]
    · simp [EventRuntime.shortText, Json.ofOption, Json.truthy, hs, ev.str_str]

theorem shortText_named {s : Option String} (h : ∀ m, s = some m → Named m) :
    ev.shortText 128 (Json.ofOption .str s) = s := by
  rw [shortText_ofOption]
  cases s with
  | none => rfl
  | some m =>
    obtain ⟨hpos, hle⟩ := h m rfl
    have hne : m ≠ "" := by
      rintro rfl
      simp at hpos
    simp [hne, firstChars_of_le hle]

def recordOf (e : PlayEvent) (now : ClockText ev) (id : String) (receivedAt : ℚ)
    (attention : Option Number) : PlayEventOut where
  id := id
  manifestId := e.manifestId
  activatedAt := now.instant
  reason := (e.reason.filter fun s => decide (s ≠ "")).map (firstChars 256)
  prevManifestId := e.prevManifestId
  attentionAtTrigger := attention
  receivedAt := receivedAt

/-- The sink reads of a payload what the publisher wrote into it. -/
theorem readPlayEvent_payload {e : PlayEvent} (h : EventNamed e) (now : ClockText ev) (id : String)
    (receivedAt : ℚ) : ev.readPlayEvent (e.payload now.text) id receivedAt =
      .ok (recordOf e now id receivedAt none) := by
  have htime : ev.readTime (.str now.text) = .ok now.instant := by
    simp only [SinkRuntime.readTime, now.reads, Option.elim_some]
  have hactivated : index (e.payload now.text) "activated_at" = .ok (.str now.text) := by
    simp [PlayEvent.payload, index, Dict.find]
  have hmanifest : index (e.payload now.text) "manifest_id" = .ok (.str e.manifestId) := by
    simp [PlayEvent.payload, index, Dict.find]
  have hreason : memberOr (e.payload now.text) "reason" .null =
      .ok (Json.ofOption .str e.reason) := by
    simp [PlayEvent.payload, memberOr, Dict.find]
  have hprev : memberOr (e.payload now.text) "prev_manifest_id" .null =
      .ok (Json.ofOption .str e.prevManifestId) := by
    simp [PlayEvent.payload, memberOr, Dict.find]
  unfold EventRuntime.readPlayEvent
  rw [hactivated, hmanifest, hreason, hprev]
  simp only [Except.bind, bind, htime, ev.str_str, shortText_named h.prevManifestId,
    shortText_ofOption, firstChars_of_le h.manifestId.2, pure, Except.pure, recordOf]

theorem receivePlayEvent_payload {e : PlayEvent} (h : EventNamed e) (now : ClockText ev)
    (query : LatestQuery) (snapshots : List AudienceSnapshot) (id : String) (receivedAt : ℚ)
    (commits : Bool) : ∃ row, Records (e, now) row ∧ Attended snapshots row ∧
      receivePlayEvent ev query snapshots (ev.dumps (e.payload now.text)) id receivedAt commits =
        if commits then some row else none := by
  refine ⟨recordOf e now id receivedAt (lookupAttentionAtTrigger query now.instant snapshots),
    ⟨rfl, rfl, rfl, rfl⟩, fun engaged hengaged => ?_, ?_⟩
  · obtain ⟨snapshot, hmem, hvalue, hearly, hlate, -⟩ := lookupAttention_latest hengaged
    exact ⟨snapshot, hmem, hvalue, hearly, hlate⟩
  · simp only [receivePlayEvent, EventRuntime.parsePlayEvent, ev.loads_dumps,
      readPlayEvent_payload h now]
    rfl

end Message

/-! ### The log as messages on their way -/

section Conveys

variable {rt : Runtime τ} {ev : EventRuntime τ} {s : ImpressionLog τ}
  {t : Transit PlayEvent (ClockText ev)} {launched : List (PlayEvent × ClockText ev)}
  {events : List PlayEvent}

/-- Where the messages of `t` are in the code's state. -/
structure Conveyance (s : ImpressionLog τ) (t : Transit PlayEvent (ClockText ev)) : Prop where
  scheduled : s.scheduled = t.scheduled
  underway : s.underway = t.underway.map fun m => ev.dumps (m.1.payload m.2.text)
  kept : List.Forall₂ Records t.kept s.rows
  attended : ∀ row ∈ s.rows, Attended s.snapshots row

/-- The messages are those of the events so far, launched as `launched` tells. -/
structure Conveys (s : ImpressionLog τ) (t : Transit PlayEvent (ClockText ev))
    (launched : List (PlayEvent × ClockText ev)) (events : List PlayEvent) : Prop
    extends Conveyance s t where
  accounted : t.Accounted launched events
  named : ∀ e ∈ events, EventNamed e
  active : ∀ m, s.session.handler.sm.activeManifestId = some m → Named m

/-- What a step of the log is for the messages. -/
def ImpressionLog.transitStep (rt : Runtime τ) (s : ImpressionLog τ) :
    ImpressionInput ev → Option (TransitStep PlayEvent (ClockText ev))
  | .control i => (s.session.published rt i).map .schedule
  | .publish k now sent => some (.launch k now sent)
  | .lose k => some (.land k false)
  | .receive k _ _ _ commits => some (.land k commits)
  | .sample _ => none

/-- The messages after a step. -/
def advance (t : Transit PlayEvent (ClockText ev)) :
    Option (TransitStep PlayEvent (ClockText ev)) → Transit PlayEvent (ClockText ev)
  | some i => (t.step i).1
  | none => t

theorem event_named {before after : Option String} {e : PlayEvent}
    (h : ToldBy before after (some e)) (hbefore : ∀ m, before = some m → Named m) :
    EventNamed e := by
  obtain ⟨-, hprev, hnamed⟩ := h.told e rfl
  exact ⟨hnamed, fun m hm => hbefore m (hprev ▸ hm)⟩

theorem active_named {before after : Option String} {event : Option PlayEvent}
    (h : ToldBy before after event) (hbefore : ∀ m, before = some m → Named m) :
    ∀ m, after = some m → Named m := by
  intro m hm
  cases event with
  | none =>
    rcases h.untold rfl with rfl | rfl
    · exact hbefore m hm
    · cases hm
  | some e =>
    obtain ⟨rfl, -, hnamed⟩ := h.told e rfl
    exact Option.some.inj hm ▸ hnamed

theorem Attended.snoc {snapshots : List AudienceSnapshot} {row : PlayEventOut}
    (h : Attended snapshots row) (snapshot : AudienceSnapshot) :
    Attended (snapshots ++ [snapshot]) row := by
  intro engaged hengaged
  obtain ⟨x, hx, hrest⟩ := h engaged hengaged
  exact ⟨x, List.mem_append_left _ hx, hrest⟩

/-- Only what the player does schedules an event. -/
theorem step_unscheduled {i : ImpressionInput ev} (hi : ∀ c, i ≠ .control c) :
    (s.step rt ev i).2 = none := by
  cases i with
  | control c => exact absurd rfl (hi c)
  | publish k now sent =>
    simp only [ImpressionLog.step]
    split <;> rfl
  | lose k => rfl
  | receive k id now query commits =>
    simp only [ImpressionLog.step]
    split <;> rfl
  | sample snapshot => rfl

/-- The log launches and schedules what the messages do. -/
theorem transitStep_matches (rt : Runtime τ) (hscheduled : s.scheduled = t.scheduled)
    (i : ImpressionInput ev) :
    s.starts i = (s.transitStep rt i).bind t.launches ∧
      (s.step rt ev i).2 = (s.transitStep rt i).bind fun j => (t.step j).2 := by
  cases i with
  | control c =>
    cases hpublished : s.session.published rt c with
    | none => exact ⟨by simp [ImpressionLog.starts, ImpressionLog.transitStep, hpublished], by
        simp [ImpressionLog.step, ImpressionLog.transitStep, hpublished]⟩
    | some e =>
      simp [ImpressionLog.starts, ImpressionLog.step, ImpressionLog.transitStep, hpublished,
        Transit.launches, Transit.step]
  | publish k now sent =>
    rw [step_unscheduled (by simp), ImpressionLog.transitStep, Option.bind_some, Option.bind_some,
      t.step_quiet (by simp)]
    exact ⟨by rw [ImpressionLog.starts, hscheduled]; rfl, rfl⟩
  | lose k =>
    rw [step_unscheduled (by simp), ImpressionLog.transitStep, Option.bind_some, Option.bind_some,
      t.step_quiet (by simp)]
    exact ⟨rfl, rfl⟩
  | receive k id now query commits =>
    rw [step_unscheduled (by simp), ImpressionLog.transitStep, Option.bind_some, Option.bind_some,
      t.step_quiet (by simp)]
    exact ⟨rfl, rfl⟩
  | sample snapshot => exact ⟨rfl, rfl⟩

theorem accounted_step (h : Conveys s t launched events) (i : ImpressionInput ev) :
    (advance t (s.transitStep rt i)).Accounted (launched ++ (s.starts i).toList)
      (events ++ (s.step rt ev i).2.toList) := by
  obtain ⟨hstarts, hevent⟩ := transitStep_matches rt h.scheduled i
  rw [hstarts, hevent]
  cases s.transitStep rt i with
  | none => simpa [advance] using h.accounted
  | some j => exact h.accounted.step j

theorem named_step (h : Conveys s t launched events) (i : ImpressionInput ev) :
    (∀ e ∈ events ++ (s.step rt ev i).2.toList, EventNamed e) ∧
      ∀ m, (s.step rt ev i).1.session.handler.sm.activeManifestId = some m → Named m := by
  cases i with
  | control c =>
    have hstep := published_toldBy rt s.session c
    refine ⟨fun e he => ?_, active_named hstep h.active⟩
    rcases List.mem_append.mp he with hold | hnew
    · exact h.named e hold
    · have hpublished : s.session.published rt c = some e := Option.mem_toList.mp hnew
      rw [hpublished] at hstep
      exact event_named hstep h.active
  | publish k now sent =>
    rw [step_unscheduled (by simp), Option.toList_none, List.append_nil]
    refine ⟨h.named, ?_⟩
    simp only [ImpressionLog.step]
    split <;> exact h.active
  | lose k =>
    rw [step_unscheduled (by simp), Option.toList_none, List.append_nil]
    exact ⟨h.named, h.active⟩
  | receive k id now query commits =>
    rw [step_unscheduled (by simp), Option.toList_none, List.append_nil]
    refine ⟨h.named, ?_⟩
    simp only [ImpressionLog.step]
    split <;> exact h.active
  | sample snapshot =>
    rw [step_unscheduled (by simp), Option.toList_none, List.append_nil]
    exact ⟨h.named, h.active⟩

theorem conveyance_control (h : Conveyance s t) (c : SessionStep τ) :
    Conveyance (s.step rt ev (.control c)).1 (advance t (s.transitStep rt (.control c))) := by
  simp only [ImpressionLog.transitStep, ImpressionLog.step]
  cases s.session.published rt c with
  | none => exact ⟨(List.append_nil _).trans h.scheduled, h.underway, h.kept, h.attended⟩
  | some e =>
    refine ⟨?_, h.underway, h.kept, h.attended⟩
    simp only [Option.map_some, advance, Transit.step, Option.toList_some, h.scheduled]

theorem conveyance_publish (h : Conveyance s t) (k : ℕ) (now : ClockText ev) (sent : Bool) :
    Conveyance (s.step rt ev (.publish k now sent)).1
      (advance t (s.transitStep rt (.publish k now sent))) := by
  simp only [ImpressionLog.transitStep, ImpressionLog.step, advance, h.scheduled]
  cases hk : t.scheduled[k]? with
  | none =>
    have hstep : t.step (.launch k now sent) = (t, none) := by simp [Transit.step, hk]
    rw [hstep]
    exact h
  | some e =>
    simp only [Transit.step, hk]
    refine ⟨rfl, ?_, h.kept, h.attended⟩
    cases sent with
    | false => exact h.underway
    | true => simp [h.underway]

theorem conveyance_land (h : Conveyance s t) (k : ℕ) (kept : Bool) {rows : List PlayEventOut}
    (hrows : List.Forall₂ Records (t.step (.land k kept)).1.kept rows)
    (hattended : ∀ row ∈ rows, Attended s.snapshots row) :
    Conveyance { s with underway := s.underway.eraseIdx k, rows := rows }
      (t.step (.land k kept)).1 := by
  cases hk : t.underway[k]? with
  | none =>
    have hlength : s.underway.length ≤ k := by
      rw [h.underway, List.length_map]
      exact List.getElem?_eq_none_iff.mp hk
    have hstep : t.step (.land k kept) = (t, none) := by simp [Transit.step, hk]
    rw [hstep] at hrows ⊢
    refine ⟨h.scheduled, ?_, hrows, hattended⟩
    rw [List.eraseIdx_of_length_le hlength]
    exact h.underway
  | some m =>
    refine ⟨?_, ?_, hrows, hattended⟩
    · simp only [Transit.step, hk]
      exact h.scheduled
    · simp only [Transit.step, hk]
      rw [h.underway, List.eraseIdx_map]

theorem conveyance_receive (h : Conveys s t launched events) (k : ℕ) (id : String) (now : ℚ)
    (query : LatestQuery) (commits : Bool) :
    Conveyance (s.step rt ev (.receive k id now query commits)).1
      (advance t (s.transitStep rt (.receive k id now query commits))) := by
  simp only [ImpressionLog.transitStep, ImpressionLog.step, advance]
  cases hk : t.underway[k]? with
  | none =>
    have hnone : s.underway[k]? = none := by rw [h.underway, List.getElem?_map, hk]; rfl
    have hstep : t.step (.land k commits) = (t, none) := by simp [Transit.step, hk]
    simp only [hnone, hstep]
    exact h.toConveyance
  | some m =>
    have hraw : s.underway[k]? = some (ev.dumps (m.1.payload m.2.text)) := by
      rw [h.underway, List.getElem?_map, hk]
      rfl
    have hevent : EventNamed m.1 := h.named _ (h.accounted.underway_mem (List.mem_of_getElem? hk))
    obtain ⟨row, hrecords, hattended, hreceive⟩ := receivePlayEvent_payload hevent m.2
      query s.snapshots id now commits
    simp only [hraw, hreceive]
    refine conveyance_land h.toConveyance k commits ?_ fun row' hrow' => ?_
    · cases commits with
      | false => simpa [Transit.step, hk] using h.kept
      | true =>
        simp only [Transit.step, hk, if_true]
        exact List.rel_append h.kept (List.Forall₂.cons hrecords List.Forall₂.nil)
    · rcases List.mem_append.mp hrow' with hold | hnew
      · exact h.attended row' hold
      · cases commits with
        | false => cases hnew
        | true => exact List.mem_singleton.mp hnew ▸ hattended

theorem conveyance_step (h : Conveys s t launched events) (i : ImpressionInput ev) :
    Conveyance (s.step rt ev i).1 (advance t (s.transitStep rt i)) := by
  cases i with
  | control c => exact conveyance_control h.toConveyance c
  | publish k now sent => exact conveyance_publish h.toConveyance k now sent
  | receive k id now query commits => exact conveyance_receive h k id now query commits
  | lose k =>
    have hkept : (t.step (.land k false)).1.kept = t.kept := by
      simp only [Transit.step]
      split <;> rfl
    exact conveyance_land h.toConveyance k false (hkept ▸ h.kept) h.attended
  | sample snapshot =>
    exact ⟨h.scheduled, h.underway, h.kept, fun row hrow => (h.attended row hrow).snoc snapshot⟩

theorem conveys_step (rt : Runtime τ) (h : Conveys s t launched events) (i : ImpressionInput ev) :
    Conveys (s.step rt ev i).1 (advance t (s.transitStep rt i))
      (launched ++ (s.starts i).toList) (events ++ (s.step rt ev i).2.toList) where
  toConveyance := conveyance_step h i
  accounted := accounted_step h i
  named := (named_step h i).1
  active := (named_step h i).2

end Conveys

/-! ### The player in the log -/

section Player

variable {ev : EventRuntime τ}

def controlOf : ImpressionInput ev → Option (SessionStep τ)
  | .control i => some i
  | _ => none

theorem session_step (rt : Runtime τ) (store : ManifestStore) (s : ImpressionLog τ)
    (session : ControlSession) (i : ImpressionInput ev) (hs : s.session = session) :
    ((impressions rt ev store).next s i).session =
        (publishing rt store).run session (controlOf i).toList ∧
      ((impressions rt ev store).out s i).toList =
        ((publishing rt store).outputs session (controlOf i).toList).filterMap id := by
  obtain rfl := hs
  cases i with
  | control i =>
    refine ⟨rfl, ?_⟩
    have hout : (impressions rt ev store).out s (.control i) = s.session.published rt i := rfl
    have houts : (publishing rt store).outputs s.session
        (controlOf (.control i : ImpressionInput ev)).toList = [s.session.published rt i] := rfl
    rw [hout, houts]
    cases s.session.published rt i <;> rfl
  | publish k now sent =>
    simp only [Machine.next, Machine.out, impressions, ImpressionLog.step]
    split <;> exact ⟨rfl, rfl⟩
  | lose k => exact ⟨rfl, rfl⟩
  | receive k id now query commits =>
    simp only [Machine.next, Machine.out, impressions, ImpressionLog.step]
    split <;> exact ⟨rfl, rfl⟩
  | sample snapshot => exact ⟨rfl, rfl⟩

/-- The player in the log is a player by itself. -/
theorem log_session (rt : Runtime τ) (store : ManifestStore) (is : List (ImpressionInput ev)) :
    ∃ js, ((impressions rt ev store).run (impressions rt ev store).init is).session =
        (publishing rt store).run (publishing rt store).init js ∧
      eventsOf ((impressions rt ev store).outputs (impressions rt ev store).init is) =
        eventsOf ((publishing rt store).outputs (publishing rt store).init js) := by
  obtain ⟨js, -, hrun, hevents⟩ := Machine.simulated_run (M := impressions rt ev store)
    (N := publishing rt store) (R := fun s session => s.session = session) (P := fun _ => True)
    (f := id) (g := id) (fun s session i hs => ⟨(controlOf i).toList, fun _ _ => trivial,
      session_step rt store s session i hs⟩) (s := (impressions rt ev store).init)
    (t := (publishing rt store).init) rfl is
  exact ⟨js, hrun, hevents⟩

end Player

/-! ### The law -/

theorem conveys_init (rt : Runtime τ) (ev : EventRuntime τ) (store : ManifestStore) :
    Conveys (impressions rt ev store).init ({} : Transit PlayEvent (ClockText ev)) [] [] where
  scheduled := rfl
  underway := rfl
  kept := List.Forall₂.nil
  attended := by simp [impressions]
  accounted := Transit.accounted_init
  named := by simp
  active := fun m hm => by simp [impressions, controlLoop, StateMachine.init] at hm

/-- The messages of a run are of its accepted activations, launched as its tasks start. -/
theorem conveyed (rt : Runtime τ) (ev : EventRuntime τ) (store : ManifestStore)
    (is : List (ImpressionInput ev)) : ∃ t : Transit PlayEvent (ClockText ev),
      Conveys ((impressions rt ev store).run (impressions rt ev store).init is) t
        (started rt ev store is)
        (eventsOf ((impressions rt ev store).outputs (impressions rt ev store).init is)) := by
  induction is using List.reverseRecOn with
  | nil => exact ⟨{}, conveys_init rt ev store⟩
  | append_singleton is i ih =>
    obtain ⟨t, h⟩ := ih
    have hnext := conveys_step rt h i
    rw [started, Machine.collect_snoc, Machine.run_snoc, Machine.outputs_append,
      Machine.outputs_cons, Machine.outputs_nil, eventsOf_snoc]
    exact ⟨_, hnext⟩

theorem records_of_row {ev : EventRuntime τ} {origins : List (PlayEvent × ClockText ev)}
    {rows : List PlayEventOut} (h : List.Forall₂ Records origins rows) {row : PlayEventOut}
    (hrow : row ∈ rows) : ∃ m ∈ origins, Records m row := by
  obtain ⟨k, hk, rfl⟩ := List.mem_iff_getElem.mp hrow
  exact ⟨_, List.getElem_mem (h.length_eq ▸ hk), h.get (h.length_eq ▸ hk) hk⟩

/-- The rows are of events whose tasks have started, each of its own one and with the time that this
has read. -/
structure TaskRecords (events : List PlayEvent) {ev : EventRuntime τ}
    (launched : List (PlayEvent × ClockText ev)) (s : ImpressionLog τ)
    (origins : List (PlayEvent × ClockText ev)) : Prop where
  activations : List.Subperm (launched.map Prod.fst) events
  tasks : List.Subperm origins launched
  rows : List.Forall₂ Records origins s.rows
  attended : ∀ row ∈ s.rows, Attended s.snapshots row

/-- Over every run each row is the record of an accepted activation at the start of its task, and no
activation has two: nothing is invented, doubled or taken for another. -/
theorem impressions_recorded (rt : Runtime τ) (ev : EventRuntime τ) (store : ManifestStore)
    (is : List (ImpressionInput ev)) : ∃ origins, TaskRecords
      (eventsOf ((impressions rt ev store).outputs (impressions rt ev store).init is))
      (started rt ev store is)
      ((impressions rt ev store).run (impressions rt ev store).init is) origins := by
  obtain ⟨t, h⟩ := conveyed rt ev store is
  exact ⟨t.kept, h.accounted.launched_subperm, h.accounted.kept_subperm, h.kept, h.attended⟩

end AdaptiveAdvertisement.System
