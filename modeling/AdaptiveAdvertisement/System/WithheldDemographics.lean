import AdaptiveAdvertisement.AudienceState.WithheldSignal
import AdaptiveAdvertisement.Dashboard.SnapshotParser
import AdaptiveAdvertisement.System.LiveView
import AdaptiveAdvertisement.System.PolicyDistribution

/-!
# Withheld demographics, from the camera to the screen and the dashboard

The observations of the cameras go through the window and the publisher of the audience state to
two readers, the decision optimizer and the audience sink of the dashboard. The broker may hand a
signal to each of them at any time, again and again, or never.
-/

namespace AdaptiveAdvertisement.System
open Library Contracts AudienceState Dashboard DecisionOptimizer

/-- What stays fixed in a run. -/
structure AudienceSetting (τ : Type) where
  sink : SinkRuntime τ
  ids : SourceIds
  formatting : Formatting
  staleSignalThresholdMs : ℤ

def AudienceSetting.optimizer {τ : Type} (st : AudienceSetting τ) : Setting τ :=
  ⟨st.sink.toCodec, st.formatting, st.staleSignalThresholdMs⟩

structure AudiencePath (κ : Type) where
  consumer : ObservationConsumer
  publisher : SignalPublisher := {}
  sent : List Json := []
  optimizer : Optimizer κ Draw
  sink : SinkSession := {}

inductive AudienceInput (τ κ : Type) where
  | observe (raw : τ) (t : AddClock)
  | publish (t : SignalClock) (stamp : SignalStamp) (succeeds : Bool)
  | deliver (k : ℕ) (now : ℚ)
  | store (k : ℕ) (commits : Bool)
  | tick (t : TickInput κ Draw)
  | connect (ws : κ)
  | close (ws : κ)
  | reloadPolicy (c : PolicyConfig)

namespace AudiencePath

variable {τ κ : Type} [DecidableEq κ] (st : AudienceSetting τ)

def built (s : AudiencePath κ) (t : SignalClock) (stamp : SignalStamp) :
    SignalPublisher × ObservationWindow × Option Json :=
  s.publisher.buildSignal st.ids s.consumer.window t stamp

/-- A signal whose publication fails is gone. -/
def publish (s : AudiencePath κ) (t : SignalClock) (stamp : SignalStamp) (succeeds : Bool) :
    AudiencePath κ :=
  let r := s.built st t stamp
  let s := { s with publisher := r.1, consumer := { s.consumer with window := r.2.1 } }
  match r.2.2 with
  | some msg =>
    if succeeds then
      { s with
        publisher := { s.publisher with published := s.publisher.published + 1 }
        sent := s.sent ++ [msg] }
    else s
  | none => s

def step (s : AudiencePath κ) : AudienceInput τ κ → AudiencePath κ × Option (Broadcast κ τ)
  | .observe raw t => ({ s with consumer := (s.consumer.process st.sink.toCodec raw t).1 }, none)
  | .publish t stamp succeeds => (s.publish st t stamp succeeds, none)
  | .deliver k now =>
    match s.sent[k]? with
    | some msg =>
      let r := s.optimizer.step st.optimizer (.signal (st.sink.dumps msg) now)
      ({ s with optimizer := r.1 }, r.2)
    | none => (s, none)
  | .store k commits =>
    match s.sent[k]? with
    | some msg => ({ s with sink := s.sink.receive st.sink ⟨st.sink.dumps msg, commits⟩ }, none)
    | none => (s, none)
  | .tick t =>
    let r := s.optimizer.step st.optimizer (.tick t)
    ({ s with optimizer := r.1 }, r.2)
  | .connect ws =>
    let r := s.optimizer.step st.optimizer (.connect ws)
    ({ s with optimizer := r.1 }, r.2)
  | .close ws =>
    let r := s.optimizer.step st.optimizer (.close ws)
    ({ s with optimizer := r.1 }, r.2)
  | .reloadPolicy c =>
    let r := s.optimizer.step st.optimizer (.reloadPolicy (engineOf c))
    ({ s with optimizer := r.1 }, r.2)

end AudiencePath

section Machine

variable {τ κ : Type} [DecidableEq κ]

/-- The output of a step is what the optimizer sends to its players. -/
def audiencePath (st : AudienceSetting τ) (config : WindowConfig) (c : PolicyConfig) :
    Machine (AudiencePath κ) (AudienceInput τ κ) (Option (Broadcast κ τ)) where
  init := { consumer := { window := { config := config } }, optimizer := { policy := engineOf c } }
  step := fun s i => s.step st i

/-- Nothing that is published releases demographics; a signal whose publication fails may. -/
def Withholds (st : AudienceSetting τ) (s : AudiencePath κ) : AudienceInput τ κ → Prop
  | .publish t stamp succeeds => succeeds = true → ReleasesNone (s.built st t stamp).2.2
  | _ => True

instance (st : AudienceSetting τ) (s : AudiencePath κ) :
    (i : AudienceInput τ κ) → Decidable (Withholds st s i)
  | .observe _ _ => isTrue trivial
  | .publish t stamp succeeds =>
    inferInstanceAs (Decidable (succeeds = true → ReleasesNone (s.built st t stamp).2.2))
  | .deliver _ _ => isTrue trivial
  | .store _ _ => isTrue trivial
  | .tick _ => isTrue trivial
  | .connect _ => isTrue trivial
  | .close _ => isTrue trivial
  | .reloadPolicy _ => isTrue trivial

/-- The same step, but for the demographics of an observation. -/
inductive AlikeInputs (cd : Codec τ) : AudienceInput τ κ → AudienceInput τ κ → Prop
  | same (i : AudienceInput τ κ) : AlikeInputs cd i i
  | observed {raw raw' : τ} (t : AddClock) (h : AlikeTexts cd raw raw') :
      AlikeInputs cd (.observe raw t) (.observe raw' t)

end Machine

/-! ### What the readers find in a signal -/

section Read

variable {ids : SourceIds} {stamp : SignalStamp} {p s : Json} {ageMs : ℤ} {degraded : Bool}
  {demog attn : Option Json}

theorem readSnapshot_withheld {τ : Type} (rt : SinkRuntime τ) (h : WithheldBlock demog) :
    rt.readSnapshot (signal ids stamp [("presence", p), ("stability", s)] ageMs degraded demog
      attn) = rt.readSnapshot (signal ids stamp [("presence", p), ("stability", s)] ageMs degraded
        none attn) := by
  rcases h with rfl | rfl
  · rfl
  · cases attn <;> rfl

theorem privacyViolated_withheld (h : WithheldBlock demog) :
    privacyViolated (signal ids stamp [("presence", p), ("stability", s)] ageMs degraded demog
      attn) = privacyViolated (signal ids stamp [("presence", p), ("stability", s)] ageMs degraded
        none attn) := by
  rcases h with rfl | rfl
  · rfl
  · cases attn <;> rfl

/-- The state block of a signal, as far as the rules read it. -/
theorem get?_state (msg : Signal)
    (h : msg.1 = signal ids stamp [("presence", p), ("stability", s)] ageMs degraded demog attn) :
    msg.state.1.get? "presence" = some p ∧ msg.state.1.get? "attention" = attn := by
  have hstate : msg.1.get? "state" = some msg.state.1 := Valid.get?_get msg _ _
  have hread : msg.1.get? "state" = some (.obj ([("presence", p), ("stability", s)] ++
      entry "demographics" demog ++ entry "attention" attn)) := by
    rw [h]
    simp [signal, Dict.find]
  rw [← Option.some.inj (hread.symm.trans hstate)]
  refine ⟨rfl, ?_⟩
  cases demog <;> cases attn <;> simp [entry, Dict.find]

theorem suppressed_withheld (msg : Signal)
    (h : msg.1 = signal ids stamp [("presence", p), ("stability", s)] ageMs degraded demog attn)
    (hwithheld : WithheldBlock demog) : msg.suppressed = true := by
  rw [← Bool.not_eq_false, Signal.suppressed_false_iff, BlockReleases, h, at?_demographics]
  rcases hwithheld with rfl | rfl
  · simp
  · simp [suppressedBlock, Json.at?, Dict.find]

end Read

section Readers

variable {τ : Type} {msg msg' : Json}

/-- The sink makes the same row of both. -/
theorem parseSnapshot_alike (rt : SinkRuntime τ) (h : AlikeSignals msg msg') :
    rt.parseSnapshot (rt.dumps msg) = rt.parseSnapshot (rt.dumps msg') := by
  obtain ⟨ids, stamp, p, s, ageMs, degraded, demog, demog', attn, rfl, rfl, hd, hd'⟩ :=
    h.written
  simp only [SinkRuntime.parseSnapshot, rt.loads_dumps, privacyViolated_withheld hd,
    privacyViolated_withheld hd', readSnapshot_withheld rt hd, readSnapshot_withheld rt hd']

/-- A rule reads of a signal that is suppressed no more than its presence and its attention. -/
theorem matchesSignal_alike {v v' : Signal} (hpresence : v.presence = v'.presence)
    (hattention : v.attention = v'.attention) (hs : v.suppressed = true)
    (hs' : v'.suppressed = true) (r : Rule) (hour : ℕ) :
    r.matchesSignal v hour = r.matchesSignal v' hour := by
  have hcount : v.count = v'.count := by rw [Signal.count, Signal.count, hpresence]
  have hconfidence : v.confidence = v'.confidence := by
    rw [Signal.confidence, Signal.confidence, hpresence]
  simp only [Rule.matchesSignal, Rule.presenceChecks, Rule.attentionCheck, Rule.suppressedCheck,
    Rule.demographicChecks, hcount, hconfidence, hattention, hs, hs', if_true]

theorem evaluate_alike (h : AlikeSignals msg msg') (c : PolicyConfig) (d : Draw) :
    (engineOf c).evaluate msg d = (engineOf c).evaluate msg' d := by
  obtain ⟨ids, stamp, p, s, ageMs, degraded, demog, demog', attn, hmsg, hmsg', hd, hd'⟩ :=
    h.written
  let v : Signal := ⟨msg, h.valid⟩
  let v' : Signal := ⟨msg', h.valid'⟩
  obtain ⟨hpresence, hattention⟩ := get?_state v hmsg
  obtain ⟨hpresence', hattention'⟩ := get?_state v' hmsg'
  have hsame : v.presence = v'.presence := get_congr _ _ (hpresence.trans hpresence'.symm)
  have hsame' : v.attention = v'.attention := get?_congr _ (hattention.trans hattention'.symm)
  have hmatching : ∀ rules, matchingRules v d.hour rules = matchingRules v' d.hour rules := by
    intro rules
    induction rules with
    | nil => rfl
    | cons r rules ih =>
      rw [matchingRules, matchingRules, ih, matchesSignal_alike hsame hsame'
        (suppressed_withheld v hmsg hd) (suppressed_withheld v' hmsg' hd')]
  have heval := engineOf_evaluate c v d
  have heval' := engineOf_evaluate c v' d
  rw [PolicyConfig.evaluate, PolicyConfig.evaluateWith, hmatching] at heval
  exact heval.trans heval'.symm

/-- The gates of the loop and its rationale read what both signals have. -/
theorem at?_alike (h : AlikeSignals msg msg') :
    (∀ keys, msg.at? ("source_quality" :: keys) = msg'.at? ("source_quality" :: keys)) ∧
    (∀ keys,
      msg.at? ("state" :: "presence" :: keys) = msg'.at? ("state" :: "presence" :: keys)) ∧
    (∀ keys, msg.at? ("state" :: "stability" :: keys) =
      msg'.at? ("state" :: "stability" :: keys)) ∧
    msg.get? "message_id" = msg'.get? "message_id" := by
  obtain ⟨ids, stamp, p, s, ageMs, degraded, demog, demog', attn, rfl, rfl, hd, hd'⟩ :=
    h.written
  refine ⟨fun keys => ?_, fun keys => ?_, fun keys => ?_, ?_⟩ <;>
    simp [signal, Json.at?, Dict.find]

end Readers

/-! ### The optimizer -/

structure AlikeReceivers (c c' : SignalConsumer) : Prop where
  inbox : c.inbox = c'.inbox
  latest : Option.Rel (fun v v' : Signal => AlikeSignals v.1 v'.1) c.latest c'.latest
  latestReceivedAt : c.latestReceivedAt = c'.latestReceivedAt

section Optimizer

variable {τ κ : Type} [DecidableEq κ] {c c' : SignalConsumer} {msg msg' : Json}

theorem deliver_alike (cd : Codec τ) (h : AlikeReceivers c c') (hmsg : AlikeSignals msg msg')
    (now : ℚ) : AlikeReceivers (c.process cd (cd.dumps msg) now).1
      (c'.process cd (cd.dumps msg') now).1 := by
  obtain ⟨id, hid⟩ : ∃ id, msg.get? "message_id" = some (.str id) := by
    obtain ⟨ids, stamp, p, s, ageMs, degraded, demog, demog', attn, rfl, -⟩ := hmsg.written
    exact ⟨stamp.messageId, signal_messageId ..⟩
  have hid' : msg'.get? "message_id" = some (.str id) := (at?_alike hmsg).2.2.2.symm.trans hid
  cases hseen : c.inbox.seenIds.contains id with
  | false =>
    have hseen' : c'.inbox.seenIds.contains id = false := h.inbox ▸ hseen
    simp only [SignalConsumer.process, cd.loads_dumps, Inbox.receive_fresh hmsg.valid hid hseen,
      Inbox.receive_fresh hmsg.valid' hid' hseen']
    exact ⟨congrArg (fun b => b.accept DecisionOptimizer.maxSeenIds id) h.inbox,
      Option.Rel.some hmsg, rfl⟩
  | true =>
    have hseen' : c'.inbox.seenIds.contains id = true := h.inbox ▸ hseen
    have hkept : (c.process cd (cd.dumps msg) now).1 = c := by
      simp [SignalConsumer.process, cd.loads_dumps, Inbox.receive, hmsg.valid,
        strMember_of_get? hid, hseen]
    have hkept' : (c'.process cd (cd.dumps msg') now).1 = c' := by
      simp [SignalConsumer.process, cd.loads_dumps, Inbox.receive, hmsg.valid',
        strMember_of_get? hid', hseen']
    rw [hkept, hkept']
    exact h

theorem freezeReason_alike (h : AlikeSignals msg msg') (staleMs : ℤ) (ageMs : Option ℤ) :
    freezeReason staleMs (some msg) ageMs = freezeReason staleMs (some msg') ageMs := by
  obtain ⟨hquality, -, hstability, -⟩ := at?_alike h
  rw [freezeReason, freezeReason, flag, flag, flag, flag, hquality, hstability]

theorem rationale_alike (h : AlikeSignals msg msg') (f : Formatting) (wasFrozen : Bool) :
    rationale f msg wasFrozen = rationale f msg' wasFrozen := by
  obtain ⟨-, hpresence, -⟩ := at?_alike h
  simp only [rationale, hpresence]

/-- The loop decides the same. -/
theorem decide_alike (h : AlikeReceivers c c') (cfg : LoopConfig Draw) {policy : PolicyConfig}
    (hpolicy : cfg.policy = engineOf policy) (loop : DecisionLoop) (now : ℚ) (d : Draw) :
    loop.decide cfg c now d = loop.decide cfg c' now d := by
  have hage : c.signalAgeMs now = c'.signalAgeMs now := by
    rw [SignalConsumer.signalAgeMs, SignalConsumer.signalAgeMs, h.latestReceivedAt]
  have hlatest := h.latest
  unfold DecisionLoop.decide
  rw [hage]
  generalize c.latest = latest at hlatest ⊢
  generalize c'.latest = latest' at hlatest ⊢
  cases hlatest with
  | none => rfl
  | @some v v' hmsg =>
    have heval := evaluate_alike hmsg policy d
    rw [← hpolicy] at heval
    have hreason : freezeReason cfg.staleSignalThresholdMs ((some v).map Subtype.val)
        (c'.signalAgeMs now) = freezeReason cfg.staleSignalThresholdMs ((some v').map Subtype.val)
          (c'.signalAgeMs now) := freezeReason_alike hmsg _ _
    simp only [hreason, heval, rationale_alike hmsg]

end Optimizer

/-! ### The law -/

structure AlikePaths {κ : Type} (s s' : AudiencePath κ) : Prop where
  consumer : AlikeConsumers s.consumer s'.consumer
  publisher : s.publisher = s'.publisher
  sent : List.Forall₂ AlikeSignals s.sent s'.sent
  policy : ∃ c, s.optimizer.policy = engineOf c ∧ s'.optimizer.policy = engineOf c
  receiver : AlikeReceivers s.optimizer.consumer s'.optimizer.consumer
  loop : s.optimizer.loop = s'.optimizer.loop
  gateway : s.optimizer.gateway = s'.optimizer.gateway
  sink : s.sink = s'.sink

theorem getElem?_alike {sent sent' : List Json} (h : List.Forall₂ AlikeSignals sent sent')
    (k : ℕ) : Option.Rel AlikeSignals sent[k]? sent'[k]? := by
  induction h generalizing k with
  | nil => exact Option.Rel.none
  | cons hmsg _ ih =>
    cases k with
    | zero => exact Option.Rel.some hmsg
    | succ k => simpa using ih k

section Law

variable {τ κ : Type} [DecidableEq κ] {st : AudienceSetting τ} {s s' : AudiencePath κ}

omit [DecidableEq κ] in
theorem publish_alike (h : AlikePaths s s') (t : SignalClock) (stamp : SignalStamp)
    (succeeds : Bool) (hw : Withholds st s (.publish t stamp succeeds : AudienceInput τ κ))
    (hw' : Withholds st s' (.publish t stamp succeeds : AudienceInput τ κ)) :
    AlikePaths (s.publish st t stamp succeeds) (s'.publish st t stamp succeeds) := by
  have hbuilt := buildSignal_alike h.consumer.window s.publisher st.ids t stamp
  have hleft : s.publisher.buildSignal st.ids s.consumer.window t stamp = s.built st t stamp := rfl
  have hright : s.publisher.buildSignal st.ids s'.consumer.window t stamp = s'.built st t stamp :=
    h.publisher ▸ rfl
  rw [hleft, hright] at hbuilt
  rw [Withholds] at hw hw'
  unfold AudiencePath.publish
  generalize s.built st t stamp = r at hbuilt hw ⊢
  generalize s'.built st t stamp = r' at hbuilt hw' ⊢
  obtain ⟨p, w, msg⟩ := r
  obtain ⟨p', w', msg'⟩ := r'
  obtain ⟨hpublisher, hwindow, hsignals⟩ := hbuilt
  obtain rfl : p = p' := hpublisher
  have hconsumer : AlikeConsumers { s.consumer with window := w }
      { s'.consumer with window := w' } := ⟨hwindow, h.consumer.inbox⟩
  cases succeeds with
  | false =>
    have hgone : AlikePaths
        { s with publisher := p, consumer := { s.consumer with window := w } }
        { s' with publisher := p, consumer := { s'.consumer with window := w' } } :=
      ⟨hconsumer, rfl, h.sent, h.policy, h.receiver, h.loop, h.gateway, h.sink⟩
    cases msg <;> cases msg' <;> exact hgone
  | true =>
    cases hsignals (hw rfl) (hw' rfl) with
    | none => exact ⟨hconsumer, rfl, h.sent, h.policy, h.receiver, h.loop, h.gateway, h.sink⟩
    | some hmsg =>
      exact ⟨hconsumer, rfl, List.rel_append h.sent (List.Forall₂.cons hmsg List.Forall₂.nil),
        h.policy, h.receiver, h.loop, h.gateway, h.sink⟩

theorem tick_alike (h : AlikePaths s s') (t : TickInput κ Draw) :
    AlikePaths (s.step st (.tick t)).1 (s'.step st (.tick t)).1 ∧
      (s.step st (.tick t)).2 = (s'.step st (.tick t)).2 := by
  obtain ⟨c, hpolicy, hpolicy'⟩ := h.policy
  have hcfg : s.optimizer.cfg st.optimizer = s'.optimizer.cfg st.optimizer := by
    rw [Optimizer.cfg, Optimizer.cfg, hpolicy, hpolicy']
  have hdecide := decide_alike h.receiver (s'.optimizer.cfg st.optimizer) hpolicy'
    s'.optimizer.loop t.now t.draw
  have htick : s.optimizer.tick st.optimizer t = s'.optimizer.tick st.optimizer t := by
    simp only [Optimizer.tick, DecisionLoop.tick, hcfg, h.loop, h.gateway, hdecide]
  refine ⟨⟨h.consumer, h.publisher, h.sent, ⟨c, hpolicy, hpolicy'⟩, h.receiver, ?_, ?_,
    h.sink⟩, ?_⟩
  · exact congrArg Prod.fst htick
  · exact congrArg (fun r => r.2.1) htick
  · exact congrArg (fun r => r.2.2) htick

theorem deliverSent_alike (h : AlikePaths s s') (k : ℕ) (now : ℚ) :
    AlikePaths (s.step st (.deliver k now : AudienceInput τ κ)).1
        (s'.step st (.deliver k now : AudienceInput τ κ)).1 ∧
      (s.step st (.deliver k now : AudienceInput τ κ)).2 =
        (s'.step st (.deliver k now : AudienceInput τ κ)).2 := by
  have hsent := getElem?_alike h.sent k
  simp only [AudiencePath.step]
  generalize s.sent[k]? = msg at hsent ⊢
  generalize s'.sent[k]? = msg' at hsent ⊢
  cases hsent with
  | none => exact ⟨h, rfl⟩
  | some hmsg =>
    exact ⟨⟨h.consumer, h.publisher, h.sent, h.policy,
      deliver_alike st.sink.toCodec h.receiver hmsg now, h.loop, h.gateway, h.sink⟩, rfl⟩

theorem store_alike (h : AlikePaths s s') (k : ℕ) (commits : Bool) :
    AlikePaths (s.step st (.store k commits : AudienceInput τ κ)).1
        (s'.step st (.store k commits : AudienceInput τ κ)).1 ∧
      (s.step st (.store k commits : AudienceInput τ κ)).2 =
        (s'.step st (.store k commits : AudienceInput τ κ)).2 := by
  have hsent := getElem?_alike h.sent k
  simp only [AudiencePath.step]
  generalize s.sent[k]? = msg at hsent ⊢
  generalize s'.sent[k]? = msg' at hsent ⊢
  cases hsent with
  | none => exact ⟨h, rfl⟩
  | some hmsg =>
    refine ⟨⟨h.consumer, h.publisher, h.sent, h.policy, h.receiver, h.loop, h.gateway,
      ?_⟩, rfl⟩
    simp only [SinkSession.receive, parseSnapshot_alike st.sink hmsg, h.sink]

theorem step_alike (h : AlikePaths s s') {i i' : AudienceInput τ κ}
    (hi : AlikeInputs st.sink.toCodec i i') (hw : Withholds st s i) (hw' : Withholds st s' i') :
    AlikePaths (s.step st i).1 (s'.step st i').1 ∧ (s.step st i).2 = (s'.step st i').2 := by
  cases hi with
  | observed t hraw =>
    exact ⟨⟨process_alike h.consumer hraw t, h.publisher, h.sent, h.policy, h.receiver, h.loop,
      h.gateway, h.sink⟩, rfl⟩
  | same i =>
    cases i with
    | observe raw t =>
      exact ⟨⟨process_same h.consumer raw t, h.publisher, h.sent, h.policy, h.receiver, h.loop,
        h.gateway, h.sink⟩, rfl⟩
    | publish t stamp succeeds => exact ⟨publish_alike h t stamp succeeds hw hw', rfl⟩
    | deliver k now => exact deliverSent_alike h k now
    | store k commits => exact store_alike h k commits
    | tick t => exact tick_alike h t
    | connect ws =>
      refine ⟨⟨h.consumer, h.publisher, h.sent, h.policy, h.receiver, h.loop, ?_,
        h.sink⟩, rfl⟩
      simp only [AudiencePath.step, Optimizer.step, h.gateway]
    | close ws =>
      refine ⟨⟨h.consumer, h.publisher, h.sent, h.policy, h.receiver, h.loop, ?_,
        h.sink⟩, rfl⟩
      simp only [AudiencePath.step, Optimizer.step, h.gateway]
    | reloadPolicy c =>
      exact ⟨⟨h.consumer, h.publisher, h.sent, ⟨c, rfl, rfl⟩, h.receiver, h.loop, h.gateway,
        h.sink⟩, rfl⟩

theorem alike_init (config : WindowConfig) (c : PolicyConfig) :
    AlikePaths (audiencePath (κ := κ) st config c).init (audiencePath st config c).init where
  consumer := ⟨⟨rfl, List.Forall₂.nil, rfl⟩, rfl⟩
  publisher := rfl
  sent := List.Forall₂.nil
  policy := ⟨c, rfl, rfl⟩
  receiver := ⟨rfl, Option.Rel.none, rfl⟩
  loop := rfl
  gateway := rfl
  sink := rfl

end Law

/-- Two runs that differ in the demographics of their observations alone, and in which no signal
releases any: the optimizer sends its players the same, and the dashboard stores the same rows, and
so shows the same. -/
theorem withheld_unseen {τ κ : Type} [DecidableEq κ] (st : AudienceSetting τ)
    (config : WindowConfig) (c : PolicyConfig) {is is' : List (AudienceInput τ κ)}
    (halike : List.Forall₂ (AlikeInputs st.sink.toCodec) is is')
    (h : (audiencePath st config c).EachStep (Withholds st) (audiencePath st config c).init is)
    (h' : (audiencePath st config c).EachStep (Withholds st) (audiencePath st config c).init is') :
    (audiencePath st config c).outputs (audiencePath st config c).init is =
        (audiencePath st config c).outputs (audiencePath st config c).init is' ∧
      ((audiencePath st config c).run (audiencePath st config c).init is).sink =
        ((audiencePath st config c).run (audiencePath st config c).init is').sink := by
  obtain ⟨hpath, houts⟩ := Machine.related_run (M := audiencePath st config c)
    (N := audiencePath st config c) (R := AlikePaths) (O := Eq)
    (fun _ _ _ _ hs hi hw hw' => step_alike hs hi hw hw') (alike_init config c) halike h h'
  exact ⟨List.forall₂_eq_eq_eq ▸ houts, hpath.sink⟩

/-! ### A child in the crowd -/

/-- An age of which three bins are missing is not released. -/
def childJson : Json :=
  match crowdJson (9 / 10) false with
  | .obj ms => .obj (ms ++ [("demographics", .obj [("age_group", .obj [("child", .num 1)])])])
  | j => j

def childObservation : Observation := Valid.of childJson (by decide +kernel)

def crowdSetting : AudienceSetting Json where
  sink := viewRuntime
  ids := pilotIds
  formatting := ⟨fun _ => "", fun _ => ""⟩
  staleSignalThresholdMs := 2000

/-- What follows an observation: one signal, which both readers get, and a tick. -/
def crowdRun (raw : Json) : List (AudienceInput Json Unit) :=
  [.connect (), .observe raw ⟨0, 0⟩, .publish (.at 0) pilotStamp true, .deliver 0 0,
    .store 0 true, .tick ⟨0, ⟨12, 0⟩,
      ⟨pilotStamp.messageId, pilotStamp.producedAt, pilotStamp.uuid_length⟩, fun _ => true⟩]

theorem child_alike : AlikeObservations childObservation crowdObservation := by
  intro key hkey
  have hfind : ∀ ms : List (String × Json), ∀ v,
      Dict.find key (ms ++ [("demographics", v)]) = Dict.find key ms := by
    intro ms v
    induction ms with
    | nil => simp [Dict.find, hkey.symm]
    | cons m ms ih => simp only [List.cons_append, Dict.find, ih]
  exact hfind _ _

theorem child_unseen :
    (audiencePath crowdSetting promptConfig ⟨[anyAudienceRule], 10000, 5000⟩).outputs
        (audiencePath crowdSetting promptConfig ⟨[anyAudienceRule], 10000, 5000⟩).init
        (crowdRun childObservation.1) =
      (audiencePath crowdSetting promptConfig ⟨[anyAudienceRule], 10000, 5000⟩).outputs
        (audiencePath crowdSetting promptConfig ⟨[anyAudienceRule], 10000, 5000⟩).init
        (crowdRun crowdObservation.1) ∧
      ((audiencePath crowdSetting promptConfig ⟨[anyAudienceRule], 10000, 5000⟩).run
        (audiencePath crowdSetting promptConfig ⟨[anyAudienceRule], 10000, 5000⟩).init
        (crowdRun childObservation.1)).sink =
      ((audiencePath crowdSetting promptConfig ⟨[anyAudienceRule], 10000, 5000⟩).run
        (audiencePath crowdSetting promptConfig ⟨[anyAudienceRule], 10000, 5000⟩).init
        (crowdRun crowdObservation.1)).sink := by
  refine withheld_unseen crowdSetting promptConfig ⟨[anyAudienceRule], 10000, 5000⟩ ?_
    (by decide +kernel) (by decide +kernel)
  refine List.Forall₂.cons (.same _) (List.Forall₂.cons ?_ (List.forall₂_same.mpr ?_))
  · exact .observed _ ⟨childObservation, crowdObservation, rfl, rfl, child_alike⟩
  · exact fun i _ => .same i

end AdaptiveAdvertisement.System
