import AdaptiveAdvertisement.Dashboard.AudienceSummary
import AdaptiveAdvertisement.System.WithheldDemographics

/-!
# The audience of the last hour, from the cameras to the dashboard

Every row that the audience sink has stored was read from a signal that the publisher had checked.
-/

namespace AdaptiveAdvertisement.System
open Library Contracts AudienceState Dashboard

structure Recorded {τ κ : Type} (st : AudienceSetting τ) (s : AudiencePath κ) : Prop where
  sent : ∀ msg ∈ s.sent, audienceStateSignal msg = true
  rows : ∀ row ∈ s.sink.rows, ∃ msg ∈ s.sent,
    st.sink.parseSnapshot (st.sink.dumps msg) = .ok (some row)

/-- The summary tells of the rows of the hour; a distribution of ages among them takes a signal
that released one; and a summary fails for a nan alone. -/
structure HourTold {τ κ : Type} (st : AudienceSetting τ) (s : AudiencePath κ)
    (renders : Number → Bool) (query : SinceQuery) (now : ℚ) : Prop where
  told : ∀ out, getAnalyticsSummary renders query now s.sink.rows = .ok out →
    Summarizes (lastHour now s.sink.rows) out
  released : ∀ out, getAnalyticsSummary renders query now s.sink.rows = .ok out →
    out.ageDistribution.isSome = true → ∃ row ∈ lastHour now s.sink.rows, ∃ msg ∈ s.sent,
      Released msg ∧ st.sink.parseSnapshot (st.sink.dumps msg) = .ok (some row)
  answered : (∀ q, renders (.finite q) = true) →
    (∀ row ∈ lastHour now s.sink.rows, RowFinite row) →
      ∃ out, getAnalyticsSummary renders query now s.sink.rows = .ok out

section Hour

variable {τ κ : Type} [DecidableEq κ] {st : AudienceSetting τ} {s : AudiencePath κ}

theorem buildSignal_valid {p : SignalPublisher} {ids : SourceIds} {w : ObservationWindow}
    {t : SignalClock} {stamp : SignalStamp} {msg : Json}
    (h : (p.buildSignal ids w t stamp).2.2 = some msg) : audienceStateSignal msg = true := by
  cases hstate : stateOf w.config (w.prune t.state).data with
  | none =>
    rw [buildSignal_none hstate] at h
    cases h
  | some state =>
    rw [buildSignal_composed hstate] at h
    split_ifs at h with hvalid
    rw [← Option.some.inj h]
    exact hvalid

omit [DecidableEq κ] in
theorem publish_cases (st : AudienceSetting τ) (s : AudiencePath κ) (t : SignalClock)
    (stamp : SignalStamp) (succeeds : Bool) : (s.publish st t stamp succeeds).sink = s.sink ∧
      ((s.publish st t stamp succeeds).sent = s.sent ∨
        ∃ msg, (s.built st t stamp).2.2 = some msg ∧
          (s.publish st t stamp succeeds).sent = s.sent ++ [msg]) := by
  unfold AudiencePath.publish
  generalize s.built st t stamp = r
  obtain ⟨p, w, msg⟩ := r
  cases msg with
  | none => exact ⟨rfl, Or.inl rfl⟩
  | some msg =>
    cases succeeds with
    | false => exact ⟨rfl, Or.inl rfl⟩
    | true => exact ⟨rfl, Or.inr ⟨msg, rfl, rfl⟩⟩

omit [DecidableEq κ] in
theorem publish_recorded (h : Recorded st s) (t : SignalClock) (stamp : SignalStamp)
    (succeeds : Bool) : Recorded st (s.publish st t stamp succeeds) := by
  obtain ⟨hsink, hsent | ⟨msg, hmsg, hsent⟩⟩ := publish_cases st s t stamp succeeds
  · exact ⟨hsent ▸ h.sent, hsink ▸ hsent ▸ h.rows⟩
  · refine ⟨fun other hother => ?_, fun row hrow => ?_⟩
    · rw [hsent] at hother
      rcases List.mem_append.mp hother with hold | hnew
      · exact h.sent other hold
      · rw [List.mem_singleton.mp hnew]
        exact buildSignal_valid hmsg
    · rw [hsink] at hrow
      obtain ⟨other, hother, hparsed⟩ := h.rows row hrow
      exact ⟨other, hsent ▸ List.mem_append_left _ hother, hparsed⟩

theorem store_recorded (h : Recorded st s) (k : ℕ) (commits : Bool) :
    Recorded st (s.step st (.store k commits : AudienceInput τ κ)).1 := by
  simp only [AudiencePath.step]
  cases hmsg : s.sent[k]? with
  | none => exact h
  | some msg =>
    refine ⟨h.sent, fun row hrow => ?_⟩
    dsimp only [SinkSession.receive] at hrow
    cases hparsed : st.sink.parseSnapshot (st.sink.dumps msg) with
    | error e => exact h.rows row (by simpa only [hparsed] using hrow)
    | ok parsed =>
      cases parsed with
      | none => exact h.rows row (by simpa only [hparsed] using hrow)
      | some new =>
        rw [hparsed] at hrow
        dsimp only at hrow
        split_ifs at hrow
        · rcases List.mem_append.mp hrow with hold | hnew
          · exact h.rows row hold
          · rw [List.mem_singleton.mp hnew]
            exact ⟨msg, List.mem_of_getElem? hmsg, hparsed⟩
        · exact h.rows row hrow

theorem step_recorded (h : Recorded st s) (i : AudienceInput τ κ) :
    Recorded st (s.step st i).1 := by
  cases i with
  | observe raw t => exact ⟨h.sent, h.rows⟩
  | publish t stamp succeeds => exact publish_recorded h t stamp succeeds
  | deliver k now =>
    simp only [AudiencePath.step]
    cases s.sent[k]? <;> exact ⟨h.sent, h.rows⟩
  | store k commits => exact store_recorded h k commits
  | tick t => exact ⟨h.sent, h.rows⟩
  | connect ws => exact ⟨h.sent, h.rows⟩
  | close ws => exact ⟨h.sent, h.rows⟩
  | reloadPolicy c => exact ⟨h.sent, h.rows⟩

omit [DecidableEq κ] in
theorem Recorded.hour (h : Recorded st s) (renders : Number → Bool) (query : SinceQuery)
    (now : ℚ) : HourTold st s renders query now := by
  have hwithin : ∀ row ∈ s.sink.rows, RowWithin row := by
    intro row hrow
    obtain ⟨msg, hmsg, hparsed⟩ := h.rows row hrow
    exact rowWithin_of_valid (h.sent msg hmsg) hparsed
  obtain ⟨htold, hanswered⟩ := getAnalyticsSummary_summarizes renders query now hwithin
  refine ⟨htold, fun out hout hages => ?_, hanswered⟩
  obtain ⟨name, -, -, row, hrow, -⟩ := (htold out hout).shown.mp hages
  obtain ⟨hhour, hshown⟩ := mem_demoRows.mp hrow
  obtain ⟨msg, hmsg, hparsed⟩ := h.rows row (List.mem_of_mem_filter hhour)
  exact ⟨row, hhour, msg, hmsg, released_of_row (h.sent msg hmsg) hparsed hshown, hparsed⟩

end Hour

/-- In every run, whatever the cameras see, and whatever the broker loses or repeats. -/
theorem audience_hour {τ κ : Type} [DecidableEq κ] (st : AudienceSetting τ)
    (config : WindowConfig) (c : DecisionOptimizer.PolicyConfig) (is : List (AudienceInput τ κ))
    (renders : Number → Bool) (query : SinceQuery) (now : ℚ) :
    HourTold st ((audiencePath st config c).run (audiencePath st config c).init is)
      renders query now := by
  have hinit : Recorded st (audiencePath (κ := κ) st config c).init :=
    ⟨fun _ h => absurd h List.not_mem_nil, fun _ h => absurd h List.not_mem_nil⟩
  exact (Machine.run_inv (M := audiencePath st config c) (I := Recorded st)
    (fun _ i h => step_recorded h i) hinit is).hour renders query now

end AdaptiveAdvertisement.System
