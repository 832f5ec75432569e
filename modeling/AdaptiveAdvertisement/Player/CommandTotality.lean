import AdaptiveAdvertisement.Player.CommandHandler

/-!
# When `handle_raw` returns, and what a rejection leaves unchanged

A valid frame is dispatched without an exception unless it is an activation: the schema does
not require the payload that the code indexes, and the expiry check compares a datetime
without a time zone.
-/

namespace AdaptiveAdvertisement.Player
open Library Contracts

variable {τ : Type}

/-! ### Reading a valid message -/

theorem header_valid {msg : Json} (h : playerCommand msg = true) :
    ∃ hd, header msg = .ok hd ∧ hd.commandType ∈ commandTypes := by
  obtain ⟨v, hv, hid⟩ := Schema.object_required (k := "command_id") (s := identifier) h
    (by simp) (by simp)
  obtain ⟨id, rfl, -⟩ := identifier_iff.mp hid
  obtain ⟨w, hw, hseq⟩ := Schema.object_required (k := "sequence_number") (s := count) h
    (by simp) (by simp)
  obtain ⟨n, rfl⟩ := count_iff.mp hseq
  obtain ⟨u, hu, hty⟩ := Schema.object_required (k := "command_type")
    (s := Schema.enumStr commandTypes) h (by simp) (by simp)
  obtain ⟨ty, hmem, rfl⟩ := Schema.enumStr_iff.mp hty
  refine ⟨⟨id, n, ty⟩, ?_, hmem⟩
  simp only [header, strMember_of_get? hv, intMember_of_get? hw, strMember_of_get? hu]
  rfl

theorem activatePayload_valid {msg p : Json} (h : playerCommand msg = true)
    (hp : msg.get? "activate_creative" = some p) :
    payloadOf msg "activate_creative" = p ∧
      ∃ (id : String) (d : ℕ), p.get? "manifest_id" = some (.str id) ∧
        p.get? "min_dwell_ms" = some (.int d) := by
  have hvalid : activateCreativePayload p = true :=
    Schema.object_property h (k := "activate_creative") (by simp) hp
  obtain ⟨v, hv, hid⟩ := Schema.object_required (k := "manifest_id") (s := identifier) hvalid
    (by simp) (by simp)
  obtain ⟨id, rfl, -⟩ := identifier_iff.mp hid
  obtain ⟨w, hw, hdw⟩ := Schema.object_required (k := "min_dwell_ms") (s := count) hvalid
    (by simp) (by simp)
  obtain ⟨d, rfl⟩ := count_iff.mp hdw
  refine ⟨?_, id, d, hv, hw⟩
  -- an object with a member is truthy
  obtain ⟨ms, rfl, hfind⟩ := Json.obj_of_get? hv
  have hne : ms ≠ [] := by
    intro he
    rw [he] at hfind
    cases hfind
  simp [payloadOf, hp, Json.truthy, hne]

/-! ### Where dispatching raises -/

def ActivatesNaiveExpiry (rt : Runtime τ) (store : ManifestStore) (msg : Json) : Prop :=
  ∃ p id manifest, msg.get? "activate_creative" = some p ∧
    p.get? "manifest_id" = some (.str id) ∧
    store.get id = some manifest ∧ ManifestStore.NaiveExpiry rt manifest

namespace CommandHandler

theorem handleActivateCreative_lacking (rt : Runtime τ) (h : CommandHandler) {msg : Json}
    (hp : msg.get? "activate_creative" = none) (t : FrameClock) :
    handleActivateCreative rt h msg t = .error (.keyError "manifest_id") := by
  have hpay : payloadOf msg "activate_creative" = .obj [] := by simp [payloadOf, hp]
  simp only [handleActivateCreative, hpay]
  rfl

theorem handleActivateCreative_of_payload (rt : Runtime τ) (h : CommandHandler) {msg p : Json}
    {id : String} {d : ℤ} (hpay : payloadOf msg "activate_creative" = p)
    (hid : p.get? "manifest_id" = some (.str id)) (hdw : p.get? "min_dwell_ms" = some (.int d))
    (t : FrameClock) :
    handleActivateCreative rt h msg t =
      activateManifest rt h id d (((p.get? "cooldown_ms").bind Json.asInt?).getD 0)
        (optStr p "rationale") t := by
  simp only [handleActivateCreative, hpay, strMember_of_get? hid, intMember_of_get? hdw]
  rfl

theorem activateManifest_raises_iff (rt : Runtime τ) (h : CommandHandler) (id : String) (d c : ℤ)
    (rationale : Option String) (t : FrameClock) :
    (∃ e, activateManifest rt h id d c rationale t = .error e) ↔
      ∃ manifest, h.store.get id = some manifest ∧ ManifestStore.NaiveExpiry rt manifest := by
  unfold activateManifest
  cases hm : h.store.get id with
  | none => simp
  | some manifest =>
    have hcheck := ManifestStore.checkManifest_raises_iff rt
      (ManifestStore.get_valid hm).1 t.utcNow
    simp only [Option.some.injEq, exists_eq_left', ← hcheck]
    cases ManifestStore.checkManifest rt manifest t.utcNow with
    | error e => simp
    | ok rejection => cases rejection <;> simp

/-- A valid activation runs into an exception only without a payload or through its
manifest's expiry. -/
theorem handleActivateCreative_raises_iff (rt : Runtime τ) (h : CommandHandler) {msg : Json}
    (hvalid : playerCommand msg = true) (t : FrameClock) :
    (∃ e, handleActivateCreative rt h msg t = .error e) ↔
      msg.get? "activate_creative" = none ∨ ActivatesNaiveExpiry rt h.store msg := by
  cases hp : msg.get? "activate_creative" with
  | none => simp [handleActivateCreative_lacking rt h hp t]
  | some p =>
    obtain ⟨hpay, id, d, hid, hdw⟩ := activatePayload_valid hvalid hp
    rw [handleActivateCreative_of_payload rt h hpay hid hdw t, activateManifest_raises_iff]
    simp [ActivatesNaiveExpiry, hp, hid]

theorem dispatch_raises_iff (rt : Runtime τ) (h : CommandHandler) {msg : Json}
    {commandType : String} (hvalid : playerCommand msg = true)
    (hty : commandType ∈ commandTypes) (t : FrameClock) :
    (∃ e, h.dispatch rt msg commandType t = .error e) ↔
      commandType = "activate_creative" ∧
        (msg.get? "activate_creative" = none ∨ ActivatesNaiveExpiry rt h.store msg) := by
  simp only [commandTypes, List.mem_cons, List.not_mem_nil, or_false] at hty
  rcases hty with rfl | rfl | rfl | rfl
  · simp [dispatch, handleActivateCreative_raises_iff rt h hvalid t]
  · simp [dispatch]
  · simp [dispatch]
  · simp [dispatch]

/-! ### What a rejected command leaves unchanged -/

theorem activateManifest_rejected {rt : Runtime τ} {h : CommandHandler} {id : String} {d c : ℤ}
    {rationale : Option String} {t : FrameClock} {sm : StateMachine} {result : TransitionResult}
    {event : Option PlayEvent}
    (hok : activateManifest rt h id d c rationale t = .ok (sm, result, event))
    (hrej : result.accepted = false) : sm = h.sm := by
  unfold activateManifest at hok
  split at hok
  · simp only [Except.ok.injEq, Prod.mk.injEq] at hok
    exact hok.1.symm
  · split at hok
    · cases hok
    · simp only [Except.ok.injEq, Prod.mk.injEq] at hok
      exact hok.1.symm
    · simp only [Except.ok.injEq, Prod.mk.injEq] at hok
      obtain ⟨rfl, rfl, -⟩ := hok
      exact (StateMachine.onActivateCreative_law h.sm id d c rationale t.monotonic).rejected_frame
        hrej

theorem handleActivateCreative_rejected {rt : Runtime τ} {h : CommandHandler} {msg : Json}
    {t : FrameClock} {sm : StateMachine} {result : TransitionResult} {event : Option PlayEvent}
    (hok : handleActivateCreative rt h msg t = .ok (sm, result, event))
    (hrej : result.accepted = false) : sm = h.sm := by
  simp only [handleActivateCreative] at hok
  cases hid : strMember (payloadOf msg "activate_creative") "manifest_id" with
  | error e =>
    rw [hid] at hok
    cases hok
  | ok id =>
    cases hdw : intMember (payloadOf msg "activate_creative") "min_dwell_ms" with
    | error e =>
      rw [hid, hdw] at hok
      cases hok
    | ok d =>
      rw [hid, hdw] at hok
      exact activateManifest_rejected hok hrej

theorem dispatch_rejected {rt : Runtime τ} {h : CommandHandler} {msg : Json} {commandType : String}
    {t : FrameClock} {sm : StateMachine} {result : TransitionResult} {event : Option PlayEvent}
    (hok : h.dispatch rt msg commandType t = .ok (sm, result, event))
    (hrej : result.accepted = false) : sm = h.sm := by
  unfold dispatch at hok
  split at hok
  · exact handleActivateCreative_rejected hok hrej
  split at hok
  · simp only [Except.ok.injEq, Prod.mk.injEq] at hok
    obtain ⟨rfl, rfl, -⟩ := hok
    exact (StateMachine.onFreeze_law h.sm _).rejected_frame hrej
  split at hok
  · simp only [Except.ok.injEq, Prod.mk.injEq] at hok
    obtain ⟨rfl, rfl, -⟩ := hok
    exact (StateMachine.onSafeMode_law h.sm _ _).rejected_frame hrej
  split at hok
  · simp only [Except.ok.injEq, Prod.mk.injEq] at hok
    obtain ⟨rfl, rfl, -⟩ := hok
    exact (StateMachine.onClearSafeMode_law h.sm).rejected_frame hrej
  · cases hok

/-! ### `handle_raw` -/

/-- It returns; a rejection leaves the state machine as it was; a rejection before dispatch
also leaves the sequence and the remembered ids. -/
def TotalAndAtomic (rt : Runtime τ) (h : CommandHandler) (raw : τ) (t : FrameClock) : Prop :=
  ∃ outcome, (handleRaw rt h raw t).2 = .ok outcome ∧
    (outcome.rejected = true → (handleRaw rt h raw t).1.sm = h.sm) ∧
    (outcome.beforeDispatch = true →
      (handleRaw rt h raw t).1.lastSequence = h.lastSequence ∧
        (handleRaw rt h raw t).1.seenCommandIds = h.seenCommandIds)

/-- The frame makes the JSON decoder raise something else than its own error, or it is a valid
and fresh activation that has no payload or names a manifest whose expiry has no time zone. -/
def Crashes (rt : Runtime τ) (h : CommandHandler) (raw : τ) : Prop :=
  match rt.loads raw with
  | .decodeError => False
  | .unicodeError => True
  | .raised => True
  | .value msg =>
    playerCommand msg = true ∧ ∃ hd, header msg = .ok hd ∧
      h.seenCommandIds.contains hd.commandId = false ∧ h.lastSequence < hd.sequenceNumber ∧
      hd.commandType = "activate_creative" ∧
      (msg.get? "activate_creative" = none ∨ ActivatesNaiveExpiry rt h.store msg)

theorem handleValid_totalAndAtomic_iff (rt : Runtime τ) (h : CommandHandler) {msg : Json}
    (hvalid : playerCommand msg = true) {hd : Header} (hhd : header msg = .ok hd)
    (hty : hd.commandType ∈ commandTypes) (t : FrameClock) :
    (∃ outcome, (handleValid rt h msg t).2 = .ok outcome ∧
      (outcome.rejected = true → (handleValid rt h msg t).1.sm = h.sm) ∧
      (outcome.beforeDispatch = true →
        (handleValid rt h msg t).1.lastSequence = h.lastSequence ∧
          (handleValid rt h msg t).1.seenCommandIds = h.seenCommandIds)) ↔
      ¬ (h.seenCommandIds.contains hd.commandId = false ∧ h.lastSequence < hd.sequenceNumber ∧
        hd.commandType = "activate_creative" ∧
        (msg.get? "activate_creative" = none ∨ ActivatesNaiveExpiry rt h.store msg)) := by
  cases hseen : h.seenCommandIds.contains hd.commandId with
  | true => simp [handleValid, hhd, hseen]
  | false =>
    by_cases hseq : hd.sequenceNumber ≤ h.lastSequence
    · have hnot : ¬ h.lastSequence < hd.sequenceNumber := by omega
      simp [handleValid, hhd, hseen, hseq, hnot]
    · have hlt : h.lastSequence < hd.sequenceNumber := by omega
      have hraise := dispatch_raises_iff rt (h.record hd.sequenceNumber hd.commandId) hvalid hty t
      have hstore : (h.record hd.sequenceNumber hd.commandId).store = h.store := rfl
      rw [hstore] at hraise
      simp only [true_and, hlt, ← hraise]
      cases hdis : (h.record hd.sequenceNumber hd.commandId).dispatch rt msg hd.commandType t with
      | error e => simp [handleValid, hhd, hseen, hseq, hdis]
      | ok r =>
        obtain ⟨sm, result, event⟩ := r
        have hframe := dispatch_rejected hdis
        have hsm : (h.record hd.sequenceNumber hd.commandId).sm = h.sm := rfl
        rw [hsm] at hframe
        simpa [handleValid, hhd, hseen, hseq, hdis, Outcome.rejected, Outcome.beforeDispatch]
          using hframe

theorem handleRaw_totalAndAtomic_iff (rt : Runtime τ) (h : CommandHandler) (raw : τ)
    (t : FrameClock) : TotalAndAtomic rt h raw t ↔ ¬ Crashes rt h raw := by
  unfold TotalAndAtomic Crashes handleRaw
  cases rt.loads raw with
  | decodeError => simp
  | unicodeError => simp
  | raised => simp
  | value msg =>
    by_cases hvalid : playerCommand msg = true
    · obtain ⟨hd, hhd, hty⟩ := header_valid hvalid
      simp only [hvalid, ite_true, true_and, hhd, Except.ok.injEq, exists_eq_left']
      exact handleValid_totalAndAtomic_iff rt h hvalid hhd hty t
    · simp [hvalid]

def frameWithoutPayload : Json :=
  .obj [("schema_version", .str "1.0.0"), ("command_id", .str "c-1"), ("sequence_number", .int 0),
    ("produced_at", .str "2026-01-01T00:00:00Z"), ("command_type", .str "activate_creative")]

/-- A valid activation without its payload, on a fresh handler: `payload["manifest_id"]`
raises. -/
theorem handleRaw_without_payload :
    ¬ TotalAndAtomic jsonRuntime { sm := StateMachine.init, store := ManifestStore.empty }
      frameWithoutPayload ⟨0, .at 0⟩ := by
  intro h
  obtain ⟨outcome, hok, -⟩ := h
  cases hok

end CommandHandler

end AdaptiveAdvertisement.Player
