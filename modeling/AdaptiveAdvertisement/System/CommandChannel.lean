import AdaptiveAdvertisement.DecisionOptimizer.PlayerGateway
import AdaptiveAdvertisement.Player.CommandOrder
import AdaptiveAdvertisement.Player.CommandTotality

/-!
# The command channel from the gateway to the player

Which commands the gateway can send, and what the player's handler reads of them.
-/

namespace AdaptiveAdvertisement.System
open Library Contracts Player DecisionOptimizer

/-! ### Commands that meet ICD-4 -/

def activateFields (m : String) (d c : ℤ) (r : String) : List Schema.Field :=
  [⟨"manifest_id", identifier, some (.str m)⟩, ⟨"min_dwell_ms", count, some (.int d)⟩,
    ⟨"cooldown_ms", count, if c = 0 then none else some (.int c)⟩,
    ⟨"rationale", Schema.all [Schema.string, Schema.maxLength 500],
      if r = "" then none else some (.str r)⟩]

theorem activatePayload_eq (m : String) (d c : ℤ) (r : String) :
    activatePayload m d c (some r) =
      .obj ((activateFields m d c r).filterMap Schema.Field.member) := by
  by_cases hc : c = 0
  · by_cases hr : r = "" <;>
      simp [activatePayload, activateFields, List.filterMap_cons, Schema.Field.member, hc, hr]
  · by_cases hr : r = "" <;>
      simp [activatePayload, activateFields, List.filterMap_cons, Schema.Field.member, hc, hr]

theorem activatePayload_valid_iff (m : String) (d c : ℤ) (r : String) :
    activateCreativePayload (activatePayload m d c (some r)) = true ↔
      (1 ≤ m.length ∧ m.length ≤ 128) ∧ 0 ≤ d ∧ 0 ≤ c ∧ r.length ≤ 500 := by
  rw [activatePayload_eq]
  refine (Schema.object_fields_iff ["manifest_id", "min_dwell_ms"] _
    (by simp [activateFields]) (by simp [activateFields])).trans ?_
  have hcooldown : (∀ v ∈ (if c = 0 then none else some (Json.int c)), count v = true) ↔
      0 ≤ c := by
    by_cases hc : c = 0
    · simp [hc]
    · simp [hc, count_int_iff]
  have hrationale : (∀ v ∈ (if r = "" then none else some (Json.str r)),
      Schema.all [Schema.string, Schema.maxLength 500] v = true) ↔ r.length ≤ 500 := by
    by_cases hr : r = ""
    · simp [hr]
    · simp [hr, Schema.all, Schema.string, Schema.maxLength]
  simp only [activateFields, List.forall_mem_cons, List.not_mem_nil, false_implies, implies_true,
    and_true, hcooldown, hrationale, Option.mem_some_iff, forall_eq',
    identifier_str_iff, count_int_iff]

theorem activateCommand_valid_iff (sequence : ℕ) (stamp : CommandStamp) (m : String) (d c : ℤ)
    (r : String) : playerCommand (command sequence stamp "activate_creative"
        (some (activatePayload m d c (some r)))) = true ↔
      (1 ≤ m.length ∧ m.length ≤ 128) ∧ 0 ≤ d ∧ 0 ≤ c ∧ r.length ≤ 500 := by
  rw [← activatePayload_valid_iff]
  have hid := identifier_uuid stamp.uuid_length
  refine (Schema.object_fields_iff
    ["schema_version", "command_id", "sequence_number", "produced_at", "command_type"]
    [⟨"schema_version", Schema.constStr "1.0.0", some (.str "1.0.0")⟩,
      ⟨"command_id", identifier, some (.str stamp.commandId)⟩,
      ⟨"sequence_number", count, some (.int sequence)⟩,
      ⟨"produced_at", timestamp, some (.str stamp.producedAt)⟩,
      ⟨"command_type", Schema.enumStr commandTypes, some (.str "activate_creative")⟩,
      ⟨"activate_creative", activateCreativePayload, some (activatePayload m d c (some r))⟩,
      ⟨"freeze", freezePayload, none⟩, ⟨"safe_mode", safeModePayload, none⟩]
    (by simp) (by simp)).trans ?_
  simp [Schema.constStr, hid, count_int_iff, timestamp, Schema.string, Schema.enumStr,
    commandTypes]

/-! ### What the handler makes of a command -/

section Handler

variable {τ : Type} (rt : Runtime τ) {h : CommandHandler} {sequence : ℕ} {stamp : CommandStamp}
  {commandType : String} {payload : Option Json} (t : FrameClock)

theorem header_command : header (command sequence stamp commandType payload) =
    .ok ⟨stamp.commandId, sequence, commandType⟩ := by
  have hid : (command sequence stamp commandType payload).get? "command_id" =
      some (.str stamp.commandId) := by simp [command, Dict.find]
  have hseq : (command sequence stamp commandType payload).get? "sequence_number" =
      some (.int sequence) := by simp [command, Dict.find]
  have hty : (command sequence stamp commandType payload).get? "command_type" =
      some (.str commandType) := by simp [command, Dict.find]
  simp only [header, strMember_of_get? hid, intMember_of_get? hseq, strMember_of_get? hty]
  rfl

/-- What handling a command of this header may do to the handler's memory. -/
structure Remembers (hd : Header) (h h' : CommandHandler) : Prop where
  store : h'.store = h.store
  sequence : h'.lastSequence = h.lastSequence ∨ h'.lastSequence = hd.sequenceNumber
  ids : ∀ id ∈ h'.seenCommandIds.keys, id = hd.commandId ∨ id ∈ h.seenCommandIds.keys

theorem remembers_self (hd : Header) (h : CommandHandler) : Remembers hd h h where
  store := rfl
  sequence := Or.inl rfl
  ids := fun _ hmem => Or.inr hmem

theorem remembers_record (hd : Header) (h : CommandHandler) (sm : StateMachine) :
    Remembers hd h { h.record hd.sequenceNumber hd.commandId with sm := sm } where
  store := rfl
  sequence := Or.inr rfl
  ids := fun _ hmem => Dict.mem_keys_remember hmem

variable {rt} in
theorem loads_dumps_inj {msg msg' : Json} (h : rt.loads (rt.dumps msg) = .value msg') :
    msg = msg' := by
  rw [rt.loads_dumps] at h
  cases h
  rfl

theorem handleRaw_remembers (h : CommandHandler) {msg : Json} {hd : Header}
    (hhd : header msg = .ok hd) : Remembers hd h (h.handleRaw rt (rt.dumps msg) t).1 := by
  cases hadmits : h.admits rt (rt.dumps msg) with
  | none =>
    rw [(CommandHandler.handleRaw_unadmitted t hadmits).1]
    exact remembers_self hd h
  | some hd' =>
    obtain ⟨msg', hload, -, hhd', -, -⟩ := CommandHandler.admits_some hadmits
    obtain rfl := loads_dumps_inj hload
    obtain rfl := Except.ok.inj (hhd.symm.trans hhd')
    obtain ⟨msg', -, hhandled⟩ := CommandHandler.handleRaw_admitted t hadmits
    rw [hhandled]
    cases (h.record hd.sequenceNumber hd.commandId).dispatch rt msg' hd.commandType t with
    | error e => exact remembers_record hd h _
    | ok r => exact remembers_record hd h r.1

theorem handleRaw_fresh {msg : Json} {hd : Header} (hvalid : playerCommand msg = true)
    (hhd : header msg = .ok hd) (hid : h.seenCommandIds.contains hd.commandId = false)
    (hseq : h.lastSequence < hd.sequenceNumber) :
    h.handleRaw rt (rt.dumps msg) t =
      match (h.record hd.sequenceNumber hd.commandId).dispatch rt msg hd.commandType t with
      | .error e => (h.record hd.sequenceNumber hd.commandId, .error e)
      | .ok (sm, result, event) =>
        ({ h.record hd.sequenceNumber hd.commandId with sm := sm },
          .ok (.dispatched result event)) := by
  have hnew := (Dict.contains_eq_false_iff _ _).mp hid
  have hadmits := CommandHandler.admits_of (rt.loads_dumps msg) hvalid hhd hnew hseq
  obtain ⟨msg', hload, hhandled⟩ := CommandHandler.handleRaw_admitted t hadmits
  obtain rfl := loads_dumps_inj hload
  exact hhandled

-- the rationale of an activation as it arrives: the gateway leaves an empty one out
def heard (r : String) : Option String := if r = "" then none else some r

/-- The handler reads of an activation's payload what the gateway wrote into it. -/
theorem read_activatePayload (m : String) (d c : ℤ) (r : String) :
    (activatePayload m d c (some r)).get? "manifest_id" = some (.str m) ∧
      (activatePayload m d c (some r)).get? "min_dwell_ms" = some (.int d) ∧
      (((activatePayload m d c (some r)).get? "cooldown_ms").bind Json.asInt?).getD 0 = c ∧
      optStr (activatePayload m d c (some r)) "rationale" = heard r := by
  refine ⟨by simp [activatePayload, Dict.find], by simp [activatePayload, Dict.find], ?_, ?_⟩
  · by_cases hc : c = 0
    · by_cases hr : r = "" <;> simp [activatePayload, Dict.find, hc, hr]
    · simp [activatePayload, Dict.find, hc]
  · by_cases hc : c = 0
    · by_cases hr : r = "" <;> simp [heard, optStr, activatePayload, Dict.find, hc, hr]
    · by_cases hr : r = "" <;> simp [heard, optStr, activatePayload, Dict.find, hc, hr]

theorem handleRaw_activate {m : String} {d c : ℤ} {r : String}
    (hvalid : playerCommand (command sequence stamp "activate_creative"
      (some (activatePayload m d c (some r)))) = true)
    (hid : h.seenCommandIds.contains stamp.commandId = false) (hseq : h.lastSequence < sequence) :
    h.handleRaw rt (rt.dumps (command sequence stamp "activate_creative"
        (some (activatePayload m d c (some r))))) t =
      match (h.record sequence stamp.commandId).activateManifest rt m d c (heard r) t with
      | .error e => (h.record sequence stamp.commandId, .error e)
      | .ok (sm, result, event) =>
        ({ h.record sequence stamp.commandId with sm := sm }, .ok (.dispatched result event)) := by
  obtain ⟨hmanifest, hdwell, hcooldown, hrationale⟩ := read_activatePayload m d c r
  have hmember : (command sequence stamp "activate_creative"
      (some (activatePayload m d c (some r)))).get? "activate_creative" =
        some (activatePayload m d c (some r)) := by simp [command, Dict.find]
  have hpayload := (activatePayload_valid hvalid hmember).1
  rw [handleRaw_fresh rt t hvalid header_command hid (by simpa using hseq), CommandHandler.dispatch,
    if_pos rfl, CommandHandler.handleActivateCreative_of_payload rt _ hpayload hmanifest hdwell t,
    hcooldown, hrationale]

end Handler

end AdaptiveAdvertisement.System
