import AdaptiveAdvertisement.Player.ManifestStore
import AdaptiveAdvertisement.Player.StateInvariant

/-!
# The command handler (`player/command_handler.py`)

One text frame of the control connection is parsed, validated, checked for duplicates and
order, recorded, and dispatched to the state machine. Every exception that the code does
not catch is an `Except.error` of the model, so that "never raises" is a statement about it.

Source lines: `__init__` 62-78, with the state machine and the store that the handler holds;
`handle_raw` 81-127; `reset_session` 129-132; `_dispatch` 180-193; `_handle_activate_creative`
195-250; `_record` 258-264. `PlayEvent` is what an accepted activation schedules for publishing,
`FrameClock` the readings that one frame may take.
-/

namespace AdaptiveAdvertisement.Player
open Library Contracts

def maxSeenIds : ℕ := 5000

structure CommandHandler where
  sm : StateMachine
  store : ManifestStore
  lastSequence : ℤ := -1
  seenCommandIds : Dict String Bool := Dict.empty

structure PlayEvent where
  manifestId : String
  reason : Option String
  prevManifestId : Option String

structure FrameClock where
  utcNow : ℚ
  monotonic : ActivateClock

inductive Outcome where
  | parseError
  | schemaError
  | alreadyApplied
  | outOfOrder
  | dispatched (result : TransitionResult) (published : Option PlayEvent)

def Outcome.beforeDispatch : Outcome → Bool
  | .dispatched _ _ => false
  | _ => true

def Outcome.rejected : Outcome → Bool
  | .dispatched result _ => !result.accepted
  | _ => true

structure Header where
  commandId : String
  sequenceNumber : ℤ
  commandType : String

def header (msg : Json) : Except Raised Header := do
  let commandId ← strMember msg "command_id"
  let sequenceNumber ← intMember msg "sequence_number"
  let commandType ← strMember msg "command_type"
  return ⟨commandId, sequenceNumber, commandType⟩

def payloadOf (msg : Json) (key : String) : Json :=
  match msg.get? key with
  | some v => if v.truthy then v else .obj []
  | none => .obj []

def optStr (payload : Json) (key : String) : Option String :=
  (payload.get? key).bind Json.asStr?

namespace CommandHandler

variable {τ : Type}

def record (h : CommandHandler) (seq : ℤ) (commandId : String) : CommandHandler :=
  { h with lastSequence := seq, seenCommandIds := h.seenCommandIds.remember maxSeenIds commandId }

/-- The result that holds the screen when the store refuses a manifest (211-217, 227-233). -/
def refuse (sm : StateMachine) (reason : String) : TransitionResult where
  accepted := false
  newState := sm.state
  action := if sm.state ≠ .fallback then .hold else .showFallback
  manifestId := sm.activeManifestId
  reason := some reason

def activateManifest (rt : Runtime τ) (h : CommandHandler) (manifestId : String)
    (minDwellMs cooldownMs : ℤ) (rationale : Option String) (t : FrameClock) :
    Except Raised (StateMachine × TransitionResult × Option PlayEvent) :=
  match h.store.get manifestId with
  | none => .ok (h.sm, refuse h.sm "unknown_manifest", none)
  | some manifest =>
    match ManifestStore.checkManifest rt manifest t.utcNow with
    | .error e => .error e
    | .ok (some rejection) => .ok (h.sm, refuse h.sm rejection, none)
    | .ok none =>
      let r := h.sm.onActivateCreative manifestId minDwellMs cooldownMs rationale t.monotonic
      .ok (r.1, r.2,
        if r.2.accepted then some ⟨manifestId, rationale, h.sm.activeManifestId⟩ else none)

def handleActivateCreative (rt : Runtime τ) (h : CommandHandler) (msg : Json) (t : FrameClock) :
    Except Raised (StateMachine × TransitionResult × Option PlayEvent) := do
  let payload := payloadOf msg "activate_creative"
  let manifestId ← strMember payload "manifest_id"
  let minDwellMs ← intMember payload "min_dwell_ms"
  let cooldownMs := ((payload.get? "cooldown_ms").bind Json.asInt?).getD 0
  activateManifest rt h manifestId minDwellMs cooldownMs (optStr payload "rationale") t

def dispatch (rt : Runtime τ) (h : CommandHandler) (msg : Json) (commandType : String)
    (t : FrameClock) : Except Raised (StateMachine × TransitionResult × Option PlayEvent) :=
  if commandType = "activate_creative" then handleActivateCreative rt h msg t
  else if commandType = "freeze" then
    let r := h.sm.onFreeze (optStr (payloadOf msg "freeze") "reason")
    .ok (r.1, r.2, none)
  else if commandType = "safe_mode" then
    let r := h.sm.onSafeMode (optStr (payloadOf msg "safe_mode") "reason") t.monotonic.deactivated
    .ok (r.1, r.2, none)
  else if commandType = "clear_safe_mode" then
    let r := h.sm.onClearSafeMode
    .ok (r.1, r.2, none)
  else .error .valueError

/-- The rest of `handle_raw` once the message is valid. -/
def handleValid (rt : Runtime τ) (h : CommandHandler) (msg : Json) (t : FrameClock) :
    CommandHandler × Except Raised Outcome :=
  match header msg with
  | .error e => (h, .error e)
  | .ok hd =>
    if h.seenCommandIds.contains hd.commandId then (h, .ok .alreadyApplied)
    else if hd.sequenceNumber ≤ h.lastSequence then (h, .ok .outOfOrder)
    else
      -- recorded first: a dispatch that raises leaves the command marked as seen
      let h' := h.record hd.sequenceNumber hd.commandId
      match h'.dispatch rt msg hd.commandType t with
      | .error e => (h', .error e)
      | .ok (sm, result, event) => ({ h' with sm := sm }, .ok (.dispatched result event))

/-- `handle_raw`, for an `on_transition` that does not raise. -/
def handleRaw (rt : Runtime τ) (h : CommandHandler) (raw : τ) (t : FrameClock) :
    CommandHandler × Except Raised Outcome :=
  match rt.loads raw with
  | .decodeError => (h, .ok .parseError)
  | .unicodeError => (h, .error .loadError)
  | .raised => (h, .error .loadError)
  | .value msg =>
    if playerCommand msg then handleValid rt h msg t
    else (h, .ok .schemaError)

def resetSession (h : CommandHandler) : CommandHandler := { h with lastSequence := -1 }

end CommandHandler

end AdaptiveAdvertisement.Player
