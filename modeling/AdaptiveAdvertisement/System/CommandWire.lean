import AdaptiveAdvertisement.DecisionOptimizer.PlayerGateway
import AdaptiveAdvertisement.Player.CommandOrder
import AdaptiveAdvertisement.System.CommandChannel
import Mathlib.Data.List.Forall2

/-!
# Commands on the wire

The gateway, any number of players `π`, and the sockets `κ` between them with the frames in
flight. The gateway accepts a connection before the player's `connect` returns and notices a
closed one at some later time; a restarted optimizer starts a new gateway, while frames of its
predecessor may still arrive. A socket is never used again.
-/

namespace AdaptiveAdvertisement.System
open Library Contracts Player DecisionOptimizer

/-- The senders of the gateway (`player_gateway.py` 128-171) with their arguments. -/
inductive Order where
  | activateCreative (manifestId : String) (minDwellMs cooldownMs : ℤ) (rationale : Option String)
  | freeze (reason : Option String)
  | safeMode (reason : Option String)

/-- Where `CommandHandler.run` stands: no session, in `connect`, or in a session. -/
inductive Link (κ : Type) where
  | down
  | dialing (ws : κ)
  | up (ws : κ)

structure Client (κ : Type) where
  handler : CommandHandler
  link : Link κ := .down

structure CommandWire (π κ τ : Type) where
  gateway : PlayerGateway κ := {}
  clients : π → Client κ
  inFlight : κ → List τ := fun _ => []
  used : Finset κ := ∅
  issued : List String := []

inductive WireStep (π κ : Type) where
  | send (order : Order) (stamp : CommandStamp) (alive : κ → Bool)
  | accept (p : π) (ws : κ)
  | connected (p : π)
  | hangUp (p : π)
  | drop (ws : κ)
  | restart
  | deliver (p : π) (t : FrameClock)
  | outside (p : π) (sm : StateMachine) (store : ManifestStore)

/-- What is seen of a step: a frame sent to some sockets, or a frame delivered to a player, with
the command it hands to `_dispatch` and how `handle_raw` ends. -/
inductive WireEvent (π κ τ : Type) where
  | quiet
  | sent (raw : τ) (receivers : Finset κ)
  | delivered (p : π) (ws : κ) (raw : τ) (admitted : Option Header)
      (outcome : Except Raised Outcome)

def WireStep.commandId? {π κ : Type} : WireStep π κ → Option String
  | .send _ stamp _ => some stamp.commandId
  | _ => none

namespace Order

variable {κ τ : Type} [DecidableEq κ]

def commandType : Order → String
  | .activateCreative _ _ _ _ => "activate_creative"
  | .freeze _ => "freeze"
  | .safeMode _ => "safe_mode"

def payload : Order → Option Json
  | .activateCreative m d c r => some (activatePayload m d c r)
  | .freeze reason => reasonPayload reason
  | .safeMode reason => reasonPayload reason

def send (cd : Codec τ) (g : PlayerGateway κ) (stamp : CommandStamp) (alive : κ → Bool) :
    Order → PlayerGateway κ × Option (Broadcast κ τ)
  | .activateCreative m d c r => g.sendActivateCreative cd m d c r stamp alive
  | .freeze reason => g.sendFreeze cd reason stamp alive
  | .safeMode reason => g.sendSafeMode cd reason stamp alive

theorem send_eq (cd : Codec τ) (g : PlayerGateway κ) (stamp : CommandStamp) (alive : κ → Bool)
    (order : Order) :
    order.send cd g stamp alive =
      g.broadcast cd order.commandType order.payload stamp alive := by
  cases order with
  | activateCreative m d c r => rfl
  | freeze reason => rfl
  | safeMode reason => rfl

/-- The command that `_next_command` constructs. -/
def built (order : Order) (g : PlayerGateway κ) (stamp : CommandStamp) : Json :=
  command (g.sequence + 1) stamp order.commandType order.payload

end Order

namespace CommandWire

variable {π κ τ : Type} [DecidableEq π] [DecidableEq κ] (rt : Runtime τ)

def setClient (s : CommandWire π κ τ) (p : π) (c : Client κ) : CommandWire π κ τ :=
  { s with clients := Function.update s.clients p c }

def setLink (s : CommandWire π κ τ) (p : π) (link : Link κ) : CommandWire π κ τ :=
  s.setClient p { s.clients p with link := link }

def send (s : CommandWire π κ τ) (order : Order) (stamp : CommandStamp) (alive : κ → Bool) :
    CommandWire π κ τ × WireEvent π κ τ :=
  match order.send rt.toCodec s.gateway stamp alive with
  | (gateway, some b) =>
    ({ s with
        gateway := gateway
        inFlight := fun ws => if ws ∈ b.receivers then s.inFlight ws ++ [b.raw] else s.inFlight ws
        issued := stamp.commandId :: s.issued }, .sent b.raw b.receivers)
  | (gateway, none) => ({ s with gateway := gateway }, .quiet)

def accept (s : CommandWire π κ τ) (p : π) (ws : κ) : CommandWire π κ τ :=
  match (s.clients p).link with
  | .down =>
    if ws ∈ s.used then s
    else
      { s.setLink p (.dialing ws) with
        gateway := { s.gateway with connections := insert ws s.gateway.connections }
        used := insert ws s.used }
  | _ => s

def connected (s : CommandWire π κ τ) (p : π) : CommandWire π κ τ :=
  match (s.clients p).link with
  | .dialing ws => s.setClient p ⟨(s.clients p).handler.resetSession, .up ws⟩
  | _ => s

/-- The player takes the first frame of its session. An exception ends the session. -/
def deliver (s : CommandWire π κ τ) (p : π) (t : FrameClock) :
    CommandWire π κ τ × WireEvent π κ τ :=
  match (s.clients p).link with
  | .up ws =>
    match s.inFlight ws with
    | raw :: rest =>
      let handler := (s.clients p).handler
      let r := handler.handleRaw rt raw t
      let link := match r.2 with
        | .ok _ => Link.up ws
        | .error _ => Link.down
      ({ s.setClient p ⟨r.1, link⟩ with inFlight := Function.update s.inFlight ws rest },
        .delivered p ws raw (handler.admits rt raw) r.2)
    | [] => (s, .quiet)
  | _ => (s, .quiet)

def step (s : CommandWire π κ τ) : WireStep π κ → CommandWire π κ τ × WireEvent π κ τ
  | .send order stamp alive => s.send rt order stamp alive
  | .accept p ws => (s.accept p ws, .quiet)
  | .connected p => (s.connected p, .quiet)
  | .hangUp p => (s.setLink p .down, .quiet)
  | .drop ws =>
    ({ s with gateway := { s.gateway with connections := s.gateway.connections.erase ws } }, .quiet)
  | .restart => ({ s with gateway := {} }, .quiet)
  | .deliver p t => s.deliver rt p t
  | .outside p sm store =>
    (s.setClient p
      ⟨{ (s.clients p).handler with sm := sm, store := store }, (s.clients p).link⟩, .quiet)

end CommandWire

section Machine

variable {π κ τ : Type} [DecidableEq π] [DecidableEq κ]

def wire (rt : Runtime τ) (sm : π → StateMachine) (store : π → ManifestStore) :
    Machine (CommandWire π κ τ) (WireStep π κ) (WireEvent π κ τ) where
  init := { clients := fun p => { handler := { sm := sm p, store := store p } } }
  step := fun s i => s.step rt i

/-! ### What is read off a log -/

def sentOn (ws : κ) (log : List (WireEvent π κ τ)) : List τ :=
  log.filterMap fun
    | .sent raw receivers => if ws ∈ receivers then some raw else none
    | _ => none

def deliveredOn (ws : κ) (log : List (WireEvent π κ τ)) : List τ :=
  log.filterMap fun
    | .delivered _ ws' raw _ _ => if ws' = ws then some raw else none
    | _ => none

/-- The commands that the player `p` has handed to `_dispatch`. -/
def dispatchedBy (p : π) (log : List (WireEvent π κ τ)) : List Header :=
  log.filterMap fun
    | .delivered p' _ _ admitted _ => if p' = p then admitted else none
    | _ => none

end Machine

end AdaptiveAdvertisement.System
