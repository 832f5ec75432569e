import AdaptiveAdvertisement.Contracts
import Mathlib.Data.Finset.Card
import Mathlib.Data.Finset.Filter

/-!
# The player gateway (`decision_optimizer/player_gateway.py`)

The server side of the command channel. A command gets the next sequence number, is checked
against ICD-4 and goes to every open connection. Connections are names of a type `κ`.

Source lines: the three senders 128-171, `_next_command` 180-202, `_broadcast` 204-237. A
`CommandStamp` is what `_next_command` draws: `str(uuid4())` and the clock.
-/

namespace AdaptiveAdvertisement.DecisionOptimizer
open Library Contracts

structure PlayerGateway (κ : Type) where
  connections : Finset κ := ∅
  sequence : ℕ := 0

structure CommandStamp where
  commandId : String
  producedAt : String
  uuid_length : commandId.length = 36

structure Broadcast (κ τ : Type) where
  raw : τ
  receivers : Finset κ

def sentCount {κ τ : Type} : Option (Broadcast κ τ) → ℕ
  | some b => b.receivers.card
  | none => 0

def command (sequence : ℕ) (stamp : CommandStamp) (commandType : String) (payload : Option Json) :
    Json :=
  .obj ([("schema_version", .str "1.0.0"), ("command_id", .str stamp.commandId),
      ("sequence_number", .int sequence), ("produced_at", .str stamp.producedAt),
      ("command_type", .str commandType)] ++
    (payload.map fun p => (commandType, p)).toList)

/-- `send_activate_creative` leaves out a zero cooldown and an empty rationale. -/
def activatePayload (manifestId : String) (minDwellMs cooldownMs : ℤ)
    (rationale : Option String) : Json :=
  .obj ([("manifest_id", .str manifestId), ("min_dwell_ms", .int minDwellMs)] ++
    (if cooldownMs = 0 then [] else [("cooldown_ms", .int cooldownMs)]) ++
    match rationale with
    | some r => if r = "" then [] else [("rationale", .str r)]
    | none => [])

def reasonPayload : Option String → Option Json
  | some r => if r = "" then none else some (.obj [("reason", .str r)])
  | none => none

namespace PlayerGateway

variable {κ τ : Type} [DecidableEq κ]

/-- `_broadcast` with `_next_command`; `alive` tells which sends succeed. -/
def broadcast (cd : Codec τ) (g : PlayerGateway κ) (commandType : String) (payload : Option Json)
    (stamp : CommandStamp) (alive : κ → Bool) : PlayerGateway κ × Option (Broadcast κ τ) :=
  if g.connections = ∅ then (g, none)
  else
    let msg := command (g.sequence + 1) stamp commandType payload
    if playerCommand msg then
      let receivers := g.connections.filter fun ws => alive ws
      ({ connections := receivers, sequence := g.sequence + 1 }, some ⟨cd.dumps msg, receivers⟩)
    -- a command that fails the contract is not sent, and the sequence stays as it was
    else (g, none)

def sendActivateCreative (cd : Codec τ) (g : PlayerGateway κ) (manifestId : String)
    (minDwellMs cooldownMs : ℤ) (rationale : Option String) :
    CommandStamp → (κ → Bool) → PlayerGateway κ × Option (Broadcast κ τ) :=
  g.broadcast cd "activate_creative"
    (some (activatePayload manifestId minDwellMs cooldownMs rationale))

def sendFreeze (cd : Codec τ) (g : PlayerGateway κ) (reason : Option String) :
    CommandStamp → (κ → Bool) → PlayerGateway κ × Option (Broadcast κ τ) :=
  g.broadcast cd "freeze" (reasonPayload reason)

def sendSafeMode (cd : Codec τ) (g : PlayerGateway κ) (reason : Option String) :
    CommandStamp → (κ → Bool) → PlayerGateway κ × Option (Broadcast κ τ) :=
  g.broadcast cd "safe_mode" (reasonPayload reason)

/-- A command goes out where there is a connection and the command meets the contract. -/
theorem broadcast_eq (cd : Codec τ) (g : PlayerGateway κ) (commandType : String)
    (payload : Option Json) (stamp : CommandStamp) (alive : κ → Bool) :
    g.broadcast cd commandType payload stamp alive =
      if g.connections ≠ ∅ ∧
          playerCommand (command (g.sequence + 1) stamp commandType payload) = true then
        (⟨g.connections.filter fun ws => alive ws, g.sequence + 1⟩,
          some ⟨cd.dumps (command (g.sequence + 1) stamp commandType payload),
            g.connections.filter fun ws => alive ws⟩)
      else (g, none) := by
  by_cases hnone : g.connections = ∅
  · simp [broadcast, hnone]
  · cases hvalid : playerCommand (command (g.sequence + 1) stamp commandType payload) with
    | false => simp [broadcast, hnone, hvalid]
    | true => simp [broadcast, hnone, hvalid]

/-- A broadcast either changes nothing, or is a command that meets the contract. -/
theorem broadcast_cases (cd : Codec τ) (g : PlayerGateway κ) (commandType : String)
    (payload : Option Json) (stamp : CommandStamp) (alive : κ → Bool) :
    g.broadcast cd commandType payload stamp alive = (g, none) ∨
      playerCommand (command (g.sequence + 1) stamp commandType payload) = true ∧
        g.broadcast cd commandType payload stamp alive =
          (⟨g.connections.filter fun ws => alive ws, g.sequence + 1⟩,
            some ⟨cd.dumps (command (g.sequence + 1) stamp commandType payload),
              g.connections.filter fun ws => alive ws⟩) := by
  rw [broadcast_eq]
  by_cases hsent : g.connections ≠ ∅ ∧
      playerCommand (command (g.sequence + 1) stamp commandType payload) = true
  · exact Or.inr ⟨hsent.2, if_pos hsent⟩
  · exact Or.inl (if_neg hsent)

end PlayerGateway

end AdaptiveAdvertisement.DecisionOptimizer
