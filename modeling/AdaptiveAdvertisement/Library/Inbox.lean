import AdaptiveAdvertisement.Library.JsonSchema

/-!
# Inboxes of an at-least-once channel

The receiver of a topic parses and validates each text, drops a message whose id it
remembers, and hands on the others. It remembers a bounded number of ids.
-/

namespace AdaptiveAdvertisement.Library

def Valid (schema : Schema) : Type := { msg : Json // schema msg = true }

structure Inbox where
  seenIds : Dict String Bool := Dict.empty
  totalReceived : ℕ := 0
  totalRejected : ℕ := 0

namespace Inbox

def reject (b : Inbox) : Inbox := { b with totalRejected := b.totalRejected + 1 }

def accept (b : Inbox) (cap : ℕ) (id : String) : Inbox :=
  { b with seenIds := b.seenIds.remember cap id, totalReceived := b.totalReceived + 1 }

/-- The message to hand on, if there is one. A duplicate counts as neither received nor
rejected. -/
def receive (schema : Schema) (idKey : String) (cap : ℕ) (b : Inbox) :
    Loaded → Inbox × Except Raised (Option (Valid schema))
  | .decodeError => (b.reject, .ok none)
  | .unicodeError => (b.reject, .ok none)
  | .raised => (b, .error .loadError)
  | .value msg =>
    if h : schema msg = true then
      match strMember msg idKey with
      | .error e => (b, .error e)
      | .ok id =>
        if b.seenIds.contains id then (b, .ok none) else (b.accept cap id, .ok (some ⟨msg, h⟩))
    else (b.reject, .ok none)

variable {schema : Schema} {idKey : String} {cap : ℕ} {b : Inbox} {msg : Json}

theorem receive_invalid (h : schema msg = false) :
    receive schema idKey cap b (.value msg) = (b.reject, .ok none) := by
  simp [receive, h]

theorem receive_fresh {id : String} (hvalid : schema msg = true)
    (hid : msg.get? idKey = some (.str id)) (hfresh : b.seenIds.contains id = false) :
    receive schema idKey cap b (.value msg) = (b.accept cap id, .ok (some ⟨msg, hvalid⟩)) := by
  simp [receive, hvalid, strMember_of_get? hid, hfresh]

/-- A message that is handed on has a new id, which is remembered; otherwise the ids stay. -/
theorem receive_cases (schema : Schema) (idKey : String) (cap : ℕ) (b : Inbox) (l : Loaded) :
    (∃ (v : Valid schema) (id : String), strMember v.1 idKey = .ok id ∧
      id ∉ b.seenIds.keys ∧
      receive schema idKey cap b l = (b.accept cap id, .ok (some v))) ∨
    ((receive schema idKey cap b l).1.seenIds = b.seenIds ∧
      ∀ v, (receive schema idKey cap b l).2 ≠ .ok (some v)) := by
  cases l with
  | decodeError => exact Or.inr ⟨rfl, fun v h => by cases h⟩
  | unicodeError => exact Or.inr ⟨rfl, fun v h => by cases h⟩
  | raised => exact Or.inr ⟨rfl, fun v h => by cases h⟩
  | value msg =>
    by_cases hvalid : schema msg = true
    · cases hid : strMember msg idKey with
      | error e => exact Or.inr (by simp [receive, hvalid, hid])
      | ok id =>
        cases hseen : b.seenIds.contains id with
        | true => exact Or.inr (by simp [receive, hvalid, hid, hseen])
        | false =>
          have hnew : id ∉ b.seenIds.keys := (Dict.contains_eq_false_iff _ _).mp hseen
          exact Or.inl ⟨⟨msg, hvalid⟩, id, hid, hnew, by simp [receive, hvalid, hid, hseen]⟩
    · exact Or.inr (by simp [receive, hvalid, reject])

end Inbox

end AdaptiveAdvertisement.Library
