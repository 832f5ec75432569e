import AdaptiveAdvertisement.AudienceState.ObservationStore

/-!
# The observation consumer (`audience_state/observation_consumer.py`)

`process` 62-95: a valid observation with a new `message_id` enters the window.
-/

namespace AdaptiveAdvertisement.AudienceState
open Library Contracts

def maxSeenIds : ℕ := 5000

structure ObservationConsumer where
  window : ObservationWindow
  inbox : Inbox := {}

namespace ObservationConsumer

variable {τ : Type}

def process (cd : Codec τ) (c : ObservationConsumer) (raw : τ) (t : AddClock) :
    ObservationConsumer × Except Raised Bool :=
  match c.inbox.receive cvObservation "message_id" maxSeenIds (cd.loads raw) with
  | (inbox, .error e) => ({ c with inbox := inbox }, .error e)
  | (inbox, .ok none) => ({ c with inbox := inbox }, .ok false)
  | (inbox, .ok (some msg)) => ({ window := c.window.add msg t, inbox := inbox }, .ok true)

theorem process_invalid {cd : Codec τ} {c : ObservationConsumer} {raw : τ} {msg : Json}
    {t : AddClock} (hload : cd.loads raw = .value msg) (h : cvObservation msg = false) :
    c.process cd raw t = ({ c with inbox := c.inbox.reject }, .ok false) := by
  simp [process, hload, Inbox.receive_invalid h]

theorem process_fresh {cd : Codec τ} {c : ObservationConsumer} {raw : τ} {msg : Json}
    {id : String} {t : AddClock} (hload : cd.loads raw = .value msg) (h : cvObservation msg = true)
    (hid : msg.get? "message_id" = some (.str id)) (hfresh : c.inbox.seenIds.contains id = false) :
    c.process cd raw t =
      ({ window := c.window.add ⟨msg, h⟩ t, inbox := c.inbox.accept maxSeenIds id },
        .ok true) := by
  simp [process, hload, Inbox.receive_fresh h hid hfresh]

end ObservationConsumer

end AdaptiveAdvertisement.AudienceState
