import AdaptiveAdvertisement.Contracts
import AdaptiveAdvertisement.Library.Inbox

/-!
# The signal consumer (`decision_optimizer/signal_consumer.py`)

`process` 69-101 and `signal_age_ms` 114-121: the latest ICD-3 signal and when it came.
-/

namespace AdaptiveAdvertisement.DecisionOptimizer
open Library Contracts

def maxSeenIds : ℕ := 5000

structure SignalConsumer where
  inbox : Inbox := {}
  latest : Option (Valid audienceStateSignal) := none
  latestReceivedAt : Option ℚ := none

namespace SignalConsumer

variable {τ : Type}

def process (cd : Codec τ) (c : SignalConsumer) (raw : τ) (now : ℚ) :
    SignalConsumer × Except Raised Bool :=
  match c.inbox.receive audienceStateSignal "message_id" maxSeenIds (cd.loads raw) with
  | (inbox, .error e) => ({ c with inbox := inbox }, .error e)
  | (inbox, .ok none) => ({ c with inbox := inbox }, .ok false)
  | (inbox, .ok (some msg)) =>
    ({ inbox := inbox, latest := some msg, latestReceivedAt := some now }, .ok true)

def signalAgeMs (c : SignalConsumer) (now : ℚ) : Option ℤ :=
  c.latestReceivedAt.map fun t => truncate ((now - t) * 1000)

end SignalConsumer

end AdaptiveAdvertisement.DecisionOptimizer
