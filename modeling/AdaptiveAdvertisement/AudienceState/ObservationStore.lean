import AdaptiveAdvertisement.Contracts
import AdaptiveAdvertisement.Library.Averages
import AdaptiveAdvertisement.Library.Inbox

/-!
# The observation window (`audience_state/observation_store.py`)

A sliding window over the ICD-2 observations of the last `window_ms`. Only validated
observations enter it. `add` 70-74 takes two readings of the monotonic clock, one in `_prune`
274-276 and the receipt time.
-/

namespace AdaptiveAdvertisement.AudienceState
open Library Contracts

/-- The arguments of `ObservationWindow.__init__` with the checks it makes of them. `averages` is
the arithmetic of the platform. -/
structure WindowConfig where
  windowMs : ℤ
  minStability : ℤ
  confThreshold : ℚ
  averages : Averages
  windowMs_min : 100 ≤ windowMs
  minStability_min : 1 ≤ minStability
  confThreshold_range : 0 ≤ confThreshold ∧ confThreshold ≤ 1

structure Stored where
  data : Valid cvObservation
  receivedAt : ℚ

structure ObservationWindow where
  config : WindowConfig
  observations : List Stored := []
  totalAdded : ℕ := 0

structure AddClock where
  prune : ℚ
  received : ℚ

namespace ObservationWindow

def prune (w : ObservationWindow) (now : ℚ) : ObservationWindow :=
  { w with
    observations := w.observations.filter fun o =>
      decide (now - (w.config.windowMs : ℚ) / 1000 ≤ o.receivedAt) }

def add (w : ObservationWindow) (observation : Valid cvObservation) (t : AddClock) :
    ObservationWindow :=
  { w.prune t.prune with
    observations := (w.prune t.prune).observations ++ [⟨observation, t.received⟩]
    totalAdded := w.totalAdded + 1 }

end ObservationWindow

end AdaptiveAdvertisement.AudienceState
