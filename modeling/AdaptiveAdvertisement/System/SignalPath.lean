import AdaptiveAdvertisement.AudienceState.SignalValidity
import AdaptiveAdvertisement.DecisionOptimizer.SignalConsumer

/-!
# From the observation window to the decision optimizer

What the signal publisher builds of a window, taken by the signal consumer. Observations may
expire between the queries that one signal is built from.
-/

namespace AdaptiveAdvertisement.System
open Library Contracts AudienceState DecisionOptimizer

/-- The clock does not go back, from the observations of the window to the last query. -/
def ClockOrdered (w : ObservationWindow) (t : SignalClock) : Prop :=
  (w.observations.map Stored.receivedAt ++ t.readings).Pairwise (· ≤ ·)

instance (w : ObservationWindow) (t : SignalClock) : Decidable (ClockOrdered w t) :=
  inferInstanceAs (Decidable (List.Pairwise _ _))

/-- There is a signal exactly where the window is not empty at the first query; it meets ICD-3,
is taken by every consumer that has not seen its id, and no check fails. -/
structure PublishesValid (p : SignalPublisher) (ids : SourceIds) (w : ObservationWindow)
    (t : SignalClock) (stamp : SignalStamp) : Prop where
  none_iff : (p.buildSignal ids w t stamp).2.2 = none ↔ (w.prune t.state).observations = []
  valid : ∀ msg, (p.buildSignal ids w t stamp).2.2 = some msg → audienceStateSignal msg = true
  accepted : ∀ msg, (p.buildSignal ids w t stamp).2.2 = some msg →
    ∀ (τ : Type) (cd : Codec τ) (c : SignalConsumer) (now : ℚ),
      c.inbox.seenIds.contains stamp.messageId = false →
        (c.process cd (cd.dumps msg) now).2 = .ok true
  no_failure : (p.buildSignal ids w t stamp).1.validationFailures = p.validationFailures

theorem consumer_accepts {τ : Type} (cd : Codec τ) {c : SignalConsumer} {msg : Json} {id : String}
    (now : ℚ) (h : audienceStateSignal msg = true) (hid : msg.get? "message_id" = some (.str id))
    (hfresh : c.inbox.seenIds.contains id = false) :
    (c.process cd (cd.dumps msg) now).2 = .ok true := by
  simp [SignalConsumer.process, cd.loads_dumps msg, Inbox.receive_fresh h hid hfresh]

theorem received_before_age {w : ObservationWindow} {t : SignalClock} (h : ClockOrdered w t) :
    ∀ o ∈ w.observations, o.receivedAt ≤ t.age := by
  intro o ho
  obtain ⟨-, -, hbefore⟩ := List.pairwise_append.mp h
  exact hbefore _ (List.mem_map_of_mem ho) t.age (by simp [SignalClock.readings])

theorem buildSignal_publishesValid (p : SignalPublisher) (ids : SourceIds) (w : ObservationWindow)
    (t : SignalClock) (stamp : SignalStamp) (hclock : ClockOrdered w t) :
    PublishesValid p ids w t stamp := by
  rcases buildSignal_cases p ids t stamp (received_before_age hclock) with
    ⟨hempty, hbuild⟩ | ⟨hne, w', msg, hbuild, hvalid, hid⟩
  · refine ⟨?_, ?_, ?_, ?_⟩
    · simp [hbuild, hempty]
    · simp [hbuild]
    · simp [hbuild]
    · rw [hbuild]
  · refine ⟨?_, fun msg' hmsg => ?_, fun msg' hmsg τ cd c now hfresh => ?_, ?_⟩
    · simp [hbuild, hne]
    · rw [hbuild] at hmsg
      obtain rfl := Option.some.inj hmsg
      exact hvalid
    · rw [hbuild] at hmsg
      obtain rfl := Option.some.inj hmsg
      exact consumer_accepts cd now hvalid hid hfresh
    · rw [hbuild]

/-! ### An observation that expires between two queries -/

def pilotIds : SourceIds :=
  ⟨"default-tenant", "site-01", "cam-01",
    by decide +kernel, by decide +kernel, by decide +kernel⟩

def pilotStamp : SignalStamp :=
  ⟨"4f3a9c1e-2b7d-4e60-8a55-1c2d3e4f5a6b", "2026-01-01T00:00:05.000Z", pilotId_length⟩

/-- The observation of time 0 is in the window of 5 s for the state, and for no later query. -/
def expiring : SignalClock := ⟨5, 51 / 10, 51 / 10, 51 / 10, 51 / 10, 51 / 10⟩

theorem expiring_publishesValid : PublishesValid {} pilotIds withheldWindow expiring pilotStamp :=
  buildSignal_publishesValid {} pilotIds withheldWindow expiring pilotStamp (by decide +kernel)

end AdaptiveAdvertisement.System
