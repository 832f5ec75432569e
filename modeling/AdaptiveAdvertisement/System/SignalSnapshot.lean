import AdaptiveAdvertisement.System.SignalPath

/-!
# The observations behind one signal

`build_signal` (`signal_publisher.py:67-123`) asks the window five times, and every query prunes it
again by a later reading of the clock.
-/

namespace AdaptiveAdvertisement.System
open Library Contracts AudienceState

/-- The observations that each of the queries computes from, in their order. -/
structure Queried where
  state : List Stored
  age : List Stored
  degraded : List Stored
  demographics : List Stored
  attention : List Stored

def queried (w : ObservationWindow) (t : SignalClock) : Queried where
  state := (w.prune t.state).observations
  age := ((w.prune t.state).prune t.agePrune).observations
  degraded := (((w.prune t.state).prune t.agePrune).prune t.degraded).observations
  demographics :=
    ((((w.prune t.state).prune t.agePrune).prune t.degraded).prune t.demographics).observations
  attention := (((((w.prune t.state).prune t.agePrune).prune t.degraded).prune
    t.demographics).prune t.attention).observations

def ageMs (t : SignalClock) (o : Stored) : ℤ := truncate ((t.age - o.receivedAt) * 1000)

/-- A returned signal has all its parts from the same observations, and the age of the newest. -/
def OneSnapshot (p : SignalPublisher) (ids : SourceIds) (w : ObservationWindow) (t : SignalClock)
    (stamp : SignalStamp) : Prop :=
  ∀ msg, (p.buildSignal ids w t stamp).2.2 = some msg → ∃ os state newest,
    queried w t = ⟨os, os, os, os, os⟩ ∧
    stateOf w.config (os.map Stored.data) = some state ∧
    (newest ∈ os ∧ ∀ o ∈ os, o.receivedAt ≤ newest.receivedAt) ∧
    msg = signal ids stamp state (ageMs t newest) (anyPipelineDegraded (os.map Stored.data))
      (demographicsOf w.config (os.map Stored.data))
      (attentionOf w.config.averages (os.map Stored.data))

/-- No observation of the first query expires before the last. -/
def NoneExpires (w : ObservationWindow) (t : SignalClock) : Prop :=
  ∀ o ∈ w.observations, t.state - (w.config.windowMs : ℚ) / 1000 ≤ o.receivedAt →
    t.attention - (w.config.windowMs : ℚ) / 1000 ≤ o.receivedAt

/-! ### What the signal is built from -/

section Built

variable {p : SignalPublisher} {ids : SourceIds} {w : ObservationWindow} {t : SignalClock}
  {stamp : SignalStamp}

theorem buildSignal_queried {msg : Json} (h : (p.buildSignal ids w t stamp).2.2 = some msg) :
    ∃ state, stateOf w.config ((queried w t).state.map Stored.data) = some state ∧
      msg = signal ids stamp state (((queried w t).age.getLast?.map (ageMs t)).getD 0)
        (anyPipelineDegraded ((queried w t).degraded.map Stored.data))
        (demographicsOf w.config ((queried w t).demographics.map Stored.data))
        (attentionOf w.config.averages ((queried w t).attention.map Stored.data)) := by
  unfold SignalPublisher.buildSignal at h
  cases hstate : stateOf w.config (w.prune t.state).data with
  | none => simp [ObservationWindow.computeState, hstate] at h
  | some state =>
    refine ⟨state, hstate, ?_⟩
    simp only [ObservationWindow.computeState, hstate] at h
    split_ifs at h with hvalid
    exact (Option.some.inj h).symm

theorem mem_prune_iff (w : ObservationWindow) (now : ℚ) (o : Stored) :
    o ∈ (w.prune now).observations ↔
      o ∈ w.observations ∧ now - (w.config.windowMs : ℚ) / 1000 ≤ o.receivedAt := by
  rw [ObservationWindow.prune, List.mem_filter, decide_eq_true_iff]

/-- A window of which nothing has expired is left as it is. -/
theorem prune_of_fresh {now : ℚ}
    (h : ∀ o ∈ w.observations, now - (w.config.windowMs : ℚ) / 1000 ≤ o.receivedAt) :
    w.prune now = w := by
  have hkeep : w.observations.filter
      (fun o => decide (now - (w.config.windowMs : ℚ) / 1000 ≤ o.receivedAt)) =
        w.observations :=
    List.filter_eq_self.mpr fun o ho => decide_eq_true (h o ho)
  unfold ObservationWindow.prune
  rw [hkeep]

theorem readings_ordered (h : ClockOrdered w t) :
    t.agePrune ≤ t.attention ∧ t.degraded ≤ t.attention ∧
      t.demographics ≤ t.attention := by
  obtain ⟨-, hreadings, -⟩ := List.pairwise_append.mp h
  simp only [SignalClock.readings, List.pairwise_cons, List.mem_cons, List.not_mem_nil, or_false,
    forall_eq_or_imp, forall_eq] at hreadings
  obtain ⟨-, ⟨-, -, -, hprune⟩, -, ⟨-, hdegraded⟩, hdemographics, -⟩ := hreadings
  exact ⟨hprune, hdegraded, hdemographics⟩

theorem queried_of_noneExpires (hclock : ClockOrdered w t) (h : NoneExpires w t) :
    queried w t = ⟨(w.prune t.state).observations, (w.prune t.state).observations,
      (w.prune t.state).observations, (w.prune t.state).observations,
      (w.prune t.state).observations⟩ := by
  obtain ⟨hprune, hdegraded, hdemographics⟩ := readings_ordered hclock
  have hkept : ∀ now, now ≤ t.attention → (w.prune t.state).prune now = w.prune t.state := by
    intro now hnow
    refine prune_of_fresh fun o ho => ?_
    obtain ⟨hmem, hfresh⟩ := (mem_prune_iff w t.state o).mp ho
    have hlast := h o hmem hfresh
    have hconfig : (w.prune t.state).config = w.config := rfl
    rw [hconfig]
    linarith
  simp only [queried, hkept _ hprune, hkept _ hdegraded, hkept _ hdemographics, hkept _ le_rfl]

theorem noneExpires_of_queried (h : (queried w t).attention = (queried w t).state) :
    NoneExpires w t := by
  intro o ho hfresh
  have hstate : o ∈ (queried w t).state := (mem_prune_iff w t.state o).mpr ⟨ho, hfresh⟩
  rw [← h] at hstate
  exact ((mem_prune_iff _ t.attention o).mp hstate).2

/-- The last one that came is the newest. -/
theorem newest_of_ordered (h : ClockOrdered w t) {newest : Stored}
    (hlast : (w.prune t.state).observations.getLast? = some newest) :
    ∀ o ∈ (w.prune t.state).observations, o.receivedAt ≤ newest.receivedAt := by
  obtain ⟨hordered, -, -⟩ := List.pairwise_append.mp h
  have hpruned : ((w.prune t.state).observations.map Stored.receivedAt).Pairwise (· ≤ ·) :=
    hordered.sublist (List.filter_sublist.map _)
  obtain ⟨older, holder⟩ := List.getLast?_eq_some_iff.mp hlast
  intro o ho
  rw [holder, List.mem_append, List.mem_singleton] at ho
  rw [holder, List.map_append, List.pairwise_append] at hpruned
  rcases ho with ho | rfl
  · exact hpruned.2.2 _ (List.mem_map_of_mem ho) _ List.mem_cons_self
  · exact le_rfl

end Built

/-! ### The law -/

/-- A signal is one snapshot exactly where nothing expires while it is built. -/
theorem oneSnapshot_iff (p : SignalPublisher) (ids : SourceIds) (w : ObservationWindow)
    (t : SignalClock) (stamp : SignalStamp) (hclock : ClockOrdered w t) :
    OneSnapshot p ids w t stamp ↔ NoneExpires w t := by
  refine ⟨fun h => ?_, fun h msg hmsg => ?_⟩
  · rcases buildSignal_cases p ids t stamp (received_before_age hclock) with
      ⟨hempty, -⟩ | ⟨-, w', msg, hbuild, -, -⟩
    · intro o ho hfresh
      have hmem := (mem_prune_iff w t.state o).mpr ⟨ho, hfresh⟩
      simp [hempty] at hmem
    · obtain ⟨os, state, newest, hsame, -⟩ := h msg (by rw [hbuild])
      exact noneExpires_of_queried (by rw [hsame])
  · obtain ⟨state, hstate, hsignal⟩ := buildSignal_queried hmsg
    have hsame := queried_of_noneExpires hclock h
    rw [hsame] at hstate hsignal
    cases hlast : (w.prune t.state).observations.getLast? with
    | none =>
      rw [List.getLast?_eq_none_iff.mp hlast] at hstate
      simp [stateOf] at hstate
    | some newest =>
      rw [hlast, Option.map_some, Option.getD_some] at hsignal
      exact ⟨_, state, newest, hsame, hstate,
        ⟨List.mem_of_getLast? hlast, newest_of_ordered hclock hlast⟩, hsignal⟩

/-- All queries at one time. -/
theorem oneSnapshot_at : OneSnapshot {} pilotIds withheldWindow (.at 5) pilotStamp :=
  (oneSnapshot_iff {} pilotIds withheldWindow (.at 5) pilotStamp (by decide +kernel)).mpr
    fun _ _ h => h

/-- The only observation expires after the state was computed, and an age of 0 is reported. -/
theorem expiring_mixed : ¬ ∀ (w : ObservationWindow) (t : SignalClock), ClockOrdered w t →
    OneSnapshot {} pilotIds w t pilotStamp := by
  intro h
  have hbuilt : ((({} : SignalPublisher).buildSignal pilotIds withheldWindow expiring
      pilotStamp).2.2).isSome = true := by decide +kernel
  obtain ⟨msg, hmsg⟩ := Option.isSome_iff_exists.mp hbuilt
  obtain ⟨os, state, newest, hsame, -, ⟨hnewest, -⟩, -⟩ :=
    h withheldWindow expiring (by decide +kernel) msg hmsg
  have hempty : (queried withheldWindow expiring).attention = [] := by
    have hnone : (queried withheldWindow expiring).attention.isEmpty = true := by decide +kernel
    exact List.isEmpty_iff.mp hnone
  rw [hsame] at hempty
  simp [show os = [] from hempty] at hnewest

end AdaptiveAdvertisement.System
