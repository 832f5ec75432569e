import Mathlib.Algebra.Order.Field.Rat

/-!
# The restart ladder (`supervisor/restart_manager.py`, `supervisor/service_table.py`)

What the supervisor remembers of a service and how it decides whether to restart it. The
two terminal decisions, boot loop and escalation, are each reported once: the flag that
they set makes every later evaluation skip. Monotonic instants are rationals in seconds.

Source lines: `service_table.py` 15-60 for a service and its state; `restart_manager.py` 27-54 for
the decisions and the constructor, `evaluate` 56-118, `_docker_restart` 120-154.
-/

namespace AdaptiveAdvertisement.Supervisor

inductive Priority where
  | critical
  | high
  | medium
  deriving DecidableEq

structure ManagedService where
  name : String
  healthzUrl : String
  containerName : String
  priority : Priority

structure ServiceState where
  isHealthy : Bool := true
  consecutiveFailures : ℕ := 0
  restartCount : ℕ := 0
  restartTimestamps : List ℚ := []
  lastRestartAt : Option ℚ := none
  inBootLoop : Bool := false
  escalated : Bool := false

namespace ServiceState

def recordHealthy (st : ServiceState) : ServiceState :=
  { st with isHealthy := true, consecutiveFailures := 0 }

def recordFailure (st : ServiceState) : ServiceState :=
  { st with isHealthy := false, consecutiveFailures := st.consecutiveFailures + 1 }

def recordRestart (st : ServiceState) (now : ℚ) : ServiceState :=
  { st with
    restartCount := st.restartCount + 1
    restartTimestamps := st.restartTimestamps ++ [now]
    lastRestartAt := some now }

def pruneTimestamps (st : ServiceState) (windowS now : ℚ) : ServiceState :=
  { st with restartTimestamps := st.restartTimestamps.filter fun t => decide (now - windowS ≤ t) }

def Terminal (st : ServiceState) : Prop := st.inBootLoop = true ∨ st.escalated = true

instance (st : ServiceState) : Decidable st.Terminal := inferInstanceAs (Decidable (_ ∨ _))

@[simp] theorem recordHealthy_terminal (st : ServiceState) :
    st.recordHealthy.Terminal ↔ st.Terminal := Iff.rfl

@[simp] theorem recordFailure_terminal (st : ServiceState) :
    st.recordFailure.Terminal ↔ st.Terminal := Iff.rfl

end ServiceState

inductive RestartDecision where
  | restarted
  | bootLoop
  | escalated
  | skipped
  | dockerFailed
  deriving DecidableEq

structure RestartManager where
  restartThreshold : ℤ
  fastFailWindowS : ℚ
  bootLoopThreshold : ℤ
  failureThreshold : ℤ := 2
  dockerEnabled : Bool := true

inductive DockerOutcome where
  | exited (returncode : ℤ)
  | timedOut
  | osError

namespace RestartManager

def dockerRestart (m : RestartManager) (o : DockerOutcome) : Bool :=
  if m.dockerEnabled then
    match o with
    | .exited returncode => decide (returncode = 0)
    | .timedOut => false
    | .osError => false
  else true

def evaluate (m : RestartManager) (st : ServiceState) (now : ℚ) (docker : DockerOutcome) :
    ServiceState × RestartDecision :=
  if (st.consecutiveFailures : ℤ) < m.failureThreshold then (st, .skipped)
  else if st.Terminal then (st, .skipped)
  else
    let pruned := st.pruneTimestamps m.fastFailWindowS now
    if m.bootLoopThreshold ≤ pruned.restartTimestamps.length then
      ({ pruned with inBootLoop := true }, .bootLoop)
    else if m.restartThreshold ≤ pruned.restartCount then
      ({ pruned with escalated := true }, .escalated)
    else if m.dockerRestart docker then (pruned.recordRestart now, .restarted)
    else (pruned, .dockerFailed)

end RestartManager

/-! ### What one evaluation does -/

inductive Evaluated (m : RestartManager) (st : ServiceState) (now : ℚ) (docker : DockerOutcome) :
    ServiceState → RestartDecision → Prop where
  | skipped (h : (st.consecutiveFailures : ℤ) < m.failureThreshold ∨ st.Terminal) :
    Evaluated m st now docker st .skipped
  | bootLoop (hf : m.failureThreshold ≤ (st.consecutiveFailures : ℤ)) (ht : ¬ st.Terminal)
    (hb : m.bootLoopThreshold ≤
      (st.pruneTimestamps m.fastFailWindowS now).restartTimestamps.length) :
    Evaluated m st now docker
      { st.pruneTimestamps m.fastFailWindowS now with inBootLoop := true } .bootLoop
  | escalated (hf : m.failureThreshold ≤ (st.consecutiveFailures : ℤ)) (ht : ¬ st.Terminal)
    (hr : m.restartThreshold ≤ (st.restartCount : ℤ)) :
    Evaluated m st now docker
      { st.pruneTimestamps m.fastFailWindowS now with escalated := true } .escalated
  | restarted (hf : m.failureThreshold ≤ (st.consecutiveFailures : ℤ)) (ht : ¬ st.Terminal)
    (hb : (st.pruneTimestamps m.fastFailWindowS now).restartTimestamps.length <
      m.bootLoopThreshold)
    (hr : (st.restartCount : ℤ) < m.restartThreshold) (hd : m.dockerRestart docker = true) :
    Evaluated m st now docker ((st.pruneTimestamps m.fastFailWindowS now).recordRestart now)
      .restarted
  | dockerFailed (hf : m.failureThreshold ≤ (st.consecutiveFailures : ℤ)) (ht : ¬ st.Terminal)
    (hb : (st.pruneTimestamps m.fastFailWindowS now).restartTimestamps.length <
      m.bootLoopThreshold)
    (hr : (st.restartCount : ℤ) < m.restartThreshold) (hd : ¬ m.dockerRestart docker = true) :
    Evaluated m st now docker (st.pruneTimestamps m.fastFailWindowS now) .dockerFailed

theorem evaluate_evaluated (m : RestartManager) (st : ServiceState) (now : ℚ)
    (docker : DockerOutcome) :
    Evaluated m st now docker (m.evaluate st now docker).1 (m.evaluate st now docker).2 := by
  unfold RestartManager.evaluate
  dsimp only
  split_ifs with hf ht hb hr hd
  · exact .skipped (Or.inl hf)
  · exact .skipped (Or.inr ht)
  · exact .bootLoop (by omega) ht hb
  · exact .escalated (by omega) ht hr
  · exact .restarted (by omega) ht (by omega) (not_le.mp hr) hd
  · exact .dockerFailed (by omega) ht (by omega) (not_le.mp hr) hd

/-! ### The end of the ladder -/

namespace RestartManager

/-- The ladder ends now: the failure threshold is reached, the flags are still clear, and one
of the two ceilings is met. -/
def Due (m : RestartManager) (st : ServiceState) (now : ℚ) : Prop :=
  m.failureThreshold ≤ (st.consecutiveFailures : ℤ) ∧ ¬ st.Terminal ∧
    (m.bootLoopThreshold ≤ (st.pruneTimestamps m.fastFailWindowS now).restartTimestamps.length ∨
      m.restartThreshold ≤ st.restartCount)

instance (m : RestartManager) (st : ServiceState) (now : ℚ) : Decidable (m.Due st now) :=
  inferInstanceAs (Decidable (_ ∧ _ ∧ _))

/-- An evaluation either ends the ladder, with the decision that says so, or leaves the
flags as they were. -/
theorem evaluate_cases (m : RestartManager) (st : ServiceState) (now : ℚ)
    (docker : DockerOutcome) :
    (m.Due st now ∧ (m.evaluate st now docker).1.Terminal ∧
        ((m.evaluate st now docker).2 = .bootLoop ∨
          (m.evaluate st now docker).2 = .escalated)) ∨
      (¬ m.Due st now ∧ ((m.evaluate st now docker).1.Terminal ↔ st.Terminal) ∧
        (m.evaluate st now docker).2 ≠ .bootLoop ∧
          (m.evaluate st now docker).2 ≠ .escalated) := by
  have h := evaluate_evaluated m st now docker
  generalize m.evaluate st now docker = answer at h ⊢
  obtain ⟨st', d⟩ := answer
  cases h with
  | skipped h =>
    refine Or.inr ⟨fun hdue => ?_, Iff.rfl, by simp, by simp⟩
    rcases h with hf | ht
    · have hdf := hdue.1
      omega
    · exact hdue.2.1 ht
  | bootLoop hf ht hb => exact Or.inl ⟨⟨hf, ht, Or.inl hb⟩, Or.inl rfl, Or.inl rfl⟩
  | escalated hf ht hr => exact Or.inl ⟨⟨hf, ht, Or.inr hr⟩, Or.inr rfl, Or.inr rfl⟩
  | restarted hf ht hb hr =>
    exact Or.inr ⟨fun hdue => hdue.2.2.elim hb.not_ge hr.not_ge, Iff.rfl, by simp, by simp⟩
  | dockerFailed hf ht hb hr =>
    exact Or.inr ⟨fun hdue => hdue.2.2.elim hb.not_ge hr.not_ge, Iff.rfl, by simp, by simp⟩

theorem evaluate_terminal (m : RestartManager) (st : ServiceState) (now : ℚ)
    (docker : DockerOutcome) :
    (m.evaluate st now docker).1.Terminal ↔ st.Terminal ∨ m.Due st now := by
  rcases evaluate_cases m st now docker with ⟨hdue, hterm, -⟩ | ⟨hdue, hterm, -⟩
  · exact ⟨fun _ => Or.inr hdue, fun _ => hterm⟩
  · exact ⟨fun h => Or.inl (hterm.mp h), fun h => hterm.mpr (h.resolve_right hdue)⟩

theorem evaluate_decision (m : RestartManager) (st : ServiceState) (now : ℚ)
    (docker : DockerOutcome) :
    ((m.evaluate st now docker).2 = .bootLoop ∨ (m.evaluate st now docker).2 = .escalated) ↔
      m.Due st now := by
  rcases evaluate_cases m st now docker with ⟨hdue, -, hdec⟩ | ⟨hdue, -, hb, he⟩
  · exact ⟨fun _ => hdue, fun _ => hdec⟩
  · exact ⟨fun h => absurd h (not_or.mpr ⟨hb, he⟩), fun h => absurd h hdue⟩

end RestartManager

end AdaptiveAdvertisement.Supervisor
