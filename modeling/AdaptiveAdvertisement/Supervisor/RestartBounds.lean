import AdaptiveAdvertisement.Library.SlidingWindow
import AdaptiveAdvertisement.Supervisor.HealthLoop

/-!
# Bounds of the restart ladder

One service over whole runs: probes that are healthy or fail, evaluations
(`restart_manager.py:56-118`) at the times that they read, and whatever docker answers.
-/

namespace AdaptiveAdvertisement.Supervisor
open Library

/-! ### Runs -/

inductive LadderStep where
  | healthy
  | failed
  | evaluate (now : ℚ) (docker : DockerOutcome)

def LadderStep.time? : LadderStep → Option ℚ
  | .healthy => none
  | .failed => none
  | .evaluate now _ => some now

def ladder (m : RestartManager) :
    Machine ServiceState LadderStep (Option (ℚ × RestartDecision)) where
  init := {}
  step := fun st i =>
    match i with
    | .healthy => (st.recordHealthy, none)
    | .failed => (st.recordFailure, none)
    | .evaluate now docker =>
      let e := m.evaluate st now docker
      (e.1, some (now, e.2))

/-- The decisions that call docker. -/
def RestartDecision.attempt : RestartDecision → Bool
  | .restarted => true
  | .dockerFailed => true
  | .bootLoop => false
  | .escalated => false
  | .skipped => false

def RestartDecision.terminal : RestartDecision → Bool
  | .bootLoop => true
  | .escalated => true
  | .restarted => false
  | .dockerFailed => false
  | .skipped => false

abbrev Decided := Option (ℚ × RestartDecision)

/-- The times of the successful restarts among the decisions. -/
def restartTimes (outs : List Decided) : List ℚ :=
  outs.filterMap fun d => d.bind fun d => if d.2 = .restarted then some d.1 else none

def terminalDecisions (outs : List Decided) : List Decided :=
  outs.filter fun d => d.any fun d => d.2.terminal

def attempts (outs : List Decided) : List Decided :=
  outs.filter fun d => d.any fun d => d.2.attempt

def failuresSinceHealthy (is : List LadderStep) : ℕ :=
  is.foldl (fun n i =>
    match i with
    | .healthy => 0
    | .failed => n + 1
    | .evaluate _ _ => n) 0

def decided (m : RestartManager) (is : List LadderStep) : List Decided :=
  (ladder m).outputs (ladder m).init is

def after (m : RestartManager) (is : List LadderStep) : ServiceState :=
  (ladder m).run (ladder m).init is

/-- A negative ceiling is one of 0. -/
structure LadderBounds (m : RestartManager) (is : List LadderStep) : Prop where
  total : (restartTimes (decided m is)).length ≤ m.restartThreshold.toNat
  windowed : ∀ a : ℚ, ((restartTimes (decided m is)).filter fun t =>
    decide (a ≤ t ∧ t ≤ a + m.fastFailWindowS)).length ≤ m.bootLoopThreshold.toNat
  failures : ∀ before now docker rest, is = before ++ .evaluate now docker :: rest →
    (m.evaluate (after m before) now docker).2.attempt = true →
      m.failureThreshold ≤ failuresSinceHealthy before
  silent : ∀ before rest, is = before ++ rest → (after m before).Terminal →
    attempts ((ladder m).outputs (after m before) rest) = []
  once : (terminalDecisions (decided m is)).length ≤ 1

/-! ### Counters -/

section Ladder

variable (m : RestartManager)

theorem ladder_evaluated (st : ServiceState) (now : ℚ) (docker : DockerOutcome) :
    ∃ d, (ladder m).out st (.evaluate now docker) = some (now, d) ∧
      Evaluated m st now docker ((ladder m).next st (.evaluate now docker)) d :=
  ⟨_, rfl, evaluate_evaluated m st now docker⟩

theorem evaluated_failures {st st' : ServiceState} {now : ℚ} {docker : DockerOutcome}
    {d : RestartDecision} (h : Evaluated m st now docker st' d) :
    st'.consecutiveFailures = st.consecutiveFailures := by
  cases h <;> rfl

/-- The counter of a state is the number of failures since the last healthy probe. -/
theorem after_failures (is : List LadderStep) :
    (after m is).consecutiveFailures = failuresSinceHealthy is := by
  have hrun : ∀ (st : ServiceState) (n : ℕ), st.consecutiveFailures = n →
      ((ladder m).run st is).consecutiveFailures = is.foldl (fun n i =>
        match i with
        | .healthy => 0
        | .failed => n + 1
        | .evaluate _ _ => n) n := by
    induction is with
    | nil => exact fun st n h => h
    | cons i is ih =>
      intro st n h
      refine ih _ _ ?_
      cases i with
      | healthy => rfl
      | failed => exact congrArg (· + 1) h
      | evaluate now docker =>
        obtain ⟨d, -, hd⟩ := ladder_evaluated m st now docker
        exact (evaluated_failures m hd).trans h
  exact hrun _ 0 rfl

structure Counted (outs : List Decided) (st : ServiceState) : Prop where
  count : st.restartCount = (restartTimes outs).length
  total : (restartTimes outs).length ≤ m.restartThreshold.toNat
  clear : ¬ st.Terminal → terminalDecisions outs = []
  once : (terminalDecisions outs).length ≤ 1

theorem restartTimes_snoc (outs : List Decided) (now : ℚ) (d : RestartDecision) :
    restartTimes (outs ++ [some (now, d)]) =
      restartTimes outs ++ if d = .restarted then [now] else [] := by
  unfold restartTimes
  rw [List.filterMap_append]
  cases d <;> rfl

theorem terminalDecisions_snoc (outs : List Decided) (now : ℚ) (d : RestartDecision) :
    terminalDecisions (outs ++ [some (now, d)]) =
      terminalDecisions outs ++ if d.terminal then [some (now, d)] else [] := by
  unfold terminalDecisions
  rw [List.filter_append]
  cases d <;> rfl

/-- A probe decides nothing. -/
theorem snoc_none (outs : List Decided) :
    restartTimes (outs ++ [none]) = restartTimes outs ∧
      terminalDecisions (outs ++ [none]) = terminalDecisions outs := by
  unfold restartTimes terminalDecisions
  rw [List.filterMap_append, List.filter_append]
  simp

variable {m}

theorem Counted.probe {outs : List Decided} {st st' : ServiceState} (h : Counted m outs st)
    (hcount : st'.restartCount = st.restartCount) (hterminal : st'.Terminal ↔ st.Terminal) :
    Counted m (outs ++ [none]) st' := by
  obtain ⟨htimes, hdecisions⟩ := snoc_none outs
  refine ⟨?_, ?_, ?_, ?_⟩
  · rw [hcount, htimes]
    exact h.count
  · rw [htimes]
    exact h.total
  · rw [hterminal, hdecisions]
    exact h.clear
  · rw [hdecisions]
    exact h.once

section Counted

variable {outs : List Decided} {st st' : ServiceState} {now : ℚ} {docker : DockerOutcome}
  {d : RestartDecision}

theorem Counted.kept (h : Counted m outs st) (hd : d.terminal = false) (hr : d ≠ .restarted)
    (hterminal : st.Terminal → st'.Terminal) (hcount : st'.restartCount = st.restartCount) :
    Counted m (outs ++ [some (now, d)]) st' := by
  have htimes : restartTimes (outs ++ [some (now, d)]) = restartTimes outs := by
    rw [restartTimes_snoc, if_neg hr, List.append_nil]
  have hdecisions : terminalDecisions (outs ++ [some (now, d)]) = terminalDecisions outs := by
    rw [terminalDecisions_snoc, hd]
    exact List.append_nil _
  refine ⟨?_, ?_, fun ht => ?_, ?_⟩
  · rw [hcount, htimes]
    exact h.count
  · rw [htimes]
    exact h.total
  · rw [hdecisions]
    exact h.clear fun hst => ht (hterminal hst)
  · rw [hdecisions]
    exact h.once

theorem Counted.ended (h : Counted m outs st) (ht : ¬ st.Terminal) (ht' : st'.Terminal)
    (hr : d ≠ .restarted) (hcount : st'.restartCount = st.restartCount) :
    Counted m (outs ++ [some (now, d)]) st' := by
  have htimes : restartTimes (outs ++ [some (now, d)]) = restartTimes outs := by
    rw [restartTimes_snoc, if_neg hr, List.append_nil]
  refine ⟨?_, ?_, fun hn => absurd ht' hn, ?_⟩
  · rw [hcount, htimes]
    exact h.count
  · rw [htimes]
    exact h.total
  · rw [terminalDecisions_snoc, h.clear ht]
    split_ifs <;> simp

theorem Counted.restarted (h : Counted m outs st) (ht : ¬ st.Terminal)
    (hbelow : (st.restartCount : ℤ) < m.restartThreshold)
    (hcount : st'.restartCount = st.restartCount + 1) :
    Counted m (outs ++ [some (now, .restarted)]) st' := by
  have htimes : (restartTimes (outs ++ [some (now, .restarted)])).length =
      (restartTimes outs).length + 1 := by
    rw [restartTimes_snoc, if_pos rfl, List.length_append, List.length_singleton]
  have hdecisions : terminalDecisions (outs ++ [some (now, .restarted)]) = [] := by
    rw [terminalDecisions_snoc, h.clear ht]
    rfl
  have hold := h.count
  refine ⟨?_, ?_, fun _ => hdecisions, ?_⟩
  · rw [hcount, htimes, hold]
  · rw [htimes]
    omega
  · rw [hdecisions]
    exact Nat.zero_le 1

theorem Counted.evaluate (h : Counted m outs st) (hd : Evaluated m st now docker st' d) :
    Counted m (outs ++ [some (now, d)]) st' := by
  cases hd with
  | skipped => exact h.kept rfl (by simp) id rfl
  | bootLoop hf ht hb => exact h.ended ht (Or.inl rfl) (by simp) rfl
  | escalated hf ht hr => exact h.ended ht (Or.inr rfl) (by simp) rfl
  | restarted hf ht hb hr => exact h.restarted ht hr rfl
  | dockerFailed hf ht => exact h.kept rfl (by simp) id rfl

end Counted

variable (m)

theorem run_counted (is : List LadderStep) : Counted m (decided m is) (after m is) := by
  have hinit : Counted m [] (ladder m).init := ⟨rfl, Nat.zero_le _, fun _ => rfl, Nat.zero_le _⟩
  refine Machine.outputs_inv (M := ladder m) (J := Counted m) (fun outs st i h => ?_) hinit is
  cases i with
  | healthy => exact h.probe rfl (ServiceState.recordHealthy_terminal st)
  | failed => exact h.probe rfl (ServiceState.recordFailure_terminal st)
  | evaluate now docker =>
    obtain ⟨d, hout, hd⟩ := ladder_evaluated m st now docker
    rw [hout]
    exact h.evaluate hd

/-! ### Silence -/

theorem evaluated_attempt {st st' : ServiceState} {now : ℚ} {docker : DockerOutcome}
    {d : RestartDecision} (h : Evaluated m st now docker st' d) (ha : d.attempt = true) :
    m.failureThreshold ≤ (st.consecutiveFailures : ℤ) ∧ ¬ st.Terminal := by
  cases h with
  | skipped => cases ha
  | bootLoop => cases ha
  | escalated => cases ha
  | restarted hf ht => exact ⟨hf, ht⟩
  | dockerFailed hf ht => exact ⟨hf, ht⟩

theorem evaluated_terminal {st st' : ServiceState} {now : ℚ} {docker : DockerOutcome}
    {d : RestartDecision} (h : Evaluated m st now docker st' d) (ht : st.Terminal) :
    st' = st ∧ d = .skipped := by
  cases h with
  | skipped => exact ⟨rfl, rfl⟩
  | bootLoop hf hn => exact absurd ht hn
  | escalated hf hn => exact absurd ht hn
  | restarted hf hn => exact absurd ht hn
  | dockerFailed hf hn => exact absurd ht hn

theorem attempts_terminal {st : ServiceState} (ht : st.Terminal) (is : List LadderStep) :
    attempts ((ladder m).outputs st is) = [] := by
  induction is generalizing st with
  | nil => rfl
  | cons i is ih =>
    cases i with
    | healthy => exact ih (show st.recordHealthy.Terminal from ht)
    | failed => exact ih (show st.recordFailure.Terminal from ht)
    | evaluate now docker =>
      obtain ⟨d, hout, hd⟩ := ladder_evaluated m st now docker
      obtain ⟨hsame, rfl⟩ := evaluated_terminal m hd ht
      rw [Machine.outputs_cons, hout, hsame]
      exact ih ht

/-! ### The window of the restarts -/

section Window

variable {st st' : ServiceState} {now : ℚ} {docker : DockerOutcome} {d : RestartDecision}
  {log : List ℚ}

theorem pruneTimestamps_since (st : ServiceState) (windowS now : ℚ) :
    (st.pruneTimestamps windowS now).restartTimestamps =
      since id (now - windowS) st.restartTimestamps := rfl

theorem evaluated_agree (h : Evaluated m st now docker st' d)
    (hagree : AgreeFrom id (now - m.fastFailWindowS) log st.restartTimestamps) :
    AgreeFrom id (now - m.fastFailWindowS) (log ++ if d = .restarted then [now] else [])
      st'.restartTimestamps := by
  have hpruned : AgreeFrom id (now - m.fastFailWindowS) log
      (st.pruneTimestamps m.fastFailWindowS now).restartTimestamps := hagree.prune
  cases h with
  | skipped => simpa using hagree
  | bootLoop => simpa using hpruned
  | escalated => simpa using hpruned
  | restarted => exact hpruned.push now
  | dockerFailed => simpa using hpruned

theorem evaluated_bounded (h : Evaluated m st now docker st' d)
    (hagree : AgreeFrom id (now - m.fastFailWindowS) log st.restartTimestamps)
    (hlog : BoundedWithin m.fastFailWindowS m.bootLoopThreshold.toNat log) :
    BoundedWithin m.fastFailWindowS m.bootLoopThreshold.toNat
      (log ++ if d = .restarted then [now] else []) := by
  cases h with
  | restarted hf ht hb hr =>
    refine hlog.snoc ?_
    have hsame := hagree _ le_rfl
    have hlast : (since id (now - m.fastFailWindowS) [now]).length ≤ 1 :=
      List.length_filter_le _ _
    rw [pruneTimestamps_since, hsame] at hb
    rw [since, List.filter_append, List.length_append]
    unfold since at hb hlast
    omega
  | skipped => simpa using hlog
  | bootLoop => simpa using hlog
  | escalated => simpa using hlog
  | dockerFailed => simpa using hlog

end Window

def times (is : List LadderStep) : List ℚ := is.filterMap LadderStep.time?

/-- The timestamps that are kept and those that were thrown away bound every window: at each
evaluation to come the kept ones are all that count. -/
theorem run_bounded {is : List LadderStep} {outs : List Decided} {st : ServiceState}
    (hordered : (times is).Pairwise (· ≤ ·))
    (hagree : ∀ t ∈ times is,
      AgreeFrom id (t - m.fastFailWindowS) (restartTimes outs) st.restartTimestamps)
    (hbounded : BoundedWithin m.fastFailWindowS m.bootLoopThreshold.toNat (restartTimes outs)) :
    BoundedWithin m.fastFailWindowS m.bootLoopThreshold.toNat
      (restartTimes (outs ++ (ladder m).outputs st is)) := by
  induction is generalizing outs st with
  | nil =>
    rw [Machine.outputs_nil, List.append_nil]
    exact hbounded
  | cons i is ih =>
    rw [Machine.outputs_cons, List.append_cons]
    cases i with
    | healthy =>
      have hout : (ladder m).out st .healthy = none := rfl
      rw [hout]
      refine ih hordered ?_ ?_ <;> rw [(snoc_none outs).1]
      · exact hagree
      · exact hbounded
    | failed =>
      have hout : (ladder m).out st .failed = none := rfl
      rw [hout]
      refine ih hordered ?_ ?_ <;> rw [(snoc_none outs).1]
      · exact hagree
      · exact hbounded
    | evaluate now docker =>
      obtain ⟨hlater, hordered⟩ := List.pairwise_cons.mp hordered
      have hnow := hagree now List.mem_cons_self
      obtain ⟨d, hout, hd⟩ := ladder_evaluated m st now docker
      rw [hout]
      refine ih hordered (fun t ht => ?_) ?_ <;> rw [restartTimes_snoc]
      · have hle : now - m.fastFailWindowS ≤ t - m.fastFailWindowS :=
          sub_le_sub_right (hlater t ht) _
        exact (evaluated_agree m hd hnow).mono hle
      · exact evaluated_bounded m hd hnow hbounded

/-! ### The law -/

/-- A restart ladder keeps its ceilings in every run whose evaluations come in the order of their
times. -/
theorem ladder_bounds (is : List LadderStep) (hordered : (times is).Pairwise (· ≤ ·)) :
    LadderBounds m is where
  total := (run_counted m is).total
  windowed := by
    have hnone : BoundedWithin m.fastFailWindowS m.bootLoopThreshold.toNat
        (restartTimes []) := by
      intro before t rest hsplit
      simp [restartTimes] at hsplit
    exact (run_bounded m hordered (fun t _ => agreeFrom_refl _ _) hnone).window_le
  failures := by
    intro before now docker rest _ ha
    have hattempt := evaluated_attempt m (evaluate_evaluated m (after m before) now docker) ha
    rw [after_failures] at hattempt
    exact hattempt.1
  silent := fun before rest _ ht => attempts_terminal m ht rest
  once := (run_counted m is).once

end Ladder

/-- Three restarts within the window, then the boot loop. -/
def bootLoopRun : List LadderStep :=
  [.failed, .evaluate 10 (.exited 0), .failed, .evaluate 20 (.exited 0), .failed,
    .evaluate 30 (.exited 0), .failed, .evaluate 40 (.exited 0), .failed, .evaluate 50 (.exited 0)]

theorem bootLoopRun_bounds : LadderBounds defaultManager bootLoopRun :=
  ladder_bounds defaultManager bootLoopRun (by decide +kernel)

/-! ### The ladders of the health loop -/

/-- What one turn of the loop is for the ladder of its service. -/
def Turn.steps (t : Turn) : List LadderStep :=
  if t.probe.healthy then [.healthy] else [.failed, .evaluate t.now t.docker]

theorem handle_ladder (m : RestartManager) (s : HealthLoop) (svc : ManagedService) (t : Turn) :
    (s.handle m svc t).states svc.name = (ladder m).run (s.states svc.name) t.steps := by
  unfold HealthLoop.handle Turn.steps
  cases hp : t.probe.healthy <;> simp [ladder, Machine.next]

theorem iterate_ladder (m : RestartManager) {services : List ManagedService}
    (hn : (services.map ManagedService.name).Nodup) (s : HealthLoop) (r : Round)
    {svc : ManagedService} (hs : svc ∈ services) :
    (s.iterate m services r).states svc.name =
      (ladder m).run (s.states svc.name) (r.turn svc.name).steps := by
  rw [iterate_states m hn s r hs]
  exact handle_ladder m s svc (r.turn svc.name)

/-- Every service of the health loop climbs its own ladder. -/
theorem healthLoop_ladder (m : RestartManager) (table : ServiceTable) (rounds : List Round)
    {svc : ManagedService} (hs : svc ∈ table.services) (s : HealthLoop) :
    ((healthLoop m table).run s rounds).states svc.name =
      (ladder m).run (s.states svc.name) (rounds.flatMap fun r => (r.turn svc.name).steps) := by
  induction rounds generalizing s with
  | nil => rfl
  | cons r rounds ih =>
    rw [Machine.run_cons, ih, List.flatMap_cons, Machine.run_append]
    exact congrArg (fun st => (ladder m).run st _) (iterate_ladder m table.nodup s r hs)

end AdaptiveAdvertisement.Supervisor
