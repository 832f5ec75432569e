import AdaptiveAdvertisement.Supervisor.RestartBounds

/-!
# Progress of the restart ladder

A service whose every probe fails: in each round the failure is recorded and the ladder evaluated.
Of the calls to docker only those that succeed are counted (`restart_manager.py:109-118`).
-/

namespace AdaptiveAdvertisement.Supervisor
open Library

structure FailedRound where
  now : ℚ
  docker : DockerOutcome

def FailedRound.steps (r : FailedRound) : List LadderStep := [.failed, .evaluate r.now r.docker]

def RestartManager.roundBound (m : RestartManager) : ℕ :=
  m.failureThreshold.toNat + m.restartThreshold.toNat + 1

section Rounds

variable (m : RestartManager)

def afterRounds (st : ServiceState) (rounds : List FailedRound) : ServiceState :=
  (ladder m).run st (rounds.flatMap FailedRound.steps)

/-- After the bounded number of rounds the ladder is at its end, and docker is not called in the
rest. -/
structure EndsInTime (st : ServiceState) (rounds : List FailedRound) : Prop where
  terminal : (afterRounds m st (rounds.take m.roundBound)).Terminal
  silent : attempts ((ladder m).outputs (afterRounds m st (rounds.take m.roundBound))
    ((rounds.drop m.roundBound).flatMap FailedRound.steps)) = []

/-- The times of the rounds, after so many failures, whose call of docker would succeed. -/
def answered (failures : ℕ) : List FailedRound → List ℚ
  | [] => []
  | r :: rounds =>
    (if m.failureThreshold ≤ (failures + 1 : ℕ) ∧ m.dockerRestart r.docker = true then [r.now]
      else []) ++ answered (failures + 1) rounds

/-- In the round that comes after `before` the failures are enough, and the successful answers of
docker up to it have met a ceiling. `log` are the times of the restarts before all rounds. -/
def MeetsCeiling (failures count : ℕ) (log : List ℚ) (before : List FailedRound)
    (r : FailedRound) : Prop :=
  m.failureThreshold ≤ (failures + before.length + 1 : ℕ) ∧
    (m.restartThreshold ≤ (count + (answered m failures before).length : ℕ) ∨
      m.bootLoopThreshold ≤
        (since id (r.now - m.fastFailWindowS) (log ++ answered m failures before)).length)

def CeilingMet (failures count : ℕ) (log : List ℚ) (rounds : List FailedRound) : Prop :=
  ∃ before r rest, rounds = before ++ r :: rest ∧ MeetsCeiling m failures count log before r

/-! ### One round -/

variable {m} {failures count : ℕ} {log : List ℚ} {r : FailedRound} {rounds : List FailedRound}

theorem meetsCeiling_cons (before : List FailedRound) (q : FailedRound) :
    MeetsCeiling m failures count log (r :: before) q ↔
      MeetsCeiling m (failures + 1) (count + (answered m failures [r]).length)
        (log ++ answered m failures [r]) before q := by
  have hanswered : answered m failures (r :: before) =
      answered m failures [r] ++ answered m (failures + 1) before := by
    simp [answered]
  have hlength : failures + (r :: before).length + 1 = failures + 1 + before.length + 1 := by
    rw [List.length_cons]
    omega
  unfold MeetsCeiling
  rw [hanswered, hlength, List.length_append, List.append_assoc, Nat.add_assoc count]

theorem ceilingMet_cons :
    CeilingMet m failures count log (r :: rounds) ↔
      MeetsCeiling m failures count log [] r ∨
        CeilingMet m (failures + 1) (count + (answered m failures [r]).length)
          (log ++ answered m failures [r]) rounds := by
  refine ⟨fun h => ?_, fun h => ?_⟩
  · obtain ⟨before, q, rest, hsplit, hmeets⟩ := h
    cases before with
    | nil =>
      obtain ⟨rfl, rfl⟩ := List.cons.inj hsplit
      exact Or.inl hmeets
    | cons r' before =>
      obtain ⟨rfl, rfl⟩ := List.cons.inj hsplit
      exact Or.inr ⟨before, q, rest, rfl, (meetsCeiling_cons before q).mp hmeets⟩
  · rcases h with hmeets | ⟨before, q, rest, rfl, hmeets⟩
    · exact ⟨[], r, rounds, rfl, hmeets⟩
    · exact ⟨r :: before, q, rest, rfl, (meetsCeiling_cons before q).mpr hmeets⟩

theorem terminal_run {st : ServiceState} (ht : st.Terminal) (is : List LadderStep) :
    ((ladder m).run st is).Terminal := by
  induction is generalizing st with
  | nil => exact ht
  | cons i is ih =>
    refine ih ?_
    cases i with
    | healthy => exact ht
    | failed => exact ht
    | evaluate now docker =>
      obtain ⟨d, -, hd⟩ := ladder_evaluated m st now docker
      rw [(evaluated_terminal m hd ht).1]
      exact ht

theorem answered_one (failures : ℕ) (r : FailedRound) : answered m failures [r] =
    if m.failureThreshold ≤ (failures + 1 : ℕ) ∧ m.dockerRestart r.docker = true then [r.now]
    else [] := List.append_nil _

theorem meetsCeiling_nil : MeetsCeiling m failures count log [] r ↔
    m.failureThreshold ≤ (failures + 1 : ℕ) ∧ (m.restartThreshold ≤ count ∨
      m.bootLoopThreshold ≤ (since id (r.now - m.fastFailWindowS) log).length) := by
  simp [MeetsCeiling, answered]

/-- What a round that does not end the ladder leaves behind. -/
structure Climbed (m : RestartManager) (st : ServiceState) (log : List ℚ) (r : FailedRound)
    (st' : ServiceState) : Prop where
  notTerminal : ¬ st'.Terminal
  failures : st'.consecutiveFailures = st.consecutiveFailures + 1
  count : st'.restartCount = st.restartCount + (answered m st.consecutiveFailures [r]).length
  agree : AgreeFrom id (r.now - m.fastFailWindowS)
    (log ++ answered m st.consecutiveFailures [r]) st'.restartTimestamps

/-- An evaluation ends the ladder where a ceiling is met, and else it counts what docker
answers. -/
theorem evaluated_climbs {st st' : ServiceState} {d : RestartDecision} (ht : ¬ st.Terminal)
    (hagree : AgreeFrom id (r.now - m.fastFailWindowS) log st.restartTimestamps)
    (hd : Evaluated m st.recordFailure r.now r.docker st' d) :
    (MeetsCeiling m st.consecutiveFailures st.restartCount log [] r ∧ st'.Terminal) ∨
    (¬ MeetsCeiling m st.consecutiveFailures st.restartCount log [] r ∧
      Climbed m st log r st') := by
  have hfailures : st.recordFailure.consecutiveFailures = st.consecutiveFailures + 1 := rfl
  have hcount : st.recordFailure.restartCount = st.restartCount := rfl
  have hagree' := evaluated_agree m hd hagree
  have hpruned : (st.recordFailure.pruneTimestamps m.fastFailWindowS r.now).restartTimestamps =
      since id (r.now - m.fastFailWindowS) log := hagree _ le_rfl
  rw [meetsCeiling_nil]
  cases hd with
  | skipped hskip =>
    have hbelow : ¬ m.failureThreshold ≤ (st.consecutiveFailures + 1 : ℕ) := by
      have hfew := hskip.resolve_right ht
      rw [hfailures] at hfew
      omega
    have hnone : answered m st.consecutiveFailures [r] = [] := by
      rw [answered_one, if_neg fun h => hbelow h.1]
    exact Or.inr
      ⟨fun h => hbelow h.1, ht, rfl, by rw [hnone]; rfl, by rw [hnone]; exact hagree'⟩
  | bootLoop hf hn hb =>
    rw [hpruned] at hb
    exact Or.inl ⟨⟨hf, Or.inr hb⟩, Or.inl rfl⟩
  | escalated hf hn hr => exact Or.inl ⟨⟨hf, Or.inl hr⟩, Or.inr rfl⟩
  | restarted hf hn hb hr hdocker =>
    rw [hpruned] at hb
    have hsome : answered m st.consecutiveFailures [r] = [r.now] := by
      rw [answered_one, if_pos ⟨hf, hdocker⟩]
    refine Or.inr ⟨fun h => ?_, hn, rfl, by rw [hsome]; rfl, by rw [hsome]; exact hagree'⟩
    rcases h.2 with hmet | hmet <;> omega
  | dockerFailed hf hn hb hr hdocker =>
    rw [hpruned] at hb
    have hnone : answered m st.consecutiveFailures [r] = [] := by
      rw [answered_one, if_neg fun h => hdocker h.2]
    refine Or.inr ⟨fun h => ?_, hn, rfl, by rw [hnone]; rfl, by rw [hnone]; exact hagree'⟩
    rcases h.2 with hmet | hmet <;> omega

/-! ### Rounds -/

theorem afterRounds_cons (st : ServiceState) :
    afterRounds m st (r :: rounds) = afterRounds m (afterRounds m st [r]) rounds := rfl

theorem afterRounds_terminal_iff (st : ServiceState)
    (hordered : (rounds.map FailedRound.now).Pairwise (· ≤ ·))
    (hagree : ∀ q ∈ rounds,
      AgreeFrom id (q.now - m.fastFailWindowS) log st.restartTimestamps) :
    (afterRounds m st rounds).Terminal ↔
      st.Terminal ∨ CeilingMet m st.consecutiveFailures st.restartCount log rounds := by
  induction rounds generalizing st log with
  | nil =>
    have hnone : ¬ CeilingMet m st.consecutiveFailures st.restartCount log [] := by
      intro h
      obtain ⟨before, r, rest, hsplit, -⟩ := h
      simp at hsplit
    exact ⟨Or.inl, fun h => h.resolve_right hnone⟩
  | cons r rounds ih =>
    rw [ceilingMet_cons, afterRounds_cons]
    obtain ⟨hlater, hordered⟩ := List.pairwise_cons.mp hordered
    by_cases ht : st.Terminal
    · have hstays : (afterRounds m (afterRounds m st [r]) rounds).Terminal :=
        terminal_run ht ((r :: rounds).flatMap FailedRound.steps)
      exact ⟨fun _ => Or.inl ht, fun _ => hstays⟩
    · obtain ⟨d, -, hd⟩ := ladder_evaluated m st.recordFailure r.now r.docker
      rcases evaluated_climbs ht (hagree r List.mem_cons_self) hd with
        ⟨hmeets, hends⟩ | ⟨hmeets, hclimbed⟩
      · have hstays : (afterRounds m (afterRounds m st [r]) rounds).Terminal :=
          terminal_run hends _
        exact ⟨fun _ => Or.inr (Or.inl hmeets), fun _ => hstays⟩
      · have hagree' : ∀ q ∈ rounds, AgreeFrom id (q.now - m.fastFailWindowS)
            (log ++ answered m st.consecutiveFailures [r])
            (afterRounds m st [r]).restartTimestamps := by
          intro q hq
          have hle : r.now - m.fastFailWindowS ≤ q.now - m.fastFailWindowS :=
            sub_le_sub_right (hlater q.now (List.mem_map_of_mem hq)) _
          exact hclimbed.agree.mono hle
        have hrest := ih (afterRounds m st [r]) hordered hagree'
        have hfailures : (afterRounds m st [r]).consecutiveFailures =
            st.consecutiveFailures + 1 := hclimbed.failures
        have hcount : (afterRounds m st [r]).restartCount =
            st.restartCount + (answered m st.consecutiveFailures [r]).length := hclimbed.count
        have hopen : ¬ (afterRounds m st [r]).Terminal := hclimbed.notTerminal
        rw [hrest, hfailures, hcount]
        simp only [ht, hmeets, hopen, false_or]

/-! ### The law -/

/-- A ladder ends within the bound exactly where, within it, docker has succeeded often enough:
calls that fail are not counted. -/
theorem endsInTime_iff (m : RestartManager) (st : ServiceState) (rounds : List FailedRound)
    (hordered : (rounds.map FailedRound.now).Pairwise (· ≤ ·)) :
    EndsInTime m st rounds ↔ st.Terminal ∨
      CeilingMet m st.consecutiveFailures st.restartCount st.restartTimestamps
        (rounds.take m.roundBound) := by
  have hfirst : ((rounds.take m.roundBound).map FailedRound.now).Pairwise (· ≤ ·) :=
    hordered.sublist ((List.take_sublist _ _).map _)
  have hterminal := afterRounds_terminal_iff (m := m) st hfirst fun q _ =>
    agreeFrom_refl (q.now - m.fastFailWindowS) st.restartTimestamps
  refine ⟨fun h => hterminal.mp h.terminal, fun h => ?_⟩
  have hends := hterminal.mpr h
  exact ⟨hends, attempts_terminal m hends _⟩

end Rounds

/-- Eight rounds, 10 s apart. -/
def eightRounds (docker : DockerOutcome) : List FailedRound :=
  [10, 20, 30, 40, 50, 60, 70, 80].map fun now => ⟨now, docker⟩

/-- The second failure is the first that counts, and three restarts are a boot loop. -/
theorem endsInTime_restarting : EndsInTime defaultManager {} (eightRounds (.exited 0)) := by
  have hordered : ((eightRounds (.exited 0)).map FailedRound.now).Pairwise (· ≤ ·) := by
    decide +kernel
  refine (endsInTime_iff defaultManager {} (eightRounds (.exited 0)) hordered).mpr (Or.inr ?_)
  exact ⟨(eightRounds (.exited 0)).take 4, ⟨50, .exited 0⟩,
    ((eightRounds (.exited 0)).take 8).drop 5, rfl, by decide +kernel, Or.inr (by decide +kernel)⟩

/-- Docker fails in every round, and the ladder climbs on. -/
theorem failing_docker_endless : ¬ ∀ (m : RestartManager) (st : ServiceState)
    (rounds : List FailedRound), m.roundBound ≤ rounds.length →
      (rounds.map FailedRound.now).Pairwise (· ≤ ·) → EndsInTime m st rounds := by
  intro h
  have hends := h defaultManager {} (eightRounds (.exited 1)) (by decide) (by decide +kernel)
  exact absurd hends.terminal (by decide +kernel)

end AdaptiveAdvertisement.Supervisor
