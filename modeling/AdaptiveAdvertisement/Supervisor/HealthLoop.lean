import AdaptiveAdvertisement.Library.Machine
import AdaptiveAdvertisement.Supervisor.RestartLadder
import AdaptiveAdvertisement.Supervisor.SafeModeRelay

/-!
# The health loop (`supervisor/main.py`)

One iteration probes every service in turn, evaluates the ladder of the unhealthy ones and
engages safe mode when a critical ladder ends. The engage call is made at that moment and
never again.

Source lines: `_health_loop` 49-105, one pass of its inner loop as `handle` and one of its outer
loop as `iterate`; `probe` is `health_probe.py:28-93`, `build_service_table` is
`service_table.py:65-98` with the default environment, as is `defaultManager` (`config.py`).
-/

namespace AdaptiveAdvertisement.Supervisor
open Library

structure ServiceTable where
  services : List ManagedService
  nodup : (services.map ManagedService.name).Nodup

inductive Probe where
  | response (status : ℕ)
  | failed

def Probe.healthy : Probe → Bool
  | .response status => decide (status < 500)
  | .failed => false

/-- What the environment answers while one service is handled: its probe, the clock, the
docker call and the `POST` to the player, where they are made. -/
structure Turn where
  probe : Probe
  now : ℚ
  docker : DockerOutcome
  postAnswers200 : Bool

/-- One iteration: the turn of each service, and whether a `POST` to the player would have
returned 200 at some moment of it. -/
structure Round where
  turn : String → Turn
  playerWouldAnswer200 : Bool
  consistent : ∀ n, (turn n).postAnswers200 = true → playerWouldAnswer200 = true

structure HealthLoop where
  states : String → ServiceState := fun _ => {}
  relay : SafeModeRelay := {}

namespace HealthLoop

def handle (m : RestartManager) (s : HealthLoop) (svc : ManagedService) (t : Turn) : HealthLoop :=
  let st := s.states svc.name
  if t.probe.healthy then
    { s with states := Function.update s.states svc.name st.recordHealthy }
  else
    let e := m.evaluate st.recordFailure t.now t.docker
    { states := Function.update s.states svc.name e.1
      relay :=
        if (e.2 = .bootLoop ∨ e.2 = .escalated) ∧ svc.priority = .critical then
          (s.relay.engageSafeModeSupervisor t.postAnswers200).1
        else s.relay }

def iterate (m : RestartManager) (services : List ManagedService) (s : HealthLoop) (r : Round) :
    HealthLoop :=
  services.foldl (fun s svc => handle m s svc (r.turn svc.name)) s

end HealthLoop

def healthLoop (m : RestartManager) (table : ServiceTable) : Machine HealthLoop Round Unit :=
  ⟨{}, fun s r => (s.iterate m table.services r, ())⟩

/-! ### One service -/

def LadderEnds (m : RestartManager) (st : ServiceState) (t : Turn) : Prop :=
  t.probe.healthy = false ∧ m.Due st.recordFailure t.now

instance (m : RestartManager) (st : ServiceState) (t : Turn) : Decidable (LadderEnds m st t) :=
  inferInstanceAs (Decidable (_ ∧ _))

theorem handle_states_ne (m : RestartManager) (s : HealthLoop) (svc : ManagedService) (t : Turn)
    {n : String} (h : n ≠ svc.name) : (s.handle m svc t).states n = s.states n := by
  unfold HealthLoop.handle
  cases t.probe.healthy <;> simp [h]

theorem handle_states_congr (m : RestartManager) {s s' : HealthLoop} (svc : ManagedService)
    (t : Turn) (h : s.states svc.name = s'.states svc.name) :
    (s.handle m svc t).states svc.name = (s'.handle m svc t).states svc.name := by
  unfold HealthLoop.handle
  cases t.probe.healthy <;> simp [h]

theorem handle_terminal (m : RestartManager) (s : HealthLoop) (svc : ManagedService) (t : Turn) :
    ((s.handle m svc t).states svc.name).Terminal ↔
      (s.states svc.name).Terminal ∨ LadderEnds m (s.states svc.name) t := by
  unfold HealthLoop.handle LadderEnds
  cases hp : t.probe.healthy with
  | true => simp
  | false => simp [RestartManager.evaluate_terminal]

/-- The hold is set by a critical ladder that ends while the player answers, and by nothing
else; nothing clears it. -/
theorem handle_hold (m : RestartManager) (s : HealthLoop) (svc : ManagedService) (t : Turn) :
    (s.handle m svc t).relay.engagedBySupervisor = true ↔
      s.relay.engagedBySupervisor = true ∨
        (svc.priority = .critical ∧ LadderEnds m (s.states svc.name) t ∧
          t.postAnswers200 = true) := by
  unfold HealthLoop.handle LadderEnds
  cases hp : t.probe.healthy with
  | true => simp
  | false =>
    have hdec := RestartManager.evaluate_decision m (s.states svc.name).recordFailure t.now t.docker
    simp only [Bool.false_eq_true, ite_false, hdec, true_and]
    by_cases hc : svc.priority = .critical
    · by_cases hd : m.Due (s.states svc.name).recordFailure t.now
      · cases t.postAnswers200 <;> simp [hc, hd, SafeModeRelay.engageSafeModeSupervisor]
      · simp [hd]
    · simp [hc]

/-! ### One iteration -/

def SomeCritical (services : List ManagedService) (p : ManagedService → Prop) : Prop :=
  ∃ svc ∈ services, svc.priority = .critical ∧ p svc

theorem iterate_states_ne (m : RestartManager) {services : List ManagedService} (s : HealthLoop)
    (r : Round) {n : String} (h : n ∉ services.map ManagedService.name) :
    (s.iterate m services r).states n = s.states n := by
  induction services generalizing s with
  | nil => rfl
  | cons svc services ih =>
    simp only [List.map_cons, List.mem_cons, not_or] at h
    have hrest := ih (s.handle m svc (r.turn svc.name)) h.2
    rw [handle_states_ne m s svc _ h.1] at hrest
    exact hrest

/-- A service ends an iteration as its own turn leaves it. -/
theorem iterate_states (m : RestartManager) {services : List ManagedService}
    (hn : (services.map ManagedService.name).Nodup) (s : HealthLoop) (r : Round)
    {svc : ManagedService} (hs : svc ∈ services) :
    (s.iterate m services r).states svc.name =
      (s.handle m svc (r.turn svc.name)).states svc.name := by
  induction services generalizing s with
  | nil => cases hs
  | cons head services ih =>
    simp only [List.map_cons, List.nodup_cons] at hn
    have hunfold : s.iterate m (head :: services) r =
        (s.handle m head (r.turn head.name)).iterate m services r := rfl
    rw [hunfold]
    rcases List.mem_cons.mp hs with rfl | hs
    · exact iterate_states_ne m _ r hn.1
    · have hne : svc.name ≠ head.name := by
        intro he
        exact hn.1 (he ▸ List.mem_map_of_mem hs)
      rw [ih hn.2 _ hs]
      exact handle_states_congr m svc _ (handle_states_ne m s head _ hne)

theorem iterate_terminal (m : RestartManager) {services : List ManagedService}
    (hn : (services.map ManagedService.name).Nodup) (s : HealthLoop) (r : Round)
    {svc : ManagedService} (hs : svc ∈ services) :
    ((s.iterate m services r).states svc.name).Terminal ↔
      (s.states svc.name).Terminal ∨ LadderEnds m (s.states svc.name) (r.turn svc.name) := by
  rw [iterate_states m hn s r hs]
  exact handle_terminal m s svc (r.turn svc.name)

theorem iterate_hold (m : RestartManager) {services : List ManagedService}
    (hn : (services.map ManagedService.name).Nodup) (s : HealthLoop) (r : Round) :
    (s.iterate m services r).relay.engagedBySupervisor = true ↔
      s.relay.engagedBySupervisor = true ∨ SomeCritical services fun svc =>
        LadderEnds m (s.states svc.name) (r.turn svc.name) ∧
          (r.turn svc.name).postAnswers200 = true := by
  induction services generalizing s with
  | nil => simp [HealthLoop.iterate, SomeCritical]
  | cons head services ih =>
    simp only [List.map_cons, List.nodup_cons] at hn
    have hunfold : s.iterate m (head :: services) r =
        (s.handle m head (r.turn head.name)).iterate m services r := rfl
    -- the turns of the later services meet the states they had before the iteration
    have hsame : ∀ svc ∈ services,
        (s.handle m head (r.turn head.name)).states svc.name = s.states svc.name := by
      intro svc hs
      refine handle_states_ne m s head _ fun he => hn.1 ?_
      exact he ▸ List.mem_map_of_mem hs
    rw [hunfold, ih hn.2, handle_hold, or_assoc]
    refine or_congr_right ⟨fun h => ?_, fun h => ?_⟩
    · rcases h with ⟨hc, hends, hpost⟩ | ⟨svc, hs, hc, hends, hpost⟩
      · exact ⟨head, List.mem_cons_self, hc, hends, hpost⟩
      · rw [hsame svc hs] at hends
        exact ⟨svc, List.mem_cons_of_mem _ hs, hc, hends, hpost⟩
    · obtain ⟨svc, hs, hc, hends, hpost⟩ := h
      rcases List.mem_cons.mp hs with rfl | hs
      · exact Or.inl ⟨hc, hends, hpost⟩
      · rw [← hsame svc hs] at hends
        exact Or.inr ⟨svc, hs, hc, hends, hpost⟩

/-! ### The default deployment -/

def buildServiceTable : ServiceTable where
  services :=
    [⟨"player", "http://player:8080/healthz", "player", .critical⟩,
      ⟨"decision-optimizer", "http://decision-optimizer:8081/healthz", "decision-optimizer",
        .high⟩,
      ⟨"audience-state", "http://audience-state:8082/healthz", "audience-state", .high⟩,
      ⟨"creative", "http://creative:8090/healthz", "creative", .medium⟩,
      ⟨"dashboard-api", "http://dashboard-api:8004/healthz", "dashboard-api", .medium⟩]
  nodup := by decide

def defaultManager : RestartManager where
  restartThreshold := 5
  fastFailWindowS := 120
  bootLoopThreshold := 3
  failureThreshold := 2

def playerRound (now : ℚ) (probe : Probe) (answers : Bool) : Round where
  turn n := if n = "player" then ⟨probe, now, .exited 0, answers⟩
    else ⟨.response 200, now, .exited 0, answers⟩
  playerWouldAnswer200 := answers
  consistent n := by
    intro h
    by_cases hn : n = "player" <;> simpa [hn] using h

/-! ### Whole runs -/

section Runs

variable (m : RestartManager) (table : ServiceTable)

def HoldSet (s : HealthLoop) : Prop :=
  SomeCritical table.services (fun svc => (s.states svc.name).Terminal) →
    s.relay.engagedBySupervisor = true

/-- At the end of an iteration in which the player would have answered, the hold is set if a
critical service is in boot loop or escalated. -/
def EscalationEngages (s : HealthLoop) (r : Round) : Prop :=
  r.playerWouldAnswer200 = true → HoldSet table ((healthLoop m table).next s r)

/-- When a critical ladder ends in the iteration while the hold is not set, the player answers
the `POST` of one that does. -/
def EndMeetsPlayer (s : HealthLoop) (r : Round) : Prop :=
  s.relay.engagedBySupervisor = false →
    SomeCritical table.services
      (fun svc => LadderEnds m (s.states svc.name) (r.turn svc.name)) →
    SomeCritical table.services fun svc =>
      LadderEnds m (s.states svc.name) (r.turn svc.name) ∧
        (r.turn svc.name).postAnswers200 = true

theorem holdSet_next_iff (s : HealthLoop) (r : Round) (h : HoldSet table s) :
    HoldSet table ((healthLoop m table).next s r) ↔ EndMeetsPlayer m table s r := by
  have hnext : (healthLoop m table).next s r = s.iterate m table.services r := rfl
  rw [hnext]
  have hhold := iterate_hold m table.nodup s r
  refine ⟨fun hset hclear hends => ?_, fun hmeets hterm => ?_⟩
  · obtain ⟨svc, hs, hc, hends⟩ := hends
    have hterm := (iterate_terminal m table.nodup s r hs).mpr (Or.inr hends)
    rcases hhold.mp (hset ⟨svc, hs, hc, hterm⟩) with hold | hpost
    · rw [hold] at hclear
      cases hclear
    · exact hpost
  · obtain ⟨svc, hs, hc, hterm⟩ := hterm
    rw [hhold]
    cases hold : s.relay.engagedBySupervisor with
    | true => exact Or.inl rfl
    | false =>
      -- the ladder ended in this iteration: an earlier end would have set the hold
      rcases (iterate_terminal m table.nodup s r hs).mp hterm with hbefore | hends
      · have hset := h ⟨svc, hs, hc, hbefore⟩
        rw [hold] at hset
        cases hset
      · exact Or.inr (hmeets hold ⟨svc, hs, hc, hends⟩)

theorem init_holdSet : HoldSet table (healthLoop m table).init := by
  intro hsome
  obtain ⟨svc, -, -, hterm⟩ := hsome
  simp [healthLoop, ServiceState.Terminal] at hterm

/-- In every run in which the player answers the engage call of each critical ladder's end, the
hold is set in every iteration in which such a ladder ends; and when the player would answer in
every iteration of the run, in no other. -/
theorem critical_escalation_engages (rounds : List Round) :
    ((healthLoop m table).EachStep (EndMeetsPlayer m table) (healthLoop m table).init rounds →
        (healthLoop m table).EachStep (EscalationEngages m table) (healthLoop m table).init
          rounds) ∧
      ((∀ r ∈ rounds, r.playerWouldAnswer200 = true) →
        (healthLoop m table).EachStep (EscalationEngages m table) (healthLoop m table).init
          rounds →
        (healthLoop m table).EachStep (EndMeetsPlayer m table) (healthLoop m table).init
          rounds) := by
  have hrun := Machine.eachStep_iff_of_inv (M := healthLoop m table)
    (P := fun s r => HoldSet table ((healthLoop m table).next s r))
    (fun s r h hc => (holdSet_next_iff m table s r h).mpr hc)
    (fun s r h => holdSet_next_iff m table s r h) (init_holdSet m table) rounds
  refine ⟨fun hmeets => ?_, fun hall => ?_⟩
  · exact Machine.eachStep_mono _ (Q := EscalationEngages m table) (fun s r h _ => h)
      (hrun.mpr hmeets)
  · intro hengages
    refine hrun.mp ?_
    refine (Machine.eachStep_congr _ (fun r hr s => ?_) _).mp hengages
    exact ⟨fun h => h (hall r hr), fun h _ => h⟩

end Runs

theorem critical_escalation_engages_answering :
    let rounds := [10, 20, 30, 40, 50].map fun now => playerRound now .failed true
    (healthLoop defaultManager buildServiceTable).EachStep
      (EscalationEngages defaultManager buildServiceTable)
      (healthLoop defaultManager buildServiceTable).init rounds := by
  intro rounds
  refine (critical_escalation_engages defaultManager buildServiceTable rounds).1 ?_
  have hpost : ∀ svc : ManagedService, ∀ r ∈ rounds,
      (r.turn svc.name).postAnswers200 = true := by
    intro svc r hr
    obtain ⟨now, -, rfl⟩ := List.mem_map.mp hr
    by_cases hn : svc.name = "player" <;> simp [playerRound, hn]
  have hmeets : ∀ r ∈ rounds, ∀ s, EndMeetsPlayer defaultManager buildServiceTable s r ↔
      True := by
    intro r hr s
    refine iff_true_intro ?_
    intro _ hsome
    obtain ⟨svc, hs, hc, hends⟩ := hsome
    exact ⟨svc, hs, hc, hends, hpost svc r hr⟩
  rw [Machine.eachStep_congr _ hmeets]
  exact Machine.eachStep_of_inv (I := fun _ => True) (fun _ _ _ => trivial)
    (fun _ _ _ => trivial) trivial rounds

/-- The player is down for five iterations, its ladder ends in the fifth, and in the sixth it
is up again: the hold stays clear. -/
theorem escalation_while_player_down :
    ¬ ∀ (m : RestartManager) (table : ServiceTable) (rounds : List Round),
      (healthLoop m table).EachStep (EscalationEngages m table) (healthLoop m table).init
        rounds := by
  intro h
  have hrun := h defaultManager buildServiceTable
    [playerRound 10 .failed false, playerRound 20 .failed false, playerRound 30 .failed false,
      playerRound 40 .failed false, playerRound 50 .failed false,
      playerRound 60 (.response 200) true]
  have hlast := hrun.2.2.2.2.2.1 rfl
  have hold := hlast ⟨⟨"player", "http://player:8080/healthz", "player", .critical⟩,
    List.mem_cons_self, rfl, by decide +kernel⟩
  exact absurd hold (by decide +kernel)

end AdaptiveAdvertisement.Supervisor
