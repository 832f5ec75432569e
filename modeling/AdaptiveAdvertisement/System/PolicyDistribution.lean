import AdaptiveAdvertisement.Dashboard.RuleSync
import AdaptiveAdvertisement.DecisionOptimizer.FreezeGate
import AdaptiveAdvertisement.System.GeneratedPolicy

/-!
# How rules reach the decision optimizer

The dashboard writes the rules file and asks the optimizer to load it; the two share nothing but the
file. Syncs run concurrently: between the query, the write and the request to the optimizer other
requests, other syncs and the optimizer itself take their steps, a write may break off, and the
optimizer may be down and come up again.

Source lines: `sync_rules` (`routers/manifests.py:401-488`), `reload_policy`
(`routers/system.py:370-397`), `rules_reload` (`decision_optimizer/health.py:58-92`), the startup
(`decision_optimizer/main.py:77-90`), `DecisionLoop.reload_policy` 65-78.
-/

namespace AdaptiveAdvertisement.System
open Library Contracts Dashboard DecisionOptimizer

/-! ### The optimizer's policy -/

/-- What an evaluation draws. -/
structure Draw where
  hour : ℕ
  draw : ℚ

/-- Ids that are no strings are left to the loop's handler of exceptions. -/
def nameOf : Option Json → Except Raised (Option String)
  | none => .ok none
  | some .null => .ok none
  | some (.str id) => .ok (some id)
  | some _ => .error .typeError

def engineOf (c : PolicyConfig) : PolicyEngine Draw where
  minDwellMs := c.minDwellMs
  cooldownMs := c.cooldownMs
  evaluate := fun signal d =>
    if h : audienceStateSignal signal = true then
      (c.evaluate ⟨signal, h⟩ d.hour d.draw).bind nameOf
    else .error (.keyError "state")

/-- `load_policy` on the path. -/
def loadFile (texts : Number.Texts) : FileRead → Except Raised PolicyConfig
  | .content (.value data) => loadPolicy texts data
  | _ => .error .loadError

/-! ### What a policy may name -/

theorem matchingRules_subset {s : Signal} {hour : ℕ} {rules matching : List Rule}
    (h : matchingRules s hour rules = .ok matching) : matching ⊆ rules := by
  induction rules generalizing matching with
  | nil =>
    obtain rfl : [] = matching := Except.ok.inj h
    exact List.Subset.refl []
  | cons r rules ih =>
    obtain ⟨holds, -, h⟩ := bind_ok h
    obtain ⟨rest, hrest, h⟩ := bind_ok h
    have hsub : rest ⊆ r :: rules := List.subset_cons_of_subset r (ih hrest)
    cases holds with
    | false =>
      obtain rfl : rest = matching := Except.ok.inj h
      exact hsub
    | true =>
      obtain rfl : r :: rest = matching := Except.ok.inj h
      exact List.cons_subset.mpr ⟨List.mem_cons_self, hsub⟩

theorem select_mem {fl : Number → Number} {draw : ℚ} {matching : List Rule} {id : Json}
    (h : PolicyConfig.select fl draw matching = .ok (some id)) :
    ∃ r ∈ matching, r.manifestId = id := by
  cases matching with
  | nil => cases h
  | cons top rest =>
    rw [PolicyConfig.select] at h
    split at h
    next chosen hchosen =>
      have hmem : chosen ∈ (top :: rest).filter fun r => decide (r.priority = top.priority) := by
        rw [hchosen]
        exact List.mem_singleton_self chosen
      exact ⟨chosen, List.mem_of_mem_filter hmem, by simpa using h⟩
    next =>
      obtain ⟨chosen, hchosen, hid⟩ := map_ok h
      exact ⟨chosen, List.mem_of_mem_filter (choices_mem_population hchosen),
        (Option.some.inj hid).symm⟩

theorem evaluate_mem {c : PolicyConfig} {s : Signal} {hour : ℕ} {draw : ℚ} {id : Json}
    (h : c.evaluate s hour draw = .ok (some id)) : ∃ r ∈ c.rules, r.manifestId = id := by
  obtain ⟨matching, hmatching, hselect⟩ := bind_ok h
  obtain ⟨r, hr, hid⟩ := select_mem hselect
  have hsorted := matchingRules_subset hmatching hr
  rw [PolicyConfig.sortedRules, List.mem_insertionSort] at hsorted
  exact ⟨r, hsorted, hid⟩

theorem engineOf_evaluate (c : PolicyConfig) (s : Signal) (d : Draw) :
    (engineOf c).evaluate s.1 d = (c.evaluate s d.hour d.draw).bind nameOf := dif_pos s.2

theorem engineOf_mem {c : PolicyConfig} {s : Signal} {d : Draw} {m : String}
    (h : (engineOf c).evaluate s.1 d = .ok (some m)) :
    ∃ r ∈ c.rules, r.manifestId = .str m := by
  rw [engineOf_evaluate] at h
  obtain ⟨id, heval, hname⟩ := bind_ok h
  cases id with
  | none => cases hname
  | some id =>
    cases id with
    | str name =>
      obtain rfl : name = m := by simpa [nameOf] using hname
      exact evaluate_mem heval
    | null => cases hname
    | bool b => cases hname
    | num q => cases hname
    | nonfinite x => cases hname
    | arr xs => cases hname
    | obj ms => cases hname

/-- A policy that always selects leaves no tick without a candidate. -/
theorem decide_selects (cfg : LoopConfig Draw) (loop : DecisionLoop) (c : SignalConsumer)
    (now : ℚ) {d : Draw} {P : String → Prop}
    (h : ∀ s : Signal, ∃ m, cfg.policy.evaluate s.1 d = .ok (some m) ∧ P m) :
    (∀ e, loop.decide cfg c now d ≠ .raised e) ∧ loop.decide cfg c now d ≠ .noMatch ∧
      ∀ m, (loop.decide cfg c now d).candidate = some m → P m := by
  unfold DecisionLoop.decide
  split
  · split <;> simp [Decision.candidate]
  · split
    · simp [Decision.candidate]
    next s hs =>
      obtain ⟨m, heval, hm⟩ := h s
      simp only [heval]
      split_ifs <;> simpa [Decision.candidate] using hm

/-! ### The parties -/

/-- What is at the path while a write is under way or after it broke off: an initial piece of the
text, whose outermost bracket is not closed. -/
structure Piece where
  loaded : Loaded
  broken : ∀ v, loaded ≠ .value v

inductive WriteOutcome where
  | complete
  | notOpened
  | brokenOff (left : Piece)

/-- Whether a request arrives, and its answer. -/
structure Exchange where
  arrives : Bool
  answered : Bool

inductive SyncStage where
  | selected (enabled : List Manifest)
  | written (enabled : List Manifest)

def SyncStage.enabled : SyncStage → List Manifest
  | .selected ms => ms
  | .written ms => ms

structure Distribution (κ : Type) where
  dashboard : DashboardState := {}
  syncs : Dict ℕ SyncStage := .empty
  rulesFile : FileRead
  /-- `none` while the process is down. -/
  optimizer : Option (Optimizer κ Draw) := none

/-- What stays fixed: the optimizer's setting, the reading of numbers and the rules file that comes
with the installation. -/
structure Deployment (τ : Type) where
  setting : Setting τ
  texts : Number.Texts
  shipped : FileRead

inductive DistributionInput (τ κ : Type) where
  | request (r : ManifestRequest)
  | select (job : ℕ) (tie : String → ℚ)
  | truncate (job : ℕ) (seen : Piece)
  | write (job : ℕ) (outcome : WriteOutcome)
  | report (job : ℕ) (post : Exchange) (commits : Bool)
  | abandon (job : ℕ)
  | relay (post : Exchange)
  | optimize (i : OptimizerStep τ κ Draw) (own : ∀ p, i ≠ .reloadPolicy p)
  | stop
  | start

inductive DistributionOutput (τ κ : Type) where
  | nothing
  | wrote (enabled : List Manifest)
  | reported (r : SyncRulesOut)
  | failed
  | sent (b : Option (Broadcast κ τ))

namespace DistributionOutput

variable {τ κ : Type}

def hasWritten : DistributionOutput τ κ → Bool
  | .wrote _ => true
  | _ => false

/-- A sync reports that the optimizer has loaded the file. -/
def hasReloaded : DistributionOutput τ κ → Bool
  | .reported r => r.optimizerReloaded
  | _ => false

theorem exists_wrote {out : DistributionOutput τ κ} (h : out.hasWritten = true) :
    ∃ ms, out = .wrote ms := by
  cases out with
  | wrote ms => exact ⟨ms, rfl⟩
  | nothing => cases h
  | reported r => cases h
  | failed => cases h
  | sent b => cases h

end DistributionOutput

section Step

variable {τ κ : Type} [DecidableEq κ] (dp : Deployment τ)

def generatedFile (ms : List Manifest) : FileRead :=
  .content (dp.setting.codec.loads (dp.setting.codec.dumps (buildRulesFile ms)))

/-- `rules_reload`. Whatever the loader raises, the policy stays. -/
def rulesReload (file : FileRead) (o : Optimizer κ Draw) : Optimizer κ Draw × Bool :=
  match loadFile dp.texts file with
  | .ok c => ((o.step dp.setting (.reloadPolicy (engineOf c))).1, true)
  | .error _ => (o, false)

namespace Distribution

def postReload (s : Distribution κ) (post : Exchange) : Distribution κ × Bool :=
  match s.optimizer with
  | some o =>
    if post.arrives then
      let r := rulesReload dp s.rulesFile o
      ({ s with optimizer := some r.1 }, r.2 && post.answered)
    else (s, false)
  | none => (s, false)

def write (s : Distribution κ) (job : ℕ) (ms : List Manifest) :
    WriteOutcome → Distribution κ × DistributionOutput τ κ
  | .complete =>
    ({ s with syncs := s.syncs.set job (.written ms), rulesFile := generatedFile dp ms }, .wrote ms)
  | .notOpened => ({ s with syncs := s.syncs.erase job }, .failed)
  | .brokenOff left =>
    ({ s with syncs := s.syncs.erase job, rulesFile := .content left.loaded }, .failed)

def report (s : Distribution κ) (job : ℕ) (ms : List Manifest) (post : Exchange)
    (commits : Bool) : Distribution κ × DistributionOutput τ κ :=
  let r := s.postReload dp post
  let out := syncReport ms r.2
  let ended := { r.1 with syncs := r.1.syncs.erase job }
  if commits then
    ({ ended with
      dashboard := { ended.dashboard with
        events := ended.dashboard.events ++ [rulesSyncedEvent out] } }, .reported out)
  else (ended, .failed)

def step (s : Distribution κ) :
    DistributionInput τ κ → Distribution κ × DistributionOutput τ κ
  | .request r => ({ s with dashboard := (s.dashboard.handle dp.setting.codec r).1 }, .nothing)
  | .select job tie =>
    if s.syncs.contains job then (s, .nothing)
    else ({ s with syncs := s.syncs.set job (.selected (enabledManifests tie s.dashboard)) },
      .nothing)
  | .truncate job seen =>
    match s.syncs.get job with
    | some (.selected _) => ({ s with rulesFile := .content seen.loaded }, .nothing)
    | _ => (s, .nothing)
  | .write job outcome =>
    match s.syncs.get job with
    | some (.selected ms) => s.write dp job ms outcome
    | _ => (s, .nothing)
  | .report job post commits =>
    match s.syncs.get job with
    | some (.written ms) => s.report dp job ms post commits
    | _ => (s, .nothing)
  | .abandon job => ({ s with syncs := s.syncs.erase job }, .nothing)
  | .relay post => ((s.postReload dp post).1, .nothing)
  | .optimize i _ =>
    match s.optimizer with
    | some o =>
      let r := o.step dp.setting i
      ({ s with optimizer := some r.1 }, .sent r.2)
    | none => (s, .nothing)
  | .stop => ({ s with optimizer := none }, .nothing)
  | .start =>
    match s.optimizer, loadFile dp.texts s.rulesFile with
    | none, .ok c => ({ s with optimizer := some { policy := engineOf c } }, .nothing)
    | _, _ => (s, .nothing)

end Distribution

def distributing :
    Machine (Distribution κ) (DistributionInput τ κ) (DistributionOutput τ κ) where
  init := { rulesFile := dp.shipped }
  step := fun s i => s.step dp i

end Step

/-! ### What one step can do -/

section Steps

variable {τ κ : Type} {dp : Deployment τ} {s : Distribution κ}
  {i : DistributionInput τ κ} {ms : List Manifest}

/-- The policy in force stays, or it is what is loaded of the file at that moment. -/
def PolicyStep (dp : Deployment τ) (file : FileRead) (before after : Option (Optimizer κ Draw)) :
    Prop :=
  ∀ o', after = some o' → (∃ o, before = some o ∧ o'.policy = o.policy) ∨
    ∃ c, loadFile dp.texts file = .ok c ∧ o'.policy = engineOf c

theorem policyStep_refl (file : FileRead) (o : Option (Optimizer κ Draw)) :
    PolicyStep dp file o o := fun o' h => Or.inl ⟨o', h, rfl⟩

/-- What a step does: to the policy in force, to the file, to the running syncs and to the rows,
and what it tells. -/
structure StepEffect (dp : Deployment τ) (s : Distribution κ) (i : DistributionInput τ κ)
    (s' : Distribution κ) (out : DistributionOutput τ κ) : Prop where
  policy : PolicyStep dp s.rulesFile s.optimizer s'.optimizer
  rulesFile : s'.rulesFile = s.rulesFile ∨ (∃ p : Piece, s'.rulesFile = .content p.loaded) ∨
    ∃ ms, out = .wrote ms ∧ s'.rulesFile = generatedFile dp ms
  syncs : ∀ job stage, s'.syncs.get job = some stage →
    (∃ stage', s.syncs.get job = some stage' ∧ stage'.enabled = stage.enabled) ∨
      ∃ tie, i = .select job tie ∧ s.syncs.contains job = false ∧
        stage.enabled = enabledManifests tie s.dashboard
  wrote : ∀ ms, out = .wrote ms → s'.rulesFile = generatedFile dp ms ∧
    ∃ job stage, s.syncs.get job = some stage ∧ stage.enabled = ms
  reloaded : out.hasReloaded = true → ∃ o c, s'.optimizer = some o ∧
    loadFile dp.texts s.rulesFile = .ok c ∧ o.policy = engineOf c
  dashboard : RowsApproved s.dashboard → RowsApproved s'.dashboard

/-- Neither that a file was written nor that one was loaded. -/
def Silent (out : DistributionOutput τ κ) : Prop :=
  out.hasWritten = false ∧ out.hasReloaded = false

theorem silent_nothing : Silent (.nothing : DistributionOutput τ κ) := ⟨rfl, rfl⟩

theorem silent_failed : Silent (.failed : DistributionOutput τ κ) := ⟨rfl, rfl⟩

theorem silent_sent (b : Option (Broadcast κ τ)) : Silent (.sent b) := ⟨rfl, rfl⟩

theorem Silent.not_wrote {out : DistributionOutput τ κ} (h : Silent out) (ms : List Manifest) :
    out ≠ .wrote ms := by
  rintro rfl
  cases h.1

theorem Silent.not_reloaded {out : DistributionOutput τ κ} (h : Silent out) :
    ¬ out.hasReloaded = true := by
  rw [h.2]
  decide

theorem reoptimized (s : Distribution κ) {o : Option (Optimizer κ Draw)}
    {out : DistributionOutput τ κ} (hpolicy : PolicyStep dp s.rulesFile s.optimizer o)
    (hout : Silent out) : StepEffect dp s i { s with optimizer := o } out where
  policy := hpolicy
  rulesFile := Or.inl rfl
  syncs := fun _ stage h => Or.inl ⟨stage, h, rfl⟩
  wrote := fun ms h => absurd h (hout.not_wrote ms)
  reloaded := fun h => absurd h hout.not_reloaded
  dashboard := id

theorem unchanged (s : Distribution κ) {out : DistributionOutput τ κ} (hout : Silent out) :
    StepEffect dp s i s out := reoptimized s (policyStep_refl _ _) hout

theorem syncs_erase {j job : ℕ} {stage : SyncStage}
    (h : (s.syncs.erase j).get job = some stage) : s.syncs.get job = some stage := by
  rw [Dict.get_erase] at h
  split_ifs at h
  exact h

/-- A job that ends without a report. -/
theorem ended (s : Distribution κ) (job : ℕ) {out : DistributionOutput τ κ}
    (hout : Silent out) : StepEffect dp s i { s with syncs := s.syncs.erase job } out where
  policy := policyStep_refl _ _
  rulesFile := Or.inl rfl
  syncs := fun _ stage h => Or.inl ⟨stage, syncs_erase h, rfl⟩
  wrote := fun ms h => absurd h (hout.not_wrote ms)
  reloaded := fun h => absurd h hout.not_reloaded
  dashboard := id

theorem write_effect {job : ℕ} (h : s.syncs.get job = some (.selected ms))
    (outcome : WriteOutcome) :
    StepEffect dp s i (s.write dp job ms outcome).1 (s.write dp job ms outcome).2 := by
  cases outcome with
  | complete =>
    have hsilent : ¬ (s.write dp job ms .complete).2.hasReloaded = true := by
      simp [Distribution.write, DistributionOutput.hasReloaded]
    refine ⟨policyStep_refl _ _, Or.inr (Or.inr ⟨ms, rfl, rfl⟩), fun j stage hstage => ?_,
      fun ms' hms => ?_, fun h => absurd h hsilent, id⟩
    · simp only [Distribution.write, Dict.get_set] at hstage
      split_ifs at hstage with hjob
      · obtain rfl := Option.some.inj hstage
        exact Or.inl ⟨.selected ms, by rw [hjob, h], rfl⟩
      · exact Or.inl ⟨stage, hstage, rfl⟩
    · obtain rfl : ms = ms' := by simpa [Distribution.write] using hms
      exact ⟨rfl, job, _, h, rfl⟩
  | notOpened => exact ended s job silent_failed
  | brokenOff left =>
    exact ⟨policyStep_refl _ _, Or.inr (Or.inl ⟨left, rfl⟩),
      fun _ stage h => Or.inl ⟨stage, syncs_erase h, rfl⟩,
      fun ms hms => absurd hms (silent_failed.not_wrote ms),
      fun h => absurd h silent_failed.not_reloaded, id⟩

variable [DecidableEq κ]

theorem postReload_policy (post : Exchange) :
    PolicyStep dp s.rulesFile s.optimizer (s.postReload dp post).1.optimizer := by
  unfold Distribution.postReload
  cases ho : s.optimizer with
  | none =>
    intro o' h
    rw [ho] at h
    cases h
  | some o =>
    cases post.arrives with
    | false =>
      intro o' h
      exact Or.inl ⟨o', ho.symm.trans h, rfl⟩
    | true =>
      intro o' h
      simp only [if_true, Option.some.injEq] at h
      subst h
      unfold rulesReload
      cases hload : loadFile dp.texts s.rulesFile with
      | error e => exact Or.inl ⟨o, rfl, rfl⟩
      | ok c => exact Or.inr ⟨c, rfl, rfl⟩

/-- A request to the optimizer reaches nothing else. -/
theorem postReload_eq (post : Exchange) : (s.postReload dp post).1 =
    { s with optimizer := (s.postReload dp post).1.optimizer } := by
  unfold Distribution.postReload
  split
  · split <;> rfl
  · rfl

theorem postReload_rulesFile (post : Exchange) :
    (s.postReload dp post).1.rulesFile = s.rulesFile := by
  rw [postReload_eq]

theorem postReload_syncs (post : Exchange) : (s.postReload dp post).1.syncs = s.syncs := by
  rw [postReload_eq]

theorem postReload_dashboard (post : Exchange) :
    (s.postReload dp post).1.dashboard = s.dashboard := by
  rw [postReload_eq]

/-- A reload that was answered with success has loaded the file. -/
theorem postReload_true {post : Exchange} (h : (s.postReload dp post).2 = true) :
    ∃ o c, (s.postReload dp post).1.optimizer = some o ∧
      loadFile dp.texts s.rulesFile = .ok c ∧ o.policy = engineOf c := by
  unfold Distribution.postReload at h ⊢
  cases ho : s.optimizer with
  | none => simp [ho] at h
  | some o =>
    cases harrives : post.arrives with
    | false => simp [ho, harrives] at h
    | true =>
      simp only [ho, harrives, if_true] at h ⊢
      cases hload : loadFile dp.texts s.rulesFile with
      | error e => simp [rulesReload, hload] at h
      | ok c => exact ⟨_, c, rfl, rfl, by simp only [rulesReload, hload]; rfl⟩

theorem optimizerStep_policy {st : Setting τ} {i : OptimizerStep τ κ Draw}
    (own : ∀ p, i ≠ .reloadPolicy p) (o : Optimizer κ Draw) :
    (o.step st i).1.policy = o.policy := by
  cases i with
  | reloadPolicy p => exact absurd rfl (own p)
  | signal raw now => rfl
  | tick t => rfl
  | connect ws => rfl
  | close ws => rfl

theorem report_effect (s : Distribution κ) (job : ℕ) (ms : List Manifest) (post : Exchange)
    (commits : Bool) : StepEffect dp s i (s.report dp job ms post commits).1
      (s.report dp job ms post commits).2 where
  policy := by cases commits <;> exact postReload_policy post
  rulesFile := by cases commits <;> exact Or.inl (postReload_rulesFile post)
  syncs := by
    intro j stage h
    have hsyncs : (s.postReload dp post).1.syncs = s.syncs := postReload_syncs post
    refine Or.inl ⟨stage, syncs_erase (j := job) ?_, rfl⟩
    rw [← hsyncs]
    cases commits <;> exact h
  wrote := by
    intro ms' h
    cases commits <;> cases h
  reloaded := by
    intro h
    cases commits with
    | false => cases h
    | true => exact postReload_true h
  dashboard := by
    intro h
    have hrows : (s.postReload dp post).1.dashboard.rows = s.dashboard.rows :=
      congrArg DashboardState.rows (postReload_dashboard post)
    refine rowsApproved_of_rows h ?_
    cases commits <;> exact hrows

theorem step_effect (dp : Deployment τ) (s : Distribution κ) (i : DistributionInput τ κ) :
    StepEffect dp s i (s.step dp i).1 (s.step dp i).2 := by
  have hquiet : StepEffect dp s i s .nothing := unchanged s silent_nothing
  cases i with
  | request r => exact { hquiet with dashboard := fun h => handle_rowsApproved h r }
  | select job tie =>
    simp only [Distribution.step]
    split_ifs with hrunning
    · exact hquiet
    · refine { hquiet with syncs := fun j stage h => ?_ }
      rw [Dict.get_set] at h
      split_ifs at h with hjob
      · obtain rfl := Option.some.inj h
        subst hjob
        exact Or.inr ⟨tie, rfl, by simpa using hrunning, rfl⟩
      · exact Or.inl ⟨stage, h, rfl⟩
  | truncate job seen =>
    simp only [Distribution.step]
    split
    · exact ⟨policyStep_refl _ _, Or.inr (Or.inl ⟨seen, rfl⟩), hquiet.syncs,
        fun ms hms => absurd hms (silent_nothing.not_wrote ms),
        fun h => absurd h silent_nothing.not_reloaded, id⟩
    · exact hquiet
  | write job outcome =>
    simp only [Distribution.step]
    split
    next ms hms => exact write_effect hms outcome
    next => exact hquiet
  | report job post commits =>
    simp only [Distribution.step]
    split
    · exact report_effect s job _ post commits
    · exact hquiet
  | abandon job => exact ended s job silent_nothing
  | relay post =>
    simp only [Distribution.step]
    rw [postReload_eq]
    exact reoptimized s (postReload_policy post) silent_nothing
  | optimize i own =>
    simp only [Distribution.step]
    cases ho : s.optimizer with
    | none => exact hquiet
    | some o =>
      refine reoptimized s (fun o' h => ?_) (silent_sent _)
      obtain rfl := Option.some.inj h
      exact Or.inl ⟨o, ho, optimizerStep_policy own o⟩
  | stop =>
    refine reoptimized s (fun o' h => ?_) silent_nothing
    cases h
  | start =>
    simp only [Distribution.step]
    split
    next c hdown hload =>
      refine reoptimized s (fun o' h => ?_) silent_nothing
      obtain rfl := Option.some.inj h
      exact Or.inr ⟨c, hload, rfl⟩
    next => exact hquiet

end Steps

/-! ### Where the policy in force comes from -/

section Runs

variable {τ κ : Type} [DecidableEq κ] {dp : Deployment τ} {F : FileRead → Prop}

/-- The policy is loaded of a file of this kind. -/
def LoadedOf (dp : Deployment τ) (F : FileRead → Prop) (p : PolicyEngine Draw) : Prop :=
  ∃ file c, F file ∧ loadFile dp.texts file = .ok c ∧ p = engineOf c

/-- The file and the policy in force are of this kind. -/
structure Held (dp : Deployment τ) (F : FileRead → Prop) (s : Distribution κ) : Prop where
  rulesFile : F s.rulesFile
  policy : ∀ o, s.optimizer = some o → LoadedOf dp F o.policy

/-- A file that a sync has written of a list of this kind, or a piece of one. -/
def FileOf (dp : Deployment τ) (Q : List Manifest → Prop) (file : FileRead) : Prop :=
  (∃ p : Piece, file = .content p.loaded) ∨ ∃ ms, Q ms ∧ file = generatedFile dp ms

omit [DecidableEq κ] in
theorem StepEffect.held {s s' : Distribution κ} {i : DistributionInput τ κ}
    {out : DistributionOutput τ κ} (h : StepEffect dp s i s' out) (hs : Held dp F s)
    (hpiece : ∀ p : Piece, F (.content p.loaded))
    (hwrote : ∀ ms, out = .wrote ms → F (generatedFile dp ms)) : Held dp F s' where
  rulesFile := by
    rcases h.rulesFile with hsame | ⟨p, hp⟩ | ⟨ms, hout, hfile⟩
    · rw [hsame]
      exact hs.rulesFile
    · rw [hp]
      exact hpiece p
    · rw [hfile]
      exact hwrote ms hout
  policy := by
    intro o' ho'
    rcases h.policy o' ho' with ⟨o, ho, hsame⟩ | ⟨c, hload, hpolicy⟩
    · rw [hsame]
      exact hs.policy o ho
    · exact ⟨_, c, hs.rulesFile, hload, hpolicy⟩

theorem loadFile_piece (texts : Number.Texts) (p : Piece) (c : PolicyConfig) :
    loadFile texts (.content p.loaded) ≠ .ok c := by
  cases hl : p.loaded with
  | value v => exact absurd hl (p.broken v)
  | decodeError => simp [loadFile]
  | unicodeError => simp [loadFile]
  | raised => simp [loadFile]

theorem loadFile_generated (ms : List Manifest) :
    loadFile dp.texts (generatedFile dp ms) = .ok (loadedPolicy ms 10000 5000) := by
  simp only [generatedFile, dp.setting.codec.loads_dumps, loadFile, loadPolicy_buildRulesFile]

theorem loadedOf_generated {Q : List Manifest → Prop} {p : PolicyEngine Draw}
    (h : LoadedOf dp (FileOf dp Q) p) :
    ∃ ms, Q ms ∧ p = engineOf (loadedPolicy ms 10000 5000) := by
  obtain ⟨file, c, ⟨piece, rfl⟩ | ⟨ms, hms, rfl⟩, hload, rfl⟩ := h
  · exact absurd hload (loadFile_piece _ _ _)
  · rw [loadFile_generated, Except.ok.injEq] at hload
    exact ⟨ms, hms, by rw [hload]⟩

/-! ### A run from the start -/

/-- A sync begins in the run, with its query right after `before`. -/
structure Begins (dp : Deployment τ) (is before : List (DistributionInput τ κ)) (job : ℕ)
    (tie : String → ℚ) : Prop where
  queries : before ++ [.select job tie] <+: is
  new : ((distributing dp).run (distributing dp).init before).syncs.contains job = false

/-- A sync of the run has found `ms` enabled. -/
def FoundEnabled (dp : Deployment τ) (is : List (DistributionInput τ κ)) (ms : List Manifest) :
    Prop :=
  ∃ before job tie, Begins dp is before job tie ∧
    ms = enabledManifests tie ((distributing dp).run (distributing dp).init before).dashboard

theorem Begins.mono {is js before : List (DistributionInput τ κ)} {job : ℕ}
    {tie : String → ℚ}
    (h : Begins dp is before job tie) (hpre : is <+: js) : Begins dp js before job tie :=
  ⟨h.queries.trans hpre, h.new⟩

theorem FoundEnabled.mono {is js : List (DistributionInput τ κ)} {ms : List Manifest}
    (h : FoundEnabled dp is ms) (hpre : is <+: js) : FoundEnabled dp js ms := by
  obtain ⟨before, job, tie, hbegins, rfl⟩ := h
  exact ⟨before, job, tie, hbegins.mono hpre, rfl⟩

/-- The file is that of the installation, or of manifests that a sync has found. -/
def Traced (dp : Deployment τ) (is : List (DistributionInput τ κ)) (file : FileRead) : Prop :=
  file = dp.shipped ∨ FileOf dp (FoundEnabled dp is) file

structure RunInv (dp : Deployment τ) (is : List (DistributionInput τ κ)) (s : Distribution κ) :
    Prop where
  syncs : ∀ job stage, s.syncs.get job = some stage → FoundEnabled dp is stage.enabled
  held : Held dp (Traced dp is) s
  rows : RowsApproved s.dashboard

theorem Traced.mono {is js : List (DistributionInput τ κ)} {file : FileRead}
    (h : Traced dp is file) (hpre : is <+: js) : Traced dp js file := by
  rcases h with h | h | ⟨ms, hms, h⟩
  · exact Or.inl h
  · exact Or.inr (Or.inl h)
  · exact Or.inr (Or.inr ⟨ms, hms.mono hpre, h⟩)

omit [DecidableEq κ] in
theorem Held.mono {F G : FileRead → Prop} {s : Distribution κ} (h : Held dp F s)
    (hle : ∀ file, F file → G file) : Held dp G s where
  rulesFile := hle _ h.rulesFile
  policy := by
    intro o ho
    obtain ⟨file, c, hfile, hload⟩ := h.policy o ho
    exact ⟨file, c, hle file hfile, hload⟩

theorem runInv_step {is : List (DistributionInput τ κ)} (i : DistributionInput τ κ)
    (h : RunInv dp is ((distributing dp).run (distributing dp).init is)) :
    RunInv dp (is ++ [i]) ((distributing dp).run (distributing dp).init (is ++ [i])) := by
  have hpre : is <+: is ++ [i] := List.prefix_append is [i]
  rw [Machine.run_snoc]
  have heffect := step_effect dp ((distributing dp).run (distributing dp).init is) i
  refine ⟨fun job stage hstage => ?_, ?_, heffect.dashboard h.rows⟩
  · rcases heffect.syncs job stage hstage with ⟨stage', hstage', henabled⟩ |
      ⟨tie, hselect, hnew, henabled⟩
    · rw [← henabled]
      exact (h.syncs job stage' hstage').mono hpre
    · rw [henabled]
      exact ⟨is, job, tie, ⟨by rw [hselect], hnew⟩, rfl⟩
  · refine heffect.held (h.held.mono fun file hfile => hfile.mono hpre)
      (fun p => Or.inr (Or.inl ⟨p, rfl⟩)) fun ms hms => ?_
    obtain ⟨-, job, stage, hstage, rfl⟩ := heffect.wrote ms hms
    exact Or.inr (Or.inr ⟨_, (h.syncs job stage hstage).mono hpre, rfl⟩)

theorem runInv (dp : Deployment τ) (is : List (DistributionInput τ κ)) :
    RunInv dp is ((distributing dp).run (distributing dp).init is) := by
  induction is using List.reverseRecOn with
  | nil =>
    refine ⟨fun job stage h => ?_, ⟨Or.inl rfl, fun o h => nomatch h⟩, rowsApproved_init⟩
    simp [distributing] at h
  | append_singleton is i ih => exact runInv_step i ih

/-! ### The laws -/

/-- The rules of the installation name `m`, or a sync of the run has found it enabled with its
approval on record, or has found nothing enabled, where the stub is shown. -/
def Sanctioned (dp : Deployment τ) (is : List (DistributionInput τ κ)) (m : String) : Prop :=
  (∃ c, loadFile dp.texts dp.shipped = .ok c ∧ ∃ r ∈ c.rules, r.manifestId = .str m) ∨
    ∃ before job tie, Begins dp is before job tie ∧
      let d := ((distributing dp).run (distributing dp).init before).dashboard
      ((∃ row, d.rows.get m = some row ∧ row.status = .enabled ∧ row.approvedBy.isSome ∧
        row.approvedAt.isSome) ∨
      (∀ id row, d.rows.get id = some row → row.status ≠ .enabled) ∧ m = "manifest-attract")

theorem loadedPolicy_playable {ms : List Manifest} {minDwellMs cooldownMs : ℤ} {r : Rule}
    {m : String} (hr : r ∈ (loadedPolicy ms minDwellMs cooldownMs).rules)
    (hid : r.manifestId = .str m) : Playable ms m := by
  obtain ⟨g, hg, rfl⟩ := List.mem_map.mp hr
  obtain rfl : g.manifestId = m := by simpa [loadedRule] using hid
  exact allRules_playable ms hg

theorem Sanctioned.mono {is js : List (DistributionInput τ κ)} {m : String}
    (h : Sanctioned dp is m) (hpre : is <+: js) : Sanctioned dp js m := by
  rcases h with hshipped | ⟨before, job, tie, hbegins, hfound⟩
  · exact Or.inl hshipped
  · exact Or.inr ⟨before, job, tie, hbegins.mono hpre, hfound⟩

theorem policy_sanctioned {is : List (DistributionInput τ κ)} {o : Optimizer κ Draw} {s : Signal}
    {d : Draw} {m : String}
    (ho : ((distributing dp).run (distributing dp).init is).optimizer = some o)
    (heval : o.policy.evaluate s.1 d = .ok (some m)) : Sanctioned dp is m := by
  obtain ⟨file, c, hfile, hload, hpolicy⟩ := (runInv dp is).held.policy o ho
  have hnamed : ∃ r ∈ c.rules, r.manifestId = .str m := by
    rw [hpolicy] at heval
    exact engineOf_mem heval
  rcases hfile with rfl | ⟨p, rfl⟩ | ⟨ms, ⟨before, job, tie, hbegins, rfl⟩, rfl⟩
  · exact Or.inl ⟨c, hload, hnamed⟩
  · exact absurd hload (loadFile_piece _ _ _)
  · rw [loadFile_generated, Except.ok.injEq] at hload
    subst hload
    obtain ⟨r, hr, hid⟩ := hnamed
    have hrows := (runInv dp before).rows
    refine Or.inr ⟨before, job, tie, hbegins, ?_⟩
    rcases loadedPolicy_playable hr hid with ⟨row, hrow, rfl⟩ | ⟨hnil, rfl⟩
    · obtain ⟨⟨id, hget⟩, hstatus⟩ := mem_enabledManifests.mp hrow
      have hkey := hrows.keyed id row hget
      have happroval := hrows.approved id row hget (by simp [hstatus, pastApproval])
      exact Or.inl ⟨row, by rw [hkey]; exact hget, hstatus, happroval⟩
    · refine Or.inr ⟨fun id row hget hstatus => ?_, rfl⟩
      have hmem : row ∈ enabledManifests tie _ :=
        mem_enabledManifests.mpr ⟨⟨id, hget⟩, hstatus⟩
      rw [hnil] at hmem
      cases hmem

/-- Whatever syncs, writes and restarts come between, the optimizer activates only what it may. -/
theorem activates_sanctioned (dp : Deployment τ) (is : List (DistributionInput τ κ))
    {o : Optimizer κ Draw} (t : TickInput κ Draw) {m why : String}
    (ho : ((distributing dp).run (distributing dp).init is).optimizer = some o)
    (hactivate : o.decision dp.setting t = .activate m why) : Sanctioned dp is m := by
  obtain ⟨signal, -, -, heval, -⟩ := (decide_activate_iff _ _ _ _ _ _ _).mp hactivate
  exact policy_sanctioned ho heval

/-! ### A first sync -/

theorem signal_own {τ κ : Type} (raw : τ) (now : ℚ) (p : PolicyEngine Draw) :
    (.signal raw now : OptimizerStep τ κ Draw) ≠ .reloadPolicy p := by
  simp

def lobbyDeployment : Deployment Json :=
  ⟨defaultSetting, ⟨fun _ => none, fun _ => none⟩, .osError⟩

/-- One manifest is created, approved, enabled and synced; the optimizer comes up only then. -/
def lobbySync : List (DistributionInput Json Unit) :=
  [.request (.create { promoBody with audienceTags := ["attract"] }),
    .request (.approve promoId {} 0), .request (.enable promoId 1), .select 0 fun _ => 0,
    .start, .write 0 .complete, .start]

def lobbyRun : List (DistributionInput Json Unit) :=
  lobbySync ++ [.report 0 ⟨true, true⟩ true,
    .optimize (.signal disagreeingJson 0) (signal_own disagreeingJson 0)]

def lobbyTick : TickInput Unit Draw := { DecisionOptimizer.secondTick with draw := ⟨12, 0⟩ }

theorem lobbyRun_activates : ∃ o why,
    ((distributing lobbyDeployment).run (distributing lobbyDeployment).init lobbyRun).optimizer =
      some o ∧ o.decision lobbyDeployment.setting lobbyTick = .activate "promo-1" why := by
  have hrun : (((distributing lobbyDeployment).run (distributing lobbyDeployment).init
      lobbyRun).optimizer.map fun o => o.decision lobbyDeployment.setting lobbyTick) =
        some (.activate "promo-1" "policy rule match; presence_count=2 confidence=0.90") := by
    decide +kernel
  obtain ⟨o, ho, hdecision⟩ := Option.map_eq_some_iff.mp hrun
  exact ⟨o, _, ho, hdecision⟩

theorem lobbyRun_sanctioned : Sanctioned lobbyDeployment lobbyRun "promo-1" := by
  obtain ⟨o, why, ho, hactivate⟩ := lobbyRun_activates
  exact activates_sanctioned lobbyDeployment lobbyRun lobbyTick ho hactivate

/-! ### After a reload -/

/-- What was written since a state. -/
def WrittenIn (outs : List (DistributionOutput τ κ)) (ms : List Manifest) : Prop :=
  .wrote ms ∈ outs

theorem fileOf_mono {Q Q' : List Manifest → Prop} {file : FileRead} (h : FileOf dp Q file)
    (hle : ∀ ms, Q ms → Q' ms) : FileOf dp Q' file := by
  rcases h with h | ⟨ms, hms, h⟩
  · exact Or.inl h
  · exact Or.inr ⟨ms, hle ms hms, h⟩

/-- The policy in force is of a list written since, and lets no tick go without a candidate. -/
structure DecidesOn (dp : Deployment τ) (outs : List (DistributionOutput τ κ))
    (o : Optimizer κ Draw) (ms : List Manifest) : Prop where
  written : WrittenIn outs ms
  policy : o.policy = engineOf (loadedPolicy ms 10000 5000)
  noError : ∀ t e, o.decision dp.setting t ≠ .raised e
  someMatch : ∀ t, o.decision dp.setting t ≠ .noMatch
  playable : ∀ t m, (o.decision dp.setting t).candidate = some m → Playable ms m

theorem engineOf_selects (ms : List Manifest) (s : Signal) (d : Draw) :
    ∃ m, (engineOf (loadedPolicy ms 10000 5000)).evaluate s.1 d = .ok (some m) ∧
      Playable ms m := by
  obtain ⟨r, hr, hmatched⟩ := loadedPolicy_matched ms 10000 5000 s d.hour
  obtain ⟨top, htop, heval⟩ := PolicyConfig.evaluate_isTop s d.hour
    (loadedPolicy_comparable ms 10000 5000) (loadedPolicy_weights ms 10000 5000) hr hmatched d.draw
  obtain ⟨g, hg, rfl⟩ := List.mem_map.mp htop.1.1
  refine ⟨g.manifestId, ?_, allRules_playable ms hg⟩
  rw [engineOf_evaluate, heval]
  rfl

omit [DecidableEq κ] in
theorem decidesOn {outs : List (DistributionOutput τ κ)} {o : Optimizer κ Draw}
    {ms : List Manifest}
    (hwritten : WrittenIn outs ms) (hpolicy : o.policy = engineOf (loadedPolicy ms 10000 5000)) :
    DecidesOn dp outs o ms := by
  have htotal : ∀ (s : Signal) (d : Draw), ∃ m, o.policy.evaluate s.1 d = .ok (some m) ∧
      Playable ms m := by
    intro s d
    rw [hpolicy]
    exact engineOf_selects ms s d
  have hdecide := fun t : TickInput κ Draw =>
    decide_selects (o.cfg dp.setting) o.loop o.consumer t.now fun s => htotal s t.draw
  exact ⟨hwritten, hpolicy, fun t => (hdecide t).1, fun t => (hdecide t).2.1,
    fun t => (hdecide t).2.2⟩

section Since

variable {l : List (DistributionOutput τ κ)} {s : Distribution κ}

theorem fileOf_step (h : FileOf dp (WrittenIn l) s.rulesFile) (i : DistributionInput τ κ) :
    FileOf dp (WrittenIn (l ++ [(distributing dp).out s i]))
      ((distributing dp).next s i).rulesFile := by
  rcases (step_effect dp s i).rulesFile with hsame | hpiece | ⟨ms, hout, hfile⟩
  · have hle : FileOf dp (WrittenIn (l ++ [(distributing dp).out s i])) s.rulesFile :=
      fileOf_mono h fun ms hms => List.mem_append_left _ hms
    exact hsame ▸ hle
  · exact Or.inl hpiece
  · exact Or.inr ⟨ms, List.mem_append_right _ (List.mem_singleton.mpr hout.symm), hfile⟩

theorem held_step (h : Held dp (FileOf dp (WrittenIn l)) s) (i : DistributionInput τ κ) :
    Held dp (FileOf dp (WrittenIn (l ++ [(distributing dp).out s i])))
      ((distributing dp).next s i) := by
  have hbefore : Held dp (FileOf dp (WrittenIn (l ++ [(distributing dp).out s i]))) s :=
    h.mono fun file hfile => fileOf_mono hfile fun ms hms => List.mem_append_left _ hms
  refine (step_effect dp s i).held hbefore (fun p => Or.inl ⟨p, rfl⟩) fun ms hms => ?_
  exact Or.inr ⟨ms, List.mem_append_right _ (List.mem_singleton.mpr hms.symm), rfl⟩

/-- A reload that is reported puts what is at the path in force. -/
theorem held_of_reloaded (h : FileOf dp (WrittenIn l) s.rulesFile) {i : DistributionInput τ κ}
    (hreloaded : ((distributing dp).out s i).hasReloaded = true) :
    Held dp (FileOf dp (WrittenIn (l ++ [(distributing dp).out s i])))
      ((distributing dp).next s i) := by
  obtain ⟨o, c, ho, hload, hpolicy⟩ := (step_effect dp s i).reloaded hreloaded
  refine ⟨fileOf_step h i, fun o' ho' => ?_⟩
  obtain rfl : o = o' := Option.some.inj (ho.symm.trans ho')
  exact ⟨s.rulesFile, c, fileOf_mono h fun ms hms => List.mem_append_left _ hms, hload, hpolicy⟩

end Since

/-- From the moment that a sync reports the reload on, whatever runs beside it or follows, the
policy in force is of a list written since its file was. -/
theorem reloaded_decides (dp : Deployment τ) (pre mid post : List (DistributionInput τ κ))
    (write report : DistributionInput τ κ)
    (hwrite : ((distributing dp).out ((distributing dp).run (distributing dp).init pre)
      write).hasWritten = true)
    (hreport : ((distributing dp).out ((distributing dp).run (distributing dp).init
      (pre ++ write :: mid)) report).hasReloaded = true) {o : Optimizer κ Draw}
    (ho : ((distributing dp).run (distributing dp).init
      (pre ++ write :: (mid ++ report :: post))).optimizer = some o) :
    ∃ ms, DecidesOn dp
      ((distributing dp).outputs ((distributing dp).run (distributing dp).init pre)
      (write :: (mid ++ report :: post))) o ms := by
  rw [Machine.run_append, Machine.run_cons] at hreport ho
  generalize (distributing dp).run (distributing dp).init pre = s at hwrite hreport ho ⊢
  obtain ⟨ms, hms⟩ := DistributionOutput.exists_wrote hwrite
  have hwritten : FileOf dp (WrittenIn [(distributing dp).out s write])
      ((distributing dp).next s write).rulesFile :=
    Or.inr ⟨ms, List.mem_singleton.mpr hms.symm, ((step_effect dp s write).wrote ms hms).1⟩
  have hmid := Machine.outputs_inv (M := distributing dp)
    (J := fun l s => FileOf dp (WrittenIn l) s.rulesFile) (fun l s i h => fileOf_step h i)
    hwritten mid
  have hloaded := held_of_reloaded hmid hreport
  have hpost := Machine.outputs_inv (M := distributing dp)
    (J := fun l s => Held dp (FileOf dp (WrittenIn l)) s) (fun l s i h => held_step h i) hloaded
    post
  have houts : (distributing dp).outputs s (write :: (mid ++ report :: post)) =
      [(distributing dp).out s write] ++ (distributing dp).outputs ((distributing dp).next s write)
        mid ++ [(distributing dp).out ((distributing dp).run ((distributing dp).next s write) mid)
        report] ++ (distributing dp).outputs ((distributing dp).next ((distributing dp).run
          ((distributing dp).next s write) mid) report) post := by
    rw [Machine.outputs_cons, Machine.outputs_append, Machine.outputs_cons]
    simp
  rw [Machine.run_append, Machine.run_cons] at ho
  rw [houts]
  obtain ⟨ms', hms', hpolicy⟩ := loadedOf_generated (hpost.policy o ho)
  exact ⟨ms', decidesOn hms' hpolicy⟩

theorem lobbyRun_decides : ∃ o ms,
    ((distributing lobbyDeployment).run (distributing lobbyDeployment).init lobbyRun).optimizer =
      some o ∧
    DecidesOn lobbyDeployment ((distributing lobbyDeployment).outputs
      ((distributing lobbyDeployment).run (distributing lobbyDeployment).init (lobbySync.take 5))
      (lobbyRun.drop 5)) o ms := by
  obtain ⟨o, -, ho, -⟩ := lobbyRun_activates
  obtain ⟨ms, hms⟩ := reloaded_decides lobbyDeployment (lobbySync.take 5) [.start]
    [.optimize (.signal disagreeingJson 0) (signal_own disagreeingJson 0)] (.write 0 .complete)
    (.report 0 ⟨true, true⟩ true) (by decide +kernel) (by decide +kernel) ho
  exact ⟨o, ms, ho, hms⟩

end Runs

end AdaptiveAdvertisement.System
