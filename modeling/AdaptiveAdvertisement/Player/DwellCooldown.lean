import AdaptiveAdvertisement.Player.StateInvariant

/-!
# Dwell and cooldown over whole runs

Two activations of one run are tied together by what happens between them, however far
apart they are. The dwell law follows because nothing between two consecutive accepted
activations changes the state; the cooldown law because the entry of a manifest that is off
screen is overwritten by nothing but a later deactivation of that manifest.
-/

namespace AdaptiveAdvertisement.Player
open Library

structure Activation where
  manifestId : String
  minDwellMs : ℤ
  cooldownMs : ℤ
  rationale : Option String := none
  clock : ActivateClock

def Activation.op (a : Activation) : Op :=
  .activateCreative a.manifestId a.minDwellMs a.cooldownMs a.rationale a.clock

/-- The clock never goes back. A reading that a call does not take repeats the one before. -/
def Clocked (ops : List Op) : Prop := (ops.flatMap Op.readings).Pairwise (· ≤ ·)

instance (ops : List Op) : Decidable (Clocked ops) :=
  inferInstanceAs (Decidable (List.Pairwise _ _))

def Accepted (sm : StateMachine) (op : Op) : Prop := (sm.step op).2.accepted = true

instance (sm : StateMachine) (op : Op) : Decidable (Accepted sm op) :=
  inferInstanceAs (Decidable (_ = _))

def Op.EndsDwell : Op → Prop
  | .clearSafeMode => False
  | _ => True

def Quiet (sm : StateMachine) (op : Op) : Prop := op.EndsDwell → ¬ Accepted sm op

def NotActivating (m : String) (sm : StateMachine) (op : Op) : Prop :=
  ∀ a : Activation, op = a.op → a.manifestId = m → ¬ Accepted sm op

def Deactivates (m : String) (sm : StateMachine) (op : Op) (time : ℚ) : Prop :=
  sm.activeManifestId = some m ∧ Accepted sm op ∧
    match op with
    | .activateCreative m' _ _ _ t => m' ≠ m ∧ time = t.deactivated
    | .safeMode _ now => time = now
    | .connectionLost now => time = now
    | _ => False

def after (ops : List Op) : StateMachine := machine.run machine.init ops

/-- Any two consecutive accepted activations of the run, with no accepted freeze, safe mode or
connection loss between them, are the first one's dwell apart: from the last clock reading of
the first call to the first of the second. -/
def DwellHonoured (ops : List Op) : Prop :=
  ∀ (pre mid post : List Op) (a b : Activation), ops = pre ++ a.op :: mid ++ b.op :: post →
    Accepted (after pre) a.op →
    machine.EachStep Quiet (after (pre ++ [a.op])) mid →
    Accepted (after (pre ++ a.op :: mid)) b.op →
    (a.minDwellMs : ℚ) ≤ (b.clock.dwell - a.clock.activated) * 1000

/-- A manifest whose last accepted activation was `a` and which `k` takes off the screen at
`time` is activated again no earlier than `a.cooldownMs` later, whatever runs in between. -/
def CooldownHonoured (ops : List Op) : Prop :=
  ∀ (pre mid later post : List Op) (a b : Activation) (k : Op) (time : ℚ),
    ops = pre ++ a.op :: mid ++ k :: later ++ b.op :: post →
    Accepted (after pre) a.op →
    machine.EachStep (NotActivating a.manifestId) (after (pre ++ [a.op])) mid →
    Deactivates a.manifestId (after (pre ++ a.op :: mid)) k time →
    b.manifestId = a.manifestId →
    Accepted (after (pre ++ a.op :: mid ++ k :: later)) b.op →
    (a.cooldownMs : ℚ) ≤ (b.clock.cooldown - time) * 1000

theorem clocked_append {ops rest : List Op} : Clocked (ops ++ rest) ↔
    Clocked ops ∧ Clocked rest ∧
      ∀ x ∈ ops.flatMap Op.readings, ∀ y ∈ rest.flatMap Op.readings, x ≤ y := by
  unfold Clocked
  rw [List.flatMap_append, List.pairwise_append]

theorem after_wellFormed (ops : List Op) : WellFormed (after ops) :=
  StateMachine.run_wellFormed ops

theorem after_snoc (ops : List Op) (op : Op) :
    after (ops ++ [op]) = ((after ops).step op).1 :=
  machine.run_snoc machine.init ops op

theorem after_append_cons (ops rest : List Op) (op : Op) :
    after (ops ++ op :: rest) = machine.run ((after ops).step op).1 rest := by
  unfold after
  rw [machine.run_append, machine.run_cons]
  rfl

theorem accepted_activation (sm : StateMachine) (a : Activation) :
    Accepted sm a.op ↔ sm.Accepts a.manifestId a.clock :=
  StateMachine.onActivateCreative_accepted_iff sm a.manifestId a.minDwellMs a.cooldownMs
    a.rationale a.clock

theorem step_activation {sm : StateMachine} {a : Activation} (h : Accepted sm a.op) :
    (sm.step a.op).1 = sm.switchTo a.manifestId a.minDwellMs a.cooldownMs a.clock := by
  have hacc := (accepted_activation sm a).mp h
  have := StateMachine.onActivateCreative_accepted sm a.manifestId a.minDwellMs a.cooldownMs
    a.rationale a.clock hacc
  exact congrArg Prod.fst this

theorem step_activateCreative {sm : StateMachine} {m : String} {d c : ℤ} {r : Option String}
    {t : ActivateClock} (h : Accepted sm (.activateCreative m d c r t)) :
    (sm.step (.activateCreative m d c r t)).1 = sm.switchTo m d c t :=
  step_activation (a := ⟨m, d, c, r, t⟩) h

theorem step_rejected {sm : StateMachine} {op : Op} (h : ¬ Accepted sm op) :
    (sm.step op).1 = sm :=
  (StateMachine.step_law sm op).rejected_frame (by simpa [Accepted] using h)

/-! ### Dwell -/

theorem quiet_step {sm : StateMachine} {op : Op} (hs : sm.state ≠ .safeMode)
    (h : Quiet sm op) : (sm.step op).1 = sm := by
  cases op with
  | clearSafeMode => simp [StateMachine.step, StateMachine.onClearSafeMode, hs]
  | activateCreative m d c r t => exact step_rejected (h trivial)
  | freeze reason => exact step_rejected (h trivial)
  | safeMode reason now => exact step_rejected (h trivial)
  | connectionLost now => exact step_rejected (h trivial)

theorem quiet_run {sm : StateMachine} (hs : sm.state ≠ .safeMode) {mid : List Op}
    (h : machine.EachStep Quiet sm mid) : machine.run sm mid = sm := by
  induction mid with
  | nil => rfl
  | cons op mid ih =>
    have hstep : machine.next sm op = sm := quiet_step hs h.1
    have hrest := h.2
    rw [hstep] at hrest
    rw [Machine.run_cons, hstep]
    exact ih hrest

theorem dwellHonoured (ops : List Op) : DwellHonoured ops := by
  intro pre mid post a b _ ha hmid hb
  have hstart := after_snoc pre a.op
  rw [step_activation ha] at hstart
  have hkeep : after (pre ++ a.op :: mid) =
      (after pre).switchTo a.manifestId a.minDwellMs a.cooldownMs a.clock := by
    rw [after_append_cons, ← after_snoc, quiet_run _ hmid, hstart]
    simp [hstart]
  rw [hkeep, accepted_activation] at hb
  exact of_decide_eq_true (hb.2.1 rfl)

/-! ### Cooldown -/

def Pending (m : String) (c : ℤ) (sm : StateMachine) : Prop :=
  sm.activeManifestId = some m → sm.cooldownMsForActive = c

def CoolingDown (m : String) (e : Cooldown) (sm : StateMachine) : Prop :=
  sm.activeManifestId ≠ some m ∧ sm.cooldowns.get m = some e

theorem recordCooldown_self {sm : StateMachine} {m : String} (h : sm.activeManifestId = some m)
    (now : ℚ) : (sm.recordCooldown now).get m = some ⟨now, sm.cooldownMsForActive⟩ := by
  simp [StateMachine.recordCooldown, h]

theorem recordCooldown_other {sm : StateMachine} {m : String} (h : sm.activeManifestId ≠ some m)
    (now : ℚ) : (sm.recordCooldown now).get m = sm.cooldowns.get m := by
  unfold StateMachine.recordCooldown
  split
  · rfl
  next j hj =>
    have hne : m ≠ j := fun he => h (by rw [hj, he])
    exact Dict.get_set_ne _ _ hne

theorem pending_step {m : String} {c : ℤ} {sm : StateMachine} {op : Op} (h : Pending m c sm)
    (hop : NotActivating m sm op) : Pending m c (sm.step op).1 := by
  by_cases hacc : Accepted sm op
  · cases op with
    | activateCreative m' d c' r t =>
      have hne : m' ≠ m := fun he => hop ⟨m', d, c', r, t⟩ rfl he hacc
      intro hm
      rw [step_activateCreative hacc] at hm
      simp only [StateMachine.switchTo_active, Option.some.injEq] at hm
      exact absurd hm hne
    | freeze reason =>
      cases hs : sm.state <;> simpa [Pending, StateMachine.step, StateMachine.onFreeze, hs] using h
    | safeMode reason now => simp [Pending, StateMachine.step]
    | clearSafeMode =>
      by_cases hs : sm.state = .safeMode <;>
        simpa [Pending, StateMachine.step, StateMachine.onClearSafeMode, hs] using h
    | connectionLost now =>
      by_cases hs : sm.state = .safeMode
      · simpa [Pending, StateMachine.step, StateMachine.onConnectionLost, hs] using h
      · simp [Pending, StateMachine.step, StateMachine.onConnectionLost, hs]
  · rw [step_rejected hacc]
    exact h

theorem deactivates_coolingDown {m : String} {c : ℤ} {sm : StateMachine} {op : Op} {time : ℚ}
    (hwf : WellFormed sm) (hp : Pending m c sm) (h : Deactivates m sm op time) :
    CoolingDown m ⟨time, c⟩ (sm.step op).1 := by
  obtain ⟨hm, hacc, hop⟩ := h
  have hc := hp hm
  have hshow : sm.state.showing := hwf.active_iff.mp (by simp [hm])
  have hs : sm.state ≠ .safeMode := by
    intro he
    rw [he] at hshow
    rcases hshow with h | h <;> cases h
  cases op with
  | activateCreative m' d c' r t =>
    obtain ⟨hne, rfl⟩ := hop
    rw [step_activateCreative hacc]
    refine ⟨by simpa using hne, ?_⟩
    rw [← hc]
    exact recordCooldown_self hm t.deactivated
  | safeMode reason now =>
    obtain rfl := hop
    refine ⟨by simp [StateMachine.step], ?_⟩
    rw [← hc]
    exact recordCooldown_self hm time
  | connectionLost now =>
    obtain rfl := hop
    have hnext := recordCooldown_self hm time
    rw [hc] at hnext
    simpa [CoolingDown, StateMachine.step, StateMachine.onConnectionLost, hs] using hnext
  | freeze reason => exact hop.elim
  | clearSafeMode => exact hop.elim

theorem coolingDown_step {m : String} {e : Cooldown} {sm : StateMachine} {op : Op}
    (h : CoolingDown m e sm) (hop : NotActivating m sm op) : CoolingDown m e (sm.step op).1 := by
  obtain ⟨hm, he⟩ := h
  by_cases hacc : Accepted sm op
  · cases op with
    | activateCreative m' d c r t =>
      have hne : m' ≠ m := fun h => hop ⟨m', d, c, r, t⟩ rfl h hacc
      rw [step_activateCreative hacc]
      exact ⟨by simpa using hne, (recordCooldown_other hm t.deactivated).trans he⟩
    | freeze reason =>
      cases hs : sm.state <;>
        simpa [CoolingDown, StateMachine.step, StateMachine.onFreeze, hs] using ⟨hm, he⟩
    | safeMode reason now =>
      exact ⟨by simp [StateMachine.step], (recordCooldown_other hm now).trans he⟩
    | clearSafeMode =>
      by_cases hs : sm.state = .safeMode <;>
        simpa [CoolingDown, StateMachine.step, StateMachine.onClearSafeMode, hs] using ⟨hm, he⟩
    | connectionLost now =>
      by_cases hs : sm.state = .safeMode
      · simpa [CoolingDown, StateMachine.step, StateMachine.onConnectionLost, hs]
          using ⟨hm, he⟩
      · have hget := (recordCooldown_other hm now).trans he
        simpa [CoolingDown, StateMachine.step, StateMachine.onConnectionLost, hs] using hget
  · rw [step_rejected hacc]
    exact ⟨hm, he⟩

theorem coolingDown_accepted {m : String} {e : Cooldown} {sm : StateMachine} {b : Activation}
    (h : CoolingDown m e sm) (hb : b.manifestId = m) (hacc : Accepted sm b.op) :
    (e.cooldownMs : ℚ) ≤ (b.clock.cooldown - e.deactivatedAt) * 1000 := by
  have hc := ((accepted_activation sm b).mp hacc).2.2
  rw [hb] at hc
  simpa [StateMachine.inCooldown, h.2] using hc

theorem coolingDown_run {m : String} {e : Cooldown} {b : Activation} (hb : b.manifestId = m)
    {later : List Op} {sm : StateMachine} (hclock : Clocked (later ++ [b.op]))
    (h : CoolingDown m e sm) (hacc : Accepted (machine.run sm later) b.op) :
    (e.cooldownMs : ℚ) ≤ (b.clock.cooldown - e.deactivatedAt) * 1000 := by
  induction later generalizing sm with
  | nil => exact coolingDown_accepted h hb hacc
  | cons op later ih =>
    have hparts := (@clocked_append [op] (later ++ [b.op])).mp hclock
    by_cases hop : NotActivating m sm op
    · exact ih hparts.2.1 (coolingDown_step h hop) hacc
    · -- the first activation of `m` meets the cooldown, and `b` comes after it by the clock
      unfold NotActivating at hop
      push Not at hop
      obtain ⟨a, rfl, ham, haacc⟩ := hop
      have hfirst := coolingDown_accepted h ham haacc
      have hle : a.clock.cooldown ≤ b.clock.cooldown := by
        refine hparts.2.2 a.clock.cooldown ?_ b.clock.cooldown ?_
        · simp [Activation.op, Op.readings, ActivateClock.readings]
        · simp [Activation.op, Op.readings, ActivateClock.readings]
      linarith

theorem pending_run {m : String} {c : ℤ} {sm : StateMachine} {mid : List Op}
    (h : Pending m c sm) (hmid : machine.EachStep (NotActivating m) sm mid) :
    Pending m c (machine.run sm mid) :=
  Machine.run_inv_under (M := machine) (fun _ _ hs hop => pending_step hs hop) h hmid

theorem cooldownHonoured {ops : List Op} (hclock : Clocked ops) : CooldownHonoured ops := by
  intro pre mid later post a b k time hops ha hmid hk hba hacc
  have hpend : Pending a.manifestId a.cooldownMs (after (pre ++ [a.op])) := by
    rw [after_snoc, step_activation ha]
    exact fun _ => rfl
  have hbefore : Pending a.manifestId a.cooldownMs (after (pre ++ a.op :: mid)) := by
    rw [after_append_cons, ← after_snoc]
    exact pending_run hpend hmid
  have hcool := deactivates_coolingDown (after_wellFormed _) hbefore hk
  rw [after_append_cons] at hacc
  have hsplit : ops = (pre ++ a.op :: mid ++ [k]) ++ ((later ++ [b.op]) ++ post) := by
    rw [hops]
    simp
  rw [hsplit] at hclock
  have htail := (clocked_append.mp hclock).2.1
  have hlater := (clocked_append.mp htail).1
  exact coolingDown_run (e := ⟨time, a.cooldownMs⟩) hba hlater hcool hacc

theorem dwell_and_cooldown_honoured (ops : List Op) (hclock : Clocked ops) :
    DwellHonoured ops ∧ CooldownHonoured ops :=
  ⟨dwellHonoured ops, cooldownHonoured hclock⟩

/-- The advert is replaced at 2 s, the stream drops at 4 s, and it comes back at 9 s. -/
theorem dwell_and_cooldown_honoured_reactivation :
    let shown (m : String) (now : ℚ) : Activation := ⟨m, 2000, 5000, none, .at now⟩
    ((2000 : ℤ) : ℚ) ≤ (2 - 0) * 1000 ∧ ((5000 : ℤ) : ℚ) ≤ (9 - 2) * 1000 ∧
      Clocked [(shown "a" 0).op, (shown "b" 2).op, .connectionLost 4, (shown "a" 9).op] := by
  intro shown
  have hclock : Clocked [(shown "a" 0).op, (shown "b" 2).op, .connectionLost 4,
      (shown "a" 9).op] := by decide +kernel
  have h := dwell_and_cooldown_honoured _ hclock
  refine ⟨?_, ?_, hclock⟩
  · exact h.1 [] [] [.connectionLost 4, (shown "a" 9).op] (shown "a" 0) (shown "b" 2) rfl
      (by decide +kernel) trivial (by decide +kernel)
  · exact h.2 [] [] [.connectionLost 4] [] (shown "a" 0) (shown "a" 9) (shown "b" 2).op 2 rfl
      (by decide +kernel) trivial ⟨rfl, by decide +kernel, by decide +kernel, rfl⟩ rfl
      (by decide +kernel)

end AdaptiveAdvertisement.Player
