import AdaptiveAdvertisement.Player.DwellCooldown

/-!
# The cooldown of the creative on screen (`player/state.py`)

An activation of the creative that is shown already (the only way to lift a freeze) records a
cooldown for it as if it had left the screen (149-153). The dwell check hides the entry while the
player is ACTIVE; a freeze takes that check away, and the creative is refused for its own cooldown.
-/

namespace AdaptiveAdvertisement.Player
open Library

/-- After the run no activation of the creative on screen is refused for a cooldown, at any later
reading of the clock. -/
def Unrefused (ops : List Op) : Prop :=
  ∀ a : Activation, Clocked (ops ++ [a.op]) →
    (after ops).activeManifestId = some a.manifestId →
    ((after ops).step a.op).2.reason ≠ some "cooldown"

/-- So it is in each state of the run, and in the one that a freeze there leads to. -/
def NeverRefused (ops : List Op) : Prop :=
  ∀ pre, pre <+: ops → Unrefused pre ∧ ∀ reason, Unrefused (pre ++ [.freeze reason])

/-- An activation of the creative on screen, where the player would accept it, finds that the
cooldown it records for that creative is over by the end of the call. -/
def RecordsNothing (sm : StateMachine) (op : Op) : Prop :=
  ∀ a : Activation, op = a.op → sm.activeManifestId = some a.manifestId →
    sm.Accepts a.manifestId a.clock →
    (sm.cooldownMsForActive : ℚ) ≤ (a.clock.activated - a.clock.deactivated) * 1000

/-! ### Refusals and the table -/

theorem refused_cooldown_iff (sm : StateMachine) (a : Activation) :
    (sm.step a.op).2.reason = some "cooldown" ↔
      sm.state ≠ .safeMode ∧ (sm.state = .active → sm.dwellElapsed a.clock.dwell = true) ∧
        sm.inCooldown a.manifestId a.clock.cooldown = true := by
  simp only [StateMachine.step, Activation.op, StateMachine.onActivateCreative]
  by_cases hs : sm.state = .safeMode
  · simp [hs]
  rw [if_neg hs]
  by_cases hd : sm.state = .active ∧ sm.dwellElapsed a.clock.dwell = false
  · rw [if_pos hd]
    refine ⟨fun h => by simp at h, fun h => ?_⟩
    have helapsed := h.2.1 hd.1
    rw [hd.2] at helapsed
    cases helapsed
  rw [if_neg hd]
  have hdwell : sm.state = .active → sm.dwellElapsed a.clock.dwell = true := by
    intro ha
    by_contra hf
    exact hd ⟨ha, by simpa using hf⟩
  by_cases hc : sm.inCooldown a.manifestId a.clock.cooldown = true
  · simpa [hc, hs] using hdwell
  · simp [hc]

/-- The entry of the creative on screen, where there is one, is over at `time`. -/
def OwnExpired (time : ℚ) (sm : StateMachine) : Prop :=
  ∀ m e, sm.activeManifestId = some m → sm.cooldowns.get m = some e →
    (e.cooldownMs : ℚ) ≤ (time - e.deactivatedAt) * 1000

theorem ownExpired_init (time : ℚ) : OwnExpired time machine.init :=
  fun _ _ h => nomatch h

theorem OwnExpired.not_refused {sm : StateMachine} {a : Activation}
    (h : OwnExpired a.clock.cooldown sm) (hactive : sm.activeManifestId = some a.manifestId) :
    (sm.step a.op).2.reason ≠ some "cooldown" := by
  intro hrefused
  have hin := ((refused_cooldown_iff sm a).mp hrefused).2.2
  unfold StateMachine.inCooldown at hin
  split at hin
  · cases hin
  next e he =>
    have hover := h a.manifestId e hactive he
    have hearly := of_decide_eq_true hin
    linarith

theorem ownExpired_switchTo {time : ℚ} {sm : StateMachine} {a : Activation}
    (h : RecordsNothing sm a.op) (hacc : sm.Accepts a.manifestId a.clock)
    (hcooldown : a.clock.cooldown ≤ time) (hactivated : a.clock.activated ≤ time) :
    OwnExpired time (sm.switchTo a.manifestId a.minDwellMs a.cooldownMs a.clock) := by
  intro m e hm he
  obtain rfl := Option.some.inj hm
  by_cases hself : sm.activeManifestId = some a.manifestId
  · have hget := recordCooldown_self hself a.clock.deactivated
    obtain rfl := Option.some.inj (hget.symm.trans he)
    have hrecorded := h a rfl hself hacc
    change (sm.cooldownMsForActive : ℚ) ≤ (time - a.clock.deactivated) * 1000
    linarith
  · -- the entry is the one that the cooldown check of this call has read
    have hget := (recordCooldown_other hself a.clock.deactivated).symm.trans he
    have hread := hacc.2.2
    simp only [StateMachine.inCooldown, hget, decide_eq_false_iff_not, not_lt] at hread
    linarith

theorem ownExpired_step {time : ℚ} {sm : StateMachine} {op : Op} (h : OwnExpired time sm)
    (hop : RecordsNothing sm op) (htime : ∀ x ∈ op.readings, x ≤ time) :
    OwnExpired time (sm.step op).1 := by
  by_cases hacc : Accepted sm op
  · cases op with
    | activateCreative m d c r t =>
      rw [step_activateCreative hacc]
      have hin : ∀ x ∈ t.readings, x ≤ time := htime
      simp only [ActivateClock.readings, List.mem_cons, List.not_mem_nil, or_false,
        forall_eq_or_imp, forall_eq] at hin
      exact ownExpired_switchTo (a := ⟨m, d, c, r, t⟩) hop
        ((accepted_activation sm ⟨m, d, c, r, t⟩).mp hacc) hin.2.1 hin.2.2.2
    | freeze reason =>
      cases hs : sm.state <;>
        simpa [OwnExpired, StateMachine.step, StateMachine.onFreeze, hs] using h
    | safeMode reason now =>
      intro m e hactive
      cases hactive
    | clearSafeMode =>
      by_cases hs : sm.state = .safeMode <;>
        simpa [OwnExpired, StateMachine.step, StateMachine.onClearSafeMode, hs] using h
    | connectionLost now =>
      by_cases hs : sm.state = .safeMode
      · simpa [OwnExpired, StateMachine.step, StateMachine.onConnectionLost, hs] using h
      · simp [OwnExpired, StateMachine.step, StateMachine.onConnectionLost, hs]
  · rw [step_rejected hacc]
    exact h

/-! ### Runs -/

theorem unrefused_of_recordsNothing {ops : List Op}
    (h : machine.EachStep RecordsNothing machine.init ops) : Unrefused ops := by
  intro a hclock hactive
  have hreadings : ∀ op ∈ ops, ∀ x ∈ op.readings, x ≤ a.clock.cooldown := by
    intro op hop x hx
    refine (clocked_append.mp hclock).2.2 x (List.mem_flatMap.mpr ⟨op, hop, hx⟩)
      a.clock.cooldown ?_
    simp [Activation.op, Op.readings, ActivateClock.readings]
  have hexpired : OwnExpired a.clock.cooldown (after ops) :=
    Machine.run_inv_under (M := machine)
      (C := fun sm op => RecordsNothing sm op ∧ ∀ x ∈ op.readings, x ≤ a.clock.cooldown)
      (fun _ _ hs hc => ownExpired_step hs hc.1 hc.2) (ownExpired_init _)
      (machine.eachStep_and.mpr ⟨h, machine.eachStep_input_iff.mpr hreadings⟩)
  exact hexpired.not_refused hactive

theorem recordsNothing_freeze (sm : StateMachine) (reason : Option String) :
    RecordsNothing sm (.freeze reason) :=
  fun _ h => nomatch h

/-- The creative just activated again, frozen, and activated once more at the same reading. -/
theorem recordsNothing_of_unrefused {pre : List Op} {a : Activation}
    (hclock : Clocked (pre ++ [a.op]))
    (h : Unrefused (pre ++ [a.op] ++ [.freeze none]))
    (hself : (after pre).activeManifestId = some a.manifestId)
    (hacc : (after pre).Accepts a.manifestId a.clock) :
    ((after pre).cooldownMsForActive : ℚ) ≤
      (a.clock.activated - a.clock.deactivated) * 1000 := by
  let again : Activation := ⟨a.manifestId, 0, 0, none, .at a.clock.activated⟩
  have hswitched : after (pre ++ [a.op]) =
      (after pre).switchTo a.manifestId a.minDwellMs a.cooldownMs a.clock := by
    rw [after_snoc, step_activation ((accepted_activation _ a).mpr hacc)]
  have hfrozen : after (pre ++ [a.op] ++ [.freeze none]) =
      { (after pre).switchTo a.manifestId a.minDwellMs a.cooldownMs a.clock with
        state := .frozen, freezeReason := none } := by
    rw [after_snoc, hswitched]
    rfl
  have hlast : ∀ x ∈ (pre ++ [a.op]).flatMap Op.readings, x ≤ a.clock.activated := by
    intro x hx
    rw [List.flatMap_append, List.mem_append] at hx
    obtain ⟨-, hown, hbefore⟩ := clocked_append.mp hclock
    have hmem : a.clock.activated ∈ [a.op].flatMap Op.readings := by
      simp [Activation.op, Op.readings, ActivateClock.readings]
    rcases hx with hx | hx
    · exact hbefore x hx _ hmem
    · simp only [Clocked, Activation.op, List.flatMap_cons, List.flatMap_nil, Op.readings,
        ActivateClock.readings, List.append_nil, List.pairwise_cons, List.mem_cons,
        List.not_mem_nil, or_false] at hown hx
      rcases hx with rfl | rfl | rfl | rfl
      · exact hown.1 _ (by simp)
      · exact hown.2.1 _ (by simp)
      · exact hown.2.2.1 _ (by simp)
      · exact le_rfl
  have hfreeze : Clocked (pre ++ [a.op] ++ [.freeze none]) :=
    clocked_append.mpr ⟨hclock, List.Pairwise.nil, by simp [Op.readings]⟩
  have hagain : ∀ x ∈ again.op.readings, x = a.clock.activated := by
    simp [again, Activation.op, Op.readings, ActivateClock.readings, ActivateClock.at]
  have hclock' : Clocked (pre ++ [a.op] ++ [.freeze none] ++ [again.op]) := by
    refine clocked_append.mpr ⟨hfreeze, ?_, fun x hx y hy => ?_⟩
    · simp [Clocked, again, Activation.op, Op.readings, ActivateClock.readings, ActivateClock.at]
    · rw [hagain y (by simpa using hy)]
      exact hlast x (by simpa [Op.readings] using hx)
  have hreason := h again hclock' (by rw [hfrozen]; rfl)
  by_contra hearly
  refine hreason ((refused_cooldown_iff _ again).mpr ?_)
  rw [hfrozen]
  refine ⟨by simp, by simp, ?_⟩
  have hget : ((after pre).recordCooldown a.clock.deactivated).get again.manifestId =
      some ⟨a.clock.deactivated, (after pre).cooldownMsForActive⟩ := recordCooldown_self hself _
  simp only [StateMachine.inCooldown, StateMachine.switchTo, hget, decide_eq_true_eq]
  exact not_le.mp hearly

/-- In a run the creative on screen is never refused for its own cooldown exactly when no
accepted activation of the creative on screen records one that is still running. -/
theorem neverRefused_iff {ops : List Op} (hclock : Clocked ops) :
    NeverRefused ops ↔ machine.EachStep RecordsNothing machine.init ops := by
  refine ⟨fun h => ?_, fun h => ?_⟩
  · refine machine.eachStep_iff_cut.mpr fun pre op post hcut a ha hself hacc => ?_
    subst ha
    have hprefix : pre ++ [a.op] <+: ops := ⟨post, by simp [hcut]⟩
    have hclock' : Clocked (pre ++ [a.op]) := by
      obtain ⟨rest, rfl⟩ := hprefix
      exact (clocked_append.mp hclock).1
    exact recordsNothing_of_unrefused hclock' ((h _ hprefix).2 none) hself hacc
  · intro pre hprefix
    obtain ⟨rest, rfl⟩ := hprefix
    have hpre := (machine.eachStep_append.mp h).1
    refine ⟨unrefused_of_recordsNothing hpre, fun reason => unrefused_of_recordsNothing ?_⟩
    exact machine.eachStep_append.mpr ⟨hpre, recordsNothing_freeze _ reason, trivial⟩

/-! ### A creative shown, frozen and shown again -/

def lobbyAt (cooldownMs : ℤ) (now : ℚ) : Activation :=
  ⟨"lobby", 2000, cooldownMs, none, .at now⟩

theorem neverRefused_noCooldown :
    NeverRefused [(lobbyAt 0 0).op, .freeze none, (lobbyAt 0 5).op, .freeze none] := by
  have hfirst : RecordsNothing machine.init (lobbyAt 0 0).op :=
    fun _ _ hself => nomatch hself
  have hlift : RecordsNothing (after [(lobbyAt 0 0).op, .freeze none]) (lobbyAt 0 5).op := by
    intro a ha _ _
    obtain ⟨m, d, c, r, t⟩ := a
    obtain ⟨rfl, rfl, rfl, rfl, rfl⟩ := Op.activateCreative.inj ha
    decide +kernel
  exact (neverRefused_iff (by decide +kernel)).mpr
    ⟨hfirst, recordsNothing_freeze _ none, hlift, recordsNothing_freeze _ none, trivial⟩

/-- The second freeze cannot be lifted on the creative on screen: 5 s after the first was lifted
the 30 s cooldown of its first activation is running. -/
theorem secondFreeze_refused : ¬ ∀ ops, Clocked ops → Unrefused ops := by
  intro h
  have hunrefused := h [(lobbyAt 30000 0).op, .freeze none, (lobbyAt 30000 5).op, .freeze none]
    (by decide +kernel)
  exact hunrefused (lobbyAt 30000 10) (by decide +kernel) (by decide +kernel) (by decide +kernel)

end AdaptiveAdvertisement.Player
