import AdaptiveAdvertisement.DecisionOptimizer.FreezeGate

/-!
# What the loop believes of a command that nobody got (`decision_optimizer/decision_loop.py`)

The two fields "tracked beliefs about player state" beside what became of the tick's send: the
number of players that `_broadcast` (204-237) returns, or an exception that `run` swallows. The
number is counted and logged, and the beliefs are written whatever it is; the freeze flag is
lowered before the activation is sent.
-/

namespace AdaptiveAdvertisement.DecisionOptimizer
open Library Contracts

/-- What became of the send that a tick makes; an exception tells of no player. -/
inductive SendOutcome where
  | reached (n : ℕ)
  | raised (e : Raised)

def SendOutcome.Delivered (o : SendOutcome) : Prop := ∃ n, 0 < n ∧ o = .reached n

namespace DecisionLoop

variable {κ τ δ : Type} [DecidableEq κ]

/-- `settle`, and what of it has been written when the send raises. -/
def settleOutcome (loop : DecisionLoop) (d : Decision) : SendOutcome → DecisionLoop
  | .reached n => loop.settle n d
  | .raised _ =>
    match d with
    -- `_player_frozen = False` stands before the send (141-142)
    | .activate _ _ => { loop with playerFrozen := false, tickCount := loop.tickCount + 1 }
    | .freeze _ => { loop with tickCount := loop.tickCount + 1 }
    | _ => loop.settle 0 d

def tickWith (cfg : LoopConfig δ) (loop : DecisionLoop) (c : SignalConsumer) (now : ℚ)
    (draw : δ) (outcome : SendOutcome) : DecisionLoop :=
  loop.settleOutcome (loop.decide cfg c now draw) outcome

theorem tick_eq_tickWith (cfg : LoopConfig δ) (cd : Codec τ) (loop : DecisionLoop)
    (c : SignalConsumer) (g : PlayerGateway κ) (now : ℚ) (draw : δ) (stamp : CommandStamp)
    (alive : κ → Bool) :
    (loop.tick cfg cd c g now draw stamp alive).1 =
      loop.tickWith cfg c now draw
        (.reached (sentCount (send cfg cd g stamp alive (loop.decide cfg c now draw)).2)) := rfl

/-! ### The law and when it holds -/

def Changed (before after : DecisionLoop) : Prop :=
  after.currentManifestId ≠ before.currentManifestId

/-- The beliefs move only with a command that reached a player. -/
structure BeliefsFollow (before after : DecisionLoop) (d : Decision) (o : SendOutcome) : Prop where
  manifest : Changed before after → (∃ m r, d = .activate m r) ∧ o.Delivered
  unfreeze : before.playerFrozen = true → after.playerFrozen = false →
    (∃ m r, d = .activate m r) ∧ o.Delivered
  freeze : before.playerFrozen = false → after.playerFrozen = true →
    (∃ reason, d = .freeze reason) ∧ o.Delivered

/-- The tick has a reason to freeze a player that it does not believe frozen. -/
def Freezes (cfg : LoopConfig δ) (loop : DecisionLoop) (c : SignalConsumer) (now : ℚ) : Prop :=
  (∃ reason, freezeReason cfg.staleSignalThresholdMs (c.latest.map Subtype.val)
      (c.signalAgeMs now) = some reason) ∧
    loop.playerFrozen = false

/-- The policy asks for another creative than the one believed shown, or for any while frozen. -/
def Switches (cfg : LoopConfig δ) (loop : DecisionLoop) (c : SignalConsumer) (now : ℚ)
    (draw : δ) : Prop :=
  ∃ signal m, c.latest = some signal ∧
    freezeReason cfg.staleSignalThresholdMs (some signal.1) (c.signalAgeMs now) = none ∧
    cfg.policy.evaluate signal.1 draw = .ok (some m) ∧
    (some m ≠ loop.currentManifestId ∨ loop.playerFrozen = true)

/-- A tick that has a command to send meets a player, and a raising send no freeze to lift. -/
structure Deliverable (cfg : LoopConfig δ) (loop : DecisionLoop) (c : SignalConsumer) (now : ℚ)
    (draw : δ) (o : SendOutcome) : Prop where
  freeze : Freezes cfg loop c now → o ≠ .reached 0
  switch : Switches cfg loop c now draw → o ≠ .reached 0
  unfreeze : Switches cfg loop c now draw → loop.playerFrozen = true → ∀ e, o ≠ .raised e

/-! ### Which decision the tick takes -/

section Decide

variable {cfg : LoopConfig δ} {loop : DecisionLoop} {c : SignalConsumer} {now : ℚ} {draw : δ}

theorem decide_freeze_iff :
    (∃ reason, loop.decide cfg c now draw = .freeze reason) ↔ Freezes cfg loop c now := by
  unfold Freezes
  refine ⟨fun h => ?_, fun h => ?_⟩
  · obtain ⟨reason, h⟩ := h
    unfold decide at h
    split at h
    next reason' hreason =>
      split at h
      · cases h
      next hfrozen => exact ⟨⟨reason', hreason⟩, by simpa using hfrozen⟩
    · split at h
      · cases h
      · split at h
        · cases h
        · cases h
        · split at h <;> cases h
  · obtain ⟨⟨reason, hreason⟩, hfrozen⟩ := h
    exact ⟨reason, by simp [decide, hreason, hfrozen]⟩

theorem decide_switch_iff :
    (∃ m r, loop.decide cfg c now draw = .activate m r) ↔ Switches cfg loop c now draw := by
  refine ⟨fun h => ?_, fun h => ?_⟩
  · obtain ⟨m, r, h⟩ := h
    obtain ⟨signal, hlatest, hreason, heval, hswitch, -⟩ :=
      (decide_activate_iff _ _ _ _ _ _ _).mp h
    exact ⟨signal, m, hlatest, hreason, heval, hswitch⟩
  · obtain ⟨signal, m, hlatest, hreason, heval, hswitch⟩ := h
    exact ⟨m, _, (decide_activate_iff _ _ _ _ _ _ _).mpr
      ⟨signal, hlatest, hreason, heval, hswitch, rfl⟩⟩

end Decide

/-! ### What one send leaves behind -/

theorem settleOutcome_quiet (loop : DecisionLoop) (d : Decision) (o : SendOutcome)
    (hfreeze : ∀ reason, d ≠ .freeze reason) (hactivate : ∀ m r, d ≠ .activate m r)
    (hsame : ∀ m, d = .unchanged m → loop.playerFrozen = false) :
    (loop.settleOutcome d o).currentManifestId = loop.currentManifestId ∧
      (loop.settleOutcome d o).playerFrozen = loop.playerFrozen := by
  cases d with
  | freeze reason => exact absurd rfl (hfreeze reason)
  | activate m r => exact absurd rfl (hactivate m r)
  | unchanged m =>
    have hclear := (hsame m rfl).symm
    cases o with
    | reached n => exact ⟨rfl, hclear⟩
    | raised e => exact ⟨rfl, hclear⟩
  | hold => cases o <;> exact ⟨rfl, rfl⟩
  | noSignal => cases o <;> exact ⟨rfl, rfl⟩
  | noMatch => cases o <;> exact ⟨rfl, rfl⟩
  | raised e => cases o <;> exact ⟨rfl, rfl⟩

theorem delivered_reached {n : ℕ} : (SendOutcome.reached n).Delivered ↔ n ≠ 0 := by
  refine ⟨fun h => ?_, fun h => ⟨n, Nat.pos_of_ne_zero h, rfl⟩⟩
  obtain ⟨k, hpos, hk⟩ := h
  cases hk
  omega

theorem not_delivered_raised {e : Raised} : ¬ (SendOutcome.raised e).Delivered :=
  fun ⟨_, _, h⟩ => nomatch h

theorem follow_freeze_iff {loop : DecisionLoop} {reason : String} {o : SendOutcome}
    (hclear : loop.playerFrozen = false) :
    BeliefsFollow loop (loop.settleOutcome (.freeze reason) o) (.freeze reason) o ↔
      o ≠ .reached 0 := by
  cases o with
  | raised e =>
    have hafter : (loop.settleOutcome (.freeze reason) (.raised e)).playerFrozen = false := hclear
    refine ⟨fun _ h => (nomatch h),
      fun _ => ⟨fun h => absurd rfl h, fun h => ?_, fun _ h => ?_⟩⟩
    · rw [hclear] at h
      cases h
    · rw [hafter] at h
      cases h
  | reached n =>
    refine ⟨fun h hnone => ?_,
      fun h => ⟨fun h' => absurd rfl h', fun h' => ?_, fun _ _ => ?_⟩⟩
    · cases hnone
      exact delivered_reached.mp (h.freeze hclear rfl).2 rfl
    · rw [hclear] at h'
      cases h'
    · refine ⟨⟨reason, rfl⟩, delivered_reached.mpr fun hzero => h ?_⟩
      rw [hzero]

theorem follow_activate_iff {loop : DecisionLoop} {m r : String} {o : SendOutcome}
    (hswitch : some m ≠ loop.currentManifestId ∨ loop.playerFrozen = true) :
    BeliefsFollow loop (loop.settleOutcome (.activate m r) o) (.activate m r) o ↔
      o ≠ .reached 0 ∧ (loop.playerFrozen = true → ∀ e, o ≠ .raised e) := by
  cases o with
  | raised e =>
    refine ⟨fun h => ⟨fun h' => (nomatch h'), fun hfrozen _ _ => ?_⟩, fun h => ?_⟩
    · exact not_delivered_raised (h.unfreeze hfrozen rfl).2
    · refine ⟨fun h' => absurd rfl h', fun hfrozen => ?_, fun _ h' => nomatch h'⟩
      exact absurd rfl (h.2 hfrozen e)
  | reached n =>
    refine ⟨fun h => ⟨fun hnone => ?_, fun _ _ h' => nomatch h'⟩, fun h => ?_⟩
    · cases hnone
      -- the belief moves: to another creative, or out of the freeze
      have hdelivered : (SendOutcome.reached 0).Delivered := by
        cases hswitch with
        | inl hother => exact (h.manifest hother).2
        | inr hfrozen => exact (h.unfreeze hfrozen rfl).2
      exact delivered_reached.mp hdelivered rfl
    · have hdelivered : (SendOutcome.reached n).Delivered :=
        delivered_reached.mpr fun hzero => h.1 (by rw [hzero])
      exact ⟨fun _ => ⟨⟨m, r, rfl⟩, hdelivered⟩,
        fun _ _ => ⟨⟨m, r, rfl⟩, hdelivered⟩,
        fun _ h' => nomatch h'⟩

/-- In one tick the beliefs follow delivery exactly when a command that the tick sends reaches a
player, an activation that raises aside where there is no freeze to lift. -/
theorem beliefsFollow_iff (cfg : LoopConfig δ) (loop : DecisionLoop) (c : SignalConsumer)
    (now : ℚ) (draw : δ) (o : SendOutcome) :
    BeliefsFollow loop (loop.tickWith cfg c now draw o) (loop.decide cfg c now draw) o ↔
      Deliverable cfg loop c now draw o := by
  unfold tickWith
  by_cases hfreezes : Freezes cfg loop c now
  · obtain ⟨reason, hdecide⟩ : ∃ reason, loop.decide cfg c now draw = .freeze reason :=
      decide_freeze_iff.mpr hfreezes
    have hquiet : ¬ Switches cfg loop c now draw := by
      intro hswitches
      obtain ⟨m, r, hdecide'⟩ := decide_switch_iff.mpr hswitches
      rw [hdecide] at hdecide'
      cases hdecide'
    rw [hdecide, follow_freeze_iff hfreezes.2]
    exact ⟨fun h => ⟨fun _ => h, fun hs => absurd hs hquiet, fun hs => absurd hs hquiet⟩,
      fun h => h.freeze hfreezes⟩
  · by_cases hswitches : Switches cfg loop c now draw
    · obtain ⟨m, r, hdecide⟩ := decide_switch_iff.mpr hswitches
      obtain ⟨-, -, -, -, hswitch, -⟩ := (decide_activate_iff _ _ _ _ _ _ _).mp hdecide
      rw [hdecide, follow_activate_iff hswitch]
      exact ⟨fun h => ⟨fun hf => absurd hf hfreezes, fun _ => h.1, fun _ => h.2⟩,
        fun h => ⟨h.switch hswitches, h.unfreeze hswitches⟩⟩
    · obtain ⟨hmanifest, hfrozen⟩ := settleOutcome_quiet loop
        (loop.decide cfg c now draw) o
        (fun reason h => hfreezes (decide_freeze_iff.mp ⟨reason, h⟩))
        (fun m r h => hswitches (decide_switch_iff.mp ⟨m, r, h⟩))
        fun m h => (decide_unchanged h).2
      refine ⟨fun _ => ⟨fun hf => absurd hf hfreezes, fun hs => absurd hs hswitches,
        fun hs => absurd hs hswitches⟩, fun _ => ⟨fun h => absurd hmanifest h, fun h h' => ?_,
        fun h h' => ?_⟩⟩
      · rw [hfrozen, h] at h'
        cases h'
      · rw [hfrozen, h] at h'
        cases h'

/-- A first signal while no player is connected: the loop believes that its creative is shown. -/
theorem noPlayer_believed :
    ¬ ∀ (cfg : LoopConfig Unit) (loop : DecisionLoop) (c : SignalConsumer) (now : ℚ)
      (o : SendOutcome),
      BeliefsFollow loop (loop.tickWith cfg c now () o) (loop.decide cfg c now ()) o := by
  intro h
  have hfollow := h ⟨lobbyPolicy, defaultSetting.formatting, 5000⟩ {}
    (({} : SignalConsumer).process jsonCodec staleSignal 0).1 1
    (.reached (sentCount (({} : PlayerGateway Unit).sendActivateCreative jsonCodec "lobby" 0 0 none
      secondTick.stamp secondTick.alive).2))
  have hchanged : Changed {} (({} : DecisionLoop).tickWith
      ⟨lobbyPolicy, defaultSetting.formatting, 5000⟩
      (({} : SignalConsumer).process jsonCodec staleSignal 0).1 1 () (.reached 0)) := by
    unfold Changed
    decide +kernel
  exact delivered_reached.mp (hfollow.manifest hchanged).2 rfl

end DecisionLoop

end AdaptiveAdvertisement.DecisionOptimizer
