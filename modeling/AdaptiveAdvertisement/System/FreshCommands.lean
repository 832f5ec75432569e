import AdaptiveAdvertisement.System.Delivery

/-!
# No command is taken for an old one

The gateway numbers its commands upwards and draws a new id for each, so a command that reaches
the player is neither out of order nor a duplicate, whatever was lost or refused before.
-/

namespace AdaptiveAdvertisement.System
open Library Player DecisionOptimizer

variable {τ δ : Type}

/-- The player has seen no sequence number above the gateway's and no id but issued ones. -/
structure Fresh (s : Delivery) : Prop where
  sequence : s.player.lastSequence ≤ s.gateway.sequence
  ids : ∀ id ∈ s.player.seenCommandIds.keys, id ∈ s.issued

def DrawsNew (s : Delivery) (i : Step τ δ) : Prop := ∀ id ∈ i.commandId?, id ∉ s.issued

section Fresh

variable {w : World τ δ} {s : Delivery}

theorem fresh_start (store : ManifestStore) : Fresh (Delivery.start store) where
  sequence := by simp [Delivery.start]
  ids := by simp [Delivery.start]

theorem Fresh.unseen (h : Fresh s) {id : String} (hnew : id ∉ s.issued) :
    s.player.seenCommandIds.contains id = false :=
  (Dict.contains_eq_false_iff _ _).mpr fun hmem => hnew (h.ids id hmem)

-- changing the state machine or the connection, or drawing an id, keeps the law
theorem Fresh.of_memory (h : Fresh s) {s' : Delivery}
    (hsequence : s'.player.lastSequence = s.player.lastSequence)
    (hids : s'.player.seenCommandIds = s.player.seenCommandIds)
    (hgateway : s'.gateway.sequence = s.gateway.sequence) (hissued : s.issued ⊆ s'.issued) :
    Fresh s' where
  sequence := by
    rw [hsequence, hgateway]
    exact h.sequence
  ids := by
    intro id hid
    rw [hids] at hid
    exact hissued (h.ids id hid)

theorem fresh_tick (h : Fresh s) (t : Tick δ) : Fresh (s.tick w t) := by
  have hissued := tick_issued w s t
  cases hout : outgoing w s t (s.decision w t) with
  | none =>
    obtain ⟨hgateway, hplayer⟩ := tick_unsent hout
    refine h.of_memory (by rw [hplayer]) (by rw [hplayer]) (by rw [hgateway]) ?_
    rw [hissued]
    exact List.subset_cons_self _ _
  | some msg =>
    obtain ⟨hgateway, hplayer⟩ := tick_sent hout
    obtain ⟨p, -, rfl, -⟩ := outgoing_some hout
    have hhd : header (built s t p) =
        .ok ⟨t.stamp.commandId, (s.gateway.sequence + 1 : ℕ), p.1⟩ := header_command
    have hmemory := handleRaw_remembers w.rt t.clock s.player hhd
    have hs := h.sequence
    refine ⟨?_, ?_⟩
    · rw [hplayer, hgateway]
      rcases hmemory.sequence with hkept | hrecorded
      · omega
      · exact le_of_eq hrecorded
    · intro id hid
      rw [hplayer] at hid
      rw [hissued]
      rcases hmemory.ids id hid with rfl | hold
      · exact List.mem_cons_self
      · exact List.mem_cons_of_mem _ (h.ids id hold)

theorem fresh_control (h : Fresh s) (sm : StateMachine) : Fresh (s.control sm) := by
  unfold Delivery.control
  split
  · exact h.of_memory rfl rfl rfl (List.Subset.refl _)
  · exact h

theorem fresh_step (h : Fresh s) (i : Step τ δ) : Fresh (s.step w i) := by
  cases i with
  | signal raw now => exact h.of_memory rfl rfl rfl (List.Subset.refl _)
  | tick t => exact fresh_tick h t
  | connect =>
    change Fresh s.connect
    unfold Delivery.connect
    split
    · refine ⟨?_, h.ids⟩
      change (-1 : ℤ) ≤ s.gateway.sequence
      omega
    · exact h
  | disconnect abnormal now => exact h.of_memory rfl rfl rfl (List.Subset.refl _)
  | engageSafeMode reason now => exact fresh_control h _
  | clearSafeMode => exact fresh_control h _

/-! ### The ids of a run -/

theorem control_issued (s : Delivery) (sm : StateMachine) : (s.control sm).issued = s.issued := by
  unfold Delivery.control
  split <;> rfl

theorem connect_issued (s : Delivery) : s.connect.issued = s.issued := by
  unfold Delivery.connect
  split <;> rfl

theorem step_issued (w : World τ δ) (s : Delivery) (i : Step τ δ) :
    (s.step w i).issued = i.commandId?.toList ++ s.issued := by
  cases i with
  | signal raw now => rfl
  | tick t => exact tick_issued w s t
  | connect => exact connect_issued s
  | disconnect abnormal now => rfl
  | engageSafeMode reason now => exact control_issued s _
  | clearSafeMode => exact control_issued s _

theorem drawsNew_run (w : World τ δ) (store : ManifestStore) {is : List (Step τ δ)}
    (hdistinct : (is.filterMap Step.commandId?).Nodup)
    (hissued : ∀ id ∈ is.filterMap Step.commandId?, id ∉ s.issued) :
    (delivery w store).EachStep DrawsNew s is := by
  refine (delivery w store).eachStep_draws_new Step.commandId? Delivery.issued ?_ hdistinct hissued
  intro s i id hid
  have hnext : ((delivery w store).next s i).issued = i.commandId?.toList ++ s.issued :=
    step_issued w s i
  rw [hnext, List.mem_append] at hid
  rcases hid with hdrawn | hold
  · exact Or.inl (Option.mem_toList.mp hdrawn)
  · exact Or.inr hold

end Fresh

end AdaptiveAdvertisement.System
