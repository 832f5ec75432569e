import Mathlib.Algebra.Order.Group.Defs
import Mathlib.Order.Basic
import Mathlib.Data.List.Induction

/-!
# Lazily pruned windows of a log

A window is pruned now and then: what is older than a cutoff is thrown away. `Windowed` says
that the window is the log from some cutoff on that is not later than `cut`, so that nothing is
missing when it is next pruned at `cut` or later.
-/

namespace AdaptiveAdvertisement.Library

variable {α T : Type*} [Preorder T] [DecidableLE T] (stamp : α → T)

def since (cut : T) (log : List α) : List α := log.filter fun a => decide (cut ≤ stamp a)

def Windowed (cut : T) (log window : List α) : Prop :=
  ∃ c, c ≤ cut ∧ window = since stamp c log

variable {stamp} {cut cut' : T} {log window : List α} {a : α}

theorem since_since (h : cut ≤ cut') (log : List α) :
    since stamp cut' (since stamp cut log) = since stamp cut' log := by
  unfold since
  rw [List.filter_filter]
  refine List.filter_congr fun a _ => ?_
  by_cases ha : cut' ≤ stamp a
  · simp [ha, le_trans h ha]
  · simp [ha]

theorem windowed_nil (cut : T) : Windowed stamp cut [] [] := ⟨cut, le_refl cut, rfl⟩

theorem Windowed.mono (h : Windowed stamp cut log window) (hcut : cut ≤ cut') :
    Windowed stamp cut' log window := by
  obtain ⟨c, hc, hwindow⟩ := h
  exact ⟨c, le_trans hc hcut, hwindow⟩

theorem Windowed.prune (h : Windowed stamp cut log window) :
    since stamp cut window = since stamp cut log := by
  obtain ⟨c, hc, rfl⟩ := h
  exact since_since hc log

theorem windowed_prune (h : Windowed stamp cut log window) :
    Windowed stamp cut log (since stamp cut window) := ⟨cut, le_refl cut, h.prune⟩

theorem Windowed.push (h : Windowed stamp cut log window) (ha : cut ≤ stamp a) :
    Windowed stamp cut (log ++ [a]) (window ++ [a]) := by
  obtain ⟨c, hc, rfl⟩ := h
  have hin : since stamp c [a] = [a] := by simp [since, le_trans hc ha]
  have happend : since stamp c (log ++ [a]) = since stamp c log ++ since stamp c [a] :=
    List.filter_append _ _
  exact ⟨c, hc, by rw [happend, hin]⟩

/-! ### Agreement from a cutoff on -/

/-- From `cut` on the window and the log have the same entries. -/
def AgreeFrom (stamp : α → T) (cut : T) (log window : List α) : Prop :=
  ∀ c, cut ≤ c → since stamp c window = since stamp c log

theorem agreeFrom_refl (cut : T) (log : List α) : AgreeFrom stamp cut log log := fun _ _ => rfl

theorem AgreeFrom.mono (h : AgreeFrom stamp cut log window) (hcut : cut ≤ cut') :
    AgreeFrom stamp cut' log window := fun c hc => h c (le_trans hcut hc)

theorem AgreeFrom.prune (h : AgreeFrom stamp cut log window) :
    AgreeFrom stamp cut log (since stamp cut window) := by
  intro c hc
  rw [since_since hc]
  exact h c hc

theorem AgreeFrom.push (h : AgreeFrom stamp cut log window) (a : α) :
    AgreeFrom stamp cut (log ++ [a]) (window ++ [a]) := by
  intro c hc
  have hsame := h c hc
  unfold since at hsame ⊢
  rw [List.filter_append, List.filter_append, hsame]

/-! ### Windows of a bounded log -/

section Bounded

variable {S : Type*} [AddCommGroup S] [LinearOrder S] [IsOrderedAddMonoid S] {width : S} {n : ℕ}
  {stamps : List S}

/-- The log was never above `n` within `width` before the entry that was logged last. -/
def BoundedWithin (width : S) (n : ℕ) (stamps : List S) : Prop :=
  ∀ before t after, stamps = before ++ t :: after →
    (since id (t - width) (before ++ [t])).length ≤ n

omit [IsOrderedAddMonoid S] in
theorem BoundedWithin.snoc (h : BoundedWithin width n stamps) {t : S}
    (ht : (since id (t - width) (stamps ++ [t])).length ≤ n) :
    BoundedWithin width n (stamps ++ [t]) := by
  intro before u after hsplit
  rcases List.eq_nil_or_concat after with rfl | ⟨after, last, rfl⟩
  · obtain ⟨rfl, hu⟩ := List.append_inj' hsplit rfl
    obtain rfl := List.head_eq_of_cons_eq hu
    exact ht
  · rw [List.concat_eq_append, ← List.cons_append, ← List.append_assoc] at hsplit
    exact h before u after (List.append_inj' hsplit rfl).1

/-- No closed window of that width holds more. -/
theorem BoundedWithin.window_le (h : BoundedWithin width n stamps) (a : S) :
    (stamps.filter fun t => decide (a ≤ t ∧ t ≤ a + width)).length ≤ n := by
  induction stamps using List.reverseRecOn with
  | nil => simp
  | append_singleton stamps t ih =>
    have hbefore : BoundedWithin width n stamps := by
      intro before u after hsplit
      refine h before u (after ++ [t]) ?_
      rw [hsplit, List.append_assoc, List.cons_append]
    by_cases ht : a ≤ t ∧ t ≤ a + width
    · -- the entries of the window are within `width` before its last one
      have hsub : (stamps ++ [t]).filter (fun u => decide (a ≤ u ∧ u ≤ a + width)) =
          (since id (t - width) (stamps ++ [t])).filter
            fun u => decide (a ≤ u ∧ u ≤ a + width) := by
        unfold since
        rw [List.filter_filter]
        refine List.filter_congr fun u _ => ?_
        by_cases hu : a ≤ u ∧ u ≤ a + width
        · have hwithin : t - width ≤ u := (sub_le_iff_le_add.mpr ht.2).trans hu.1
          simp [hu, hwithin]
        · simp [hu]
      rw [hsub]
      exact (List.length_filter_le _ _).trans (h stamps t [] rfl)
    · rw [List.filter_append, List.filter_cons_of_neg (by simpa using ht), List.filter_nil,
        List.append_nil]
      exact ih hbefore

end Bounded

end AdaptiveAdvertisement.Library
