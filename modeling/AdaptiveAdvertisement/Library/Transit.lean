import Mathlib.Data.List.Perm.Basic

/-!
# Messages that may be lost and overtaken

A sender schedules messages, a network carries them with what they get at their launch, and a
receiver keeps them. Every hand-over takes any message that waits for it and may fail. Nothing is
kept that was not scheduled and launched, with what it got there, and nothing twice.
-/

namespace AdaptiveAdvertisement.Library
open List (Subperm)

structure Transit (α β : Type*) where
  scheduled : List α := []
  underway : List (α × β) := []
  kept : List (α × β) := []

inductive TransitStep (α β : Type*) where
  | schedule (a : α)
  | launch (k : ℕ) (b : β) (succeeds : Bool)
  | land (k : ℕ) (succeeds : Bool)

namespace Transit

variable {α β : Type*}

def step (t : Transit α β) : TransitStep α β → Transit α β × Option α
  | .schedule a => ({ t with scheduled := t.scheduled ++ [a] }, some a)
  | .launch k b succeeds =>
    match t.scheduled[k]? with
    | some a =>
      ({ t with
        scheduled := t.scheduled.eraseIdx k
        underway := if succeeds then t.underway ++ [(a, b)] else t.underway }, none)
    | none => (t, none)
  | .land k succeeds =>
    match t.underway[k]? with
    | some m =>
      ({ t with
        underway := t.underway.eraseIdx k
        kept := if succeeds then t.kept ++ [m] else t.kept }, none)
    | none => (t, none)

/-- The message that a step launches, with what it gets. -/
def launches (t : Transit α β) : TransitStep α β → Option (α × β)
  | .launch k b _ => (t.scheduled[k]?).map fun a => (a, b)
  | _ => none

/-- Of all messages, each waits or was launched, and what is under way or kept was launched. -/
structure Accounted (t : Transit α β) (launched : List (α × β)) (all : List α) : Prop where
  all : (launched.map Prod.fst ++ t.scheduled).Perm all
  among : Subperm (t.underway ++ t.kept) launched

theorem eraseIdx_perm {γ : Type*} {l : List γ} {k : ℕ} {a : γ} (h : l[k]? = some a) :
    l.Perm (a :: l.eraseIdx k) := by
  obtain ⟨hk, rfl⟩ := List.getElem?_eq_some_iff.mp h
  exact (List.getElem_cons_eraseIdx_perm hk).symm

section Accounted

variable {t : Transit α β} {launched : List (α × β)} {all : List α}

theorem accounted_init : Accounted ({} : Transit α β) [] [] :=
  ⟨List.Perm.refl _, Subperm.refl _⟩

theorem Accounted.launch (h : Accounted t launched all) (k : ℕ) (b : β) (succeeds : Bool) :
    Accounted (t.step (.launch k b succeeds)).1
      (launched ++ (t.launches (.launch k b succeeds)).toList) all := by
  cases ha : t.scheduled[k]? with
  | none => simpa [step, launches, ha] using h
  | some a =>
    simp only [step, launches, ha, Option.map_some, Option.toList_some]
    refine ⟨List.Perm.trans ?_ h.all, ?_⟩
    · rw [List.map_append, List.append_assoc]
      exact (eraseIdx_perm ha).symm.append_left _
    · cases succeeds with
      | false => exact h.among.trans (List.sublist_append_left _ _).subperm
      | true =>
        have hlast : ((t.underway ++ [(a, b)]) ++ t.kept).Perm
            ((t.underway ++ t.kept) ++ [(a, b)]) := by
          rw [List.append_assoc, List.append_assoc]
          exact List.perm_append_comm.append_left _
        exact hlast.subperm.trans ((List.subperm_append_right _).mpr h.among)

theorem Accounted.land (h : Accounted t launched all) (k : ℕ) (succeeds : Bool) :
    Accounted (t.step (.land k succeeds)).1 launched all := by
  cases hm : t.underway[k]? with
  | none => simpa [step, hm] using h
  | some m =>
    simp only [step, hm]
    refine ⟨h.all, List.Subperm.trans ?_ h.among⟩
    have hperm := (eraseIdx_perm hm).append_right t.kept
    refine List.Subperm.trans ?_ hperm.symm.subperm
    cases succeeds with
    | false => exact (List.sublist_cons_self m _).subperm
    | true =>
      refine List.Perm.subperm ?_
      simp only [if_true]
      rw [← List.append_assoc]
      exact List.perm_append_singleton _ _

theorem step_quiet (t : Transit α β) {i : TransitStep α β} (hi : ∀ a, i ≠ .schedule a) :
    (t.step i).2 = none := by
  cases i with
  | schedule a => exact absurd rfl (hi a)
  | launch k b succeeds =>
    simp only [step]
    split <;> rfl
  | land k succeeds =>
    simp only [step]
    split <;> rfl

theorem Accounted.step (h : Accounted t launched all) (i : TransitStep α β) :
    Accounted (t.step i).1 (launched ++ (t.launches i).toList) (all ++ (t.step i).2.toList) := by
  cases i with
  | schedule a =>
    simp only [launches, Option.toList_none, List.append_nil]
    refine ⟨?_, h.among⟩
    rw [Transit.step, ← List.append_assoc]
    exact h.all.append_right _
  | launch k b succeeds =>
    rw [t.step_quiet (by simp), Option.toList_none, List.append_nil]
    exact h.launch k b succeeds
  | land k succeeds =>
    have hnone : t.launches (.land k succeeds) = none := rfl
    rw [t.step_quiet (by simp), hnone, Option.toList_none, Option.toList_none, List.append_nil,
      List.append_nil]
    exact h.land k succeeds

theorem Accounted.kept_subperm (h : Accounted t launched all) : Subperm t.kept launched :=
  (List.sublist_append_right _ _).subperm.trans h.among

theorem Accounted.launched_subperm (h : Accounted t launched all) :
    Subperm (launched.map Prod.fst) all :=
  (List.sublist_append_left _ _).subperm.trans h.all.subperm

theorem Accounted.kept_events (h : Accounted t launched all) :
    Subperm (t.kept.map Prod.fst) all := by
  obtain ⟨m, hperm, hsub⟩ := h.kept_subperm
  have hmap : Subperm (t.kept.map Prod.fst) (launched.map Prod.fst) :=
    ⟨m.map Prod.fst, hperm.map _, hsub.map _⟩
  exact hmap.trans h.launched_subperm

theorem Accounted.underway_mem (h : Accounted t launched all) {m : α × β}
    (hm : m ∈ t.underway) : m.1 ∈ all :=
  h.launched_subperm.subset (List.mem_map_of_mem (h.among.subset (List.mem_append_left _ hm)))

/-- Where all have arrived, none waits. -/
theorem Accounted.complete (h : Accounted t launched all) (hkept : t.kept.length = all.length) :
    t.scheduled = [] ∧ t.kept.Perm launched := by
  have hlength := h.all.length_eq
  rw [List.length_append, List.length_map] at hlength
  have hamong := h.kept_subperm.length_le
  exact ⟨List.length_eq_zero_iff.mp (by omega), h.kept_subperm.perm_of_length_le (by omega)⟩

end Accounted

end Transit

end AdaptiveAdvertisement.Library
