import AdaptiveAdvertisement.Library.Dict
import Mathlib.Data.List.Dedup
import Mathlib.Data.List.Perm.Subperm

/-!
# Bounded memories of recent keys

`Dict.remember` records keys one after the other and, past its capacity, forgets the older
half at once. `Recalls` relates such a memory to the log of everything recorded in it, and
`Spaced` is what it guarantees of a log into which only unknown keys are recorded.
-/

namespace AdaptiveAdvertisement.Library

variable {κ : Type*}

namespace Dict

variable [DecidableEq κ]

theorem keys_set_new {ν : Type*} (d : Dict κ ν) {k : κ} (v : ν) (h : k ∉ d.keys) :
    (d.set k v).keys = d.keys ++ [k] := by
  rw [keys_set, if_neg h]

theorem keys_fromKeys {ν : Type*} (v : ν) {ks : List κ} (h : ks.Nodup) :
    (fromKeys v ks).keys = ks := by
  have key : ∀ (ks : List κ) (d : Dict κ ν), (d.keys ++ ks).Nodup →
      (ks.foldl (fun d k => d.set k v) d).keys = d.keys ++ ks := by
    intro ks
    induction ks with
    | nil => simp
    | cons k ks ih =>
      intro d hd
      have hk : k ∉ d.keys := fun hmem =>
        (List.nodup_append.mp hd).2.2 k hmem k List.mem_cons_self rfl
      have hset := keys_set_new d v hk
      rw [List.append_cons, ← hset] at hd
      rw [List.foldl_cons, ih (d.set k v) hd, hset, ← List.append_cons]
  exact key ks empty h

end Dict

/-- At least `n` different keys stand between two successive occurrences of a key. -/
def Spaced [DecidableEq κ] (n : ℕ) (log : List κ) : Prop :=
  ∀ before between after k, log = before ++ k :: between ++ k :: after → k ∉ between →
    n ≤ between.dedup.length

structure Recalls (cap : ℕ) (log : List κ) (seen : Dict κ Bool) : Prop where
  suffix : seen.keys <:+ log
  bounded : seen.keys.length ≤ cap
  full : seen.keys = log ∨ cap + 1 - cap / 2 ≤ seen.keys.length

section Recalls

variable {cap : ℕ} {log : List κ} {seen : Dict κ Bool} {k : κ}

theorem recalls_empty (cap : ℕ) : Recalls cap ([] : List κ) Dict.empty where
  suffix := List.suffix_refl _
  bounded := Nat.zero_le _
  full := Or.inl rfl

/-- What a memory still holds was recorded after the last occurrence of a key it does not hold. -/
theorem Recalls.recorded_since (h : Recalls cap log seen) (hk : k ∉ seen.keys)
    {before between : List κ} (hlog : log = before ++ k :: between) :
    seen.keys <:+ between ∧ cap + 1 - cap / 2 ≤ seen.keys.length := by
  have hmem : k ∈ log := by simp [hlog]
  have hlate : seen.keys <:+ between := by
    have hsuffix : k :: between <:+ log := ⟨before, hlog.symm⟩
    rcases List.suffix_or_suffix_of_suffix h.suffix hsuffix with hshort | hlong
    · rcases List.suffix_cons_iff.mp hshort with hall | hshort
      · exact absurd (hall ▸ List.mem_cons_self) hk
      · exact hshort
    · exact absurd (hlong.subset List.mem_cons_self) hk
  refine ⟨hlate, ?_⟩
  rcases h.full with hall | hmany
  · exact absurd (hall ▸ hmem) hk
  · exact hmany

variable [DecidableEq κ]

theorem spaced_nil (n : ℕ) : Spaced n ([] : List κ) := by
  intro before between after k h
  simp at h

theorem keys_remember_new (cap : ℕ) (hk : k ∉ seen.keys) :
    (seen.remember cap k).keys =
      if cap < seen.keys.length + 1 then (seen.keys ++ [k]).drop (cap / 2)
      else seen.keys ++ [k] := by
  have hset := Dict.keys_set_new seen true hk
  have hnodup : ((seen.keys ++ [k]).drop (cap / 2)).Nodup := by
    rw [← hset]
    exact (seen.set k true).nodup.sublist (List.drop_sublist _ _)
  simp only [Dict.remember, hset, List.length_append, List.length_singleton]
  split
  · exact Dict.keys_fromKeys true hnodup
  · exact hset

theorem Recalls.remember (h : Recalls cap log seen) (hcap : 2 ≤ cap) (hk : k ∉ seen.keys) :
    Recalls cap (log ++ [k]) (seen.remember cap k) := by
  have hkeys := keys_remember_new cap hk
  have hsuffix : seen.keys ++ [k] <:+ log ++ [k] := List.suffix_append_self_iff.mpr h.suffix
  have hbounded := h.bounded
  by_cases hfull : cap < seen.keys.length + 1
  · rw [if_pos hfull] at hkeys
    have hlength : (seen.remember cap k).keys.length = cap + 1 - cap / 2 := by
      rw [hkeys, List.length_drop, List.length_append, List.length_singleton]
      omega
    refine ⟨?_, ?_, Or.inr (by omega)⟩
    · rw [hkeys]
      exact (List.drop_suffix _ _).trans hsuffix
    · omega
  · rw [if_neg hfull] at hkeys
    have hlength : (seen.remember cap k).keys.length = seen.keys.length + 1 := by
      rw [hkeys, List.length_append, List.length_singleton]
    refine ⟨?_, ?_, ?_⟩
    · rw [hkeys]
      exact hsuffix
    · omega
    · rcases h.full with hall | hmany
      · exact Or.inl (by rw [hkeys, hall])
      · exact Or.inr (by omega)

theorem Recalls.spaced (h : Recalls cap log seen) (hk : k ∉ seen.keys)
    (hspaced : Spaced (cap + 1 - cap / 2) log) : Spaced (cap + 1 - cap / 2) (log ++ [k]) := by
  intro before between after id hlog hid
  rcases List.eq_nil_or_concat after with rfl | ⟨after', last, rfl⟩
  · obtain ⟨hlog', hlast⟩ := List.append_inj' hlog rfl
    obtain rfl : k = id := by simpa using hlast
    obtain ⟨hsuffix, hmany⟩ := h.recorded_since hk hlog'
    have hdistinct : seen.keys.Subperm between.dedup :=
      List.Nodup.subperm seen.nodup fun j hj => List.mem_dedup.mpr (hsuffix.subset hj)
    exact Nat.le_trans hmany hdistinct.length_le
  · have hsplit : log ++ [k] = (before ++ id :: between ++ id :: after') ++ [last] := by
      rw [hlog]
      simp
    exact hspaced before between after' id (List.append_inj' hsplit rfl).1 hid

end Recalls

end AdaptiveAdvertisement.Library
