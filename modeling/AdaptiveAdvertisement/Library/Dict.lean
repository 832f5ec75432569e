import Mathlib.Data.List.Nodup

/-!
# Insertion-ordered dictionaries

The dictionary of a scripting language: one entry per key, in the order in which the
keys were first set. Setting a present key replaces its value in place, setting a new
key appends. The keys carry no duplicate by construction.
-/

namespace AdaptiveAdvertisement.Library

structure Dict (κ ν : Type*) where
  entries : List (κ × ν)
  nodup : (entries.map Prod.fst).Nodup

namespace Dict

variable {κ ν μ : Type*}

def empty : Dict κ ν := ⟨[], List.nodup_nil⟩

instance : Inhabited (Dict κ ν) := ⟨empty⟩

def keys (d : Dict κ ν) : List κ := d.entries.map Prod.fst

@[ext] theorem ext {c d : Dict κ ν} (h : c.entries = d.entries) : c = d := by
  cases c
  cases d
  simpa using h

@[simp] theorem keys_empty : (empty : Dict κ ν).keys = [] := rfl

/-! ### Converting the values -/

def convert (f : ν → Option μ) : List (κ × ν) → Option (List (κ × μ))
  | [] => some []
  | e :: es =>
    match f e.2, convert f es with
    | some v, some vs => some ((e.1, v) :: vs)
    | _, _ => none

theorem convert_cons {f : ν → Option μ} {e : κ × ν} {es : List (κ × ν)}
    {es' : List (κ × μ)} (h : convert f (e :: es) = some es') :
    ∃ v vs, f e.2 = some v ∧ convert f es = some vs ∧ es' = (e.1, v) :: vs := by
  simp only [convert] at h
  split at h
  next v vs hv hvs => exact ⟨v, vs, hv, hvs, (Option.some.inj h).symm⟩
  next => cases h

theorem convert_keys {f : ν → Option μ} {es : List (κ × ν)} {es' : List (κ × μ)}
    (h : convert f es = some es') : es'.map Prod.fst = es.map Prod.fst := by
  induction es generalizing es' with
  | nil =>
    simp only [convert, Option.some.injEq] at h
    simp [← h]
  | cons e es ih =>
    obtain ⟨v, vs, -, hvs, rfl⟩ := convert_cons h
    simp [ih hvs]

def traverse (f : ν → Option μ) (d : Dict κ ν) : Option (Dict κ μ) :=
  match h : convert f d.entries with
  | some es => some ⟨es, by rw [convert_keys h]; exact d.nodup⟩
  | none => none

theorem keys_traverse {f : ν → Option μ} {d : Dict κ ν} {d' : Dict κ μ}
    (h : d.traverse f = some d') : d'.keys = d.keys := by
  unfold traverse at h
  split at h
  next es hes =>
    cases h
    exact convert_keys hes
  next => cases h

variable [DecidableEq κ]

def find (k : κ) : List (κ × ν) → Option ν
  | [] => none
  | e :: es => if e.1 = k then some e.2 else find k es

def get (d : Dict κ ν) (k : κ) : Option ν := find k d.entries

def contains (d : Dict κ ν) (k : κ) : Bool := decide (k ∈ d.keys)

def put (k : κ) (v : ν) : List (κ × ν) → List (κ × ν)
  | [] => [(k, v)]
  | e :: es => if e.1 = k then (k, v) :: es else e :: put k v es

theorem map_fst_put (k : κ) (v : ν) (es : List (κ × ν)) :
    (put k v es).map Prod.fst =
      if k ∈ es.map Prod.fst then es.map Prod.fst else es.map Prod.fst ++ [k] := by
  induction es with
  | nil => simp [put]
  | cons e es ih =>
    by_cases he : e.1 = k
    · simp [put, he]
    · have hk : k ≠ e.1 := fun h => he h.symm
      simp only [put, he, ite_false, List.map_cons, ih, List.mem_cons, hk, false_or]
      split <;> rfl

theorem put_nodup (k : κ) (v : ν) {es : List (κ × ν)} (h : (es.map Prod.fst).Nodup) :
    ((put k v es).map Prod.fst).Nodup := by
  rw [map_fst_put]
  split
  · exact h
  next hk =>
    rw [List.nodup_append]
    refine ⟨h, List.nodup_singleton k, ?_⟩
    intro a ha b hb
    rw [List.mem_singleton.mp hb]
    exact fun he => hk (he ▸ ha)

def set (d : Dict κ ν) (k : κ) (v : ν) : Dict κ ν :=
  ⟨put k v d.entries, put_nodup k v d.nodup⟩

def erase (d : Dict κ ν) (k : κ) : Dict κ ν :=
  ⟨d.entries.filter fun e => decide (e.1 ≠ k),
    d.nodup.sublist (List.filter_sublist.map Prod.fst)⟩

def fromKeys (v : ν) (ks : List κ) : Dict κ ν := ks.foldl (fun d k => d.set k v) empty

/-- Add `k` to a set of recent keys that holds at most `cap`: past it the older half goes. -/
def remember (cap : ℕ) (seen : Dict κ Bool) (k : κ) : Dict κ Bool :=
  let seen' := seen.set k true
  if cap < seen'.keys.length then fromKeys true (seen'.keys.drop (cap / 2)) else seen'

/-! ### Lookup -/

theorem find_put (k j : κ) (v : ν) (es : List (κ × ν)) :
    find j (put k v es) = if j = k then some v else find j es := by
  induction es with
  | nil =>
    by_cases h : j = k
    · simp [put, find, h]
    · simp [put, find, h, Ne.symm h]
  | cons e es ih =>
    by_cases he : e.1 = k
    · subst he
      by_cases h : j = e.1
      · simp [put, find, h]
      · simp [put, find, h, Ne.symm h]
    · simp only [put, he, ite_false, find, ih]
      by_cases hj : e.1 = j
      · have hjk : j ≠ k := fun h => he (hj.trans h)
        simp [hj, hjk]
      · simp [hj]

theorem find_eq_some_mem {k : κ} {v : ν} {es : List (κ × ν)} (h : find k es = some v) :
    (k, v) ∈ es := by
  induction es with
  | nil => simp [find] at h
  | cons e es ih =>
    by_cases he : e.1 = k
    · simp only [find, he, ite_true, Option.some.injEq] at h
      have hkv : e = (k, v) := Prod.ext he h
      rw [hkv]
      exact List.mem_cons_self
    · simp only [find, he, ite_false] at h
      exact List.mem_cons_of_mem _ (ih h)

theorem find_of_mem {k : κ} {v : ν} {es : List (κ × ν)} (hn : (es.map Prod.fst).Nodup)
    (h : (k, v) ∈ es) : find k es = some v := by
  induction es with
  | nil => simp at h
  | cons e es ih =>
    simp only [List.map_cons, List.nodup_cons] at hn
    rcases List.mem_cons.mp h with he | hm
    · simp [find, ← he]
    · have hne : e.1 ≠ k := by
        intro hk
        exact hn.1 (hk ▸ List.mem_map_of_mem (f := Prod.fst) hm)
      simp only [find, hne, ite_false]
      exact ih hn.2 hm

theorem find_isSome_iff (k : κ) (es : List (κ × ν)) :
    (find k es).isSome ↔ k ∈ es.map Prod.fst := by
  induction es with
  | nil => simp [find]
  | cons e es ih =>
    by_cases he : e.1 = k
    · simp [find, he]
    · have hk : k ≠ e.1 := fun h => he h.symm
      simp [find, he, hk, ← ih]

theorem find_map (f : ν → μ) (k : κ) (es : List (κ × ν)) :
    find k (es.map fun e => (e.1, f e.2)) = (find k es).map f := by
  induction es with
  | nil => rfl
  | cons e es ih =>
    by_cases he : e.1 = k
    · simp [find, he]
    · simp [find, he, ih]

@[simp] theorem get_empty (k : κ) : (empty : Dict κ ν).get k = none := rfl

theorem get_set (d : Dict κ ν) (k j : κ) (v : ν) :
    (d.set k v).get j = if j = k then some v else d.get j := find_put k j v d.entries

@[simp] theorem get_set_self (d : Dict κ ν) (k : κ) (v : ν) : (d.set k v).get k = some v := by
  rw [get_set]
  exact if_pos rfl

theorem get_set_ne (d : Dict κ ν) {k j : κ} (v : ν) (h : j ≠ k) :
    (d.set k v).get j = d.get j := by
  rw [get_set]
  exact if_neg h

theorem get_eq_some_iff (d : Dict κ ν) (k : κ) (v : ν) :
    d.get k = some v ↔ (k, v) ∈ d.entries :=
  ⟨find_eq_some_mem, find_of_mem d.nodup⟩

theorem find_filter_ne (k j : κ) (es : List (κ × ν)) :
    find j (es.filter fun e => decide (e.1 ≠ k)) = if j = k then none else find j es := by
  induction es with
  | nil => simp [find]
  | cons e es ih =>
    by_cases he : e.1 = k
    · rw [List.filter_cons_of_neg (by simp [he]), ih]
      by_cases hj : j = k
      · simp [hj]
      · have hne : e.1 ≠ j := fun h => hj (h.symm.trans he)
        simp [hj, find, hne]
    · rw [List.filter_cons_of_pos (by simp [he])]
      simp only [find, ih]
      by_cases hj : e.1 = j
      · have hne : j ≠ k := fun h => he (hj.trans h)
        simp [hj, hne]
      · simp [hj]

theorem get_erase (d : Dict κ ν) (k j : κ) :
    (d.erase k).get j = if j = k then none else d.get j := find_filter_ne k j d.entries

theorem mem_entries_set {d : Dict κ ν} {k : κ} {v : ν} {e : κ × ν}
    (h : e ∈ (d.set k v).entries) : e = (k, v) ∨ e ∈ d.entries := by
  have hget := (get_eq_some_iff (d.set k v) e.1 e.2).mpr h
  rw [get_set] at hget
  by_cases hk : e.1 = k
  · rw [if_pos hk, Option.some.injEq] at hget
    exact Or.inl (Prod.ext hk hget.symm)
  · rw [if_neg hk] at hget
    exact Or.inr ((get_eq_some_iff d e.1 e.2).mp hget)

theorem contains_iff (d : Dict κ ν) (k : κ) : d.contains k = true ↔ k ∈ d.keys := by
  simp [contains]

theorem contains_eq_false_iff (d : Dict κ ν) (k : κ) :
    d.contains k = false ↔ k ∉ d.keys := by
  simp [contains]

theorem get_isSome_iff (d : Dict κ ν) (k : κ) : (d.get k).isSome ↔ k ∈ d.keys :=
  find_isSome_iff k d.entries

theorem get_eq_none_iff (d : Dict κ ν) (k : κ) : d.get k = none ↔ k ∉ d.keys := by
  rw [← get_isSome_iff]
  cases d.get k <;> simp

/-! ### Keys -/

theorem keys_set (d : Dict κ ν) (k : κ) (v : ν) :
    (d.set k v).keys = if k ∈ d.keys then d.keys else d.keys ++ [k] :=
  map_fst_put k v d.entries

theorem mem_keys_set (d : Dict κ ν) (k j : κ) (v : ν) :
    j ∈ (d.set k v).keys ↔ j = k ∨ j ∈ d.keys := by
  rw [keys_set]
  split
  next hk => exact ⟨Or.inr, fun h => h.elim (fun he => he ▸ hk) id⟩
  · simp [or_comm]

theorem mem_keys_fromKeys (v : ν) (ks : List κ) (j : κ) :
    j ∈ (fromKeys v ks).keys ↔ j ∈ ks := by
  have key : ∀ (ks : List κ) (d : Dict κ ν),
      j ∈ (ks.foldl (fun d k => d.set k v) d).keys ↔ j ∈ d.keys ∨ j ∈ ks := by
    intro ks
    induction ks with
    | nil => simp
    | cons k ks ih =>
      intro d
      rw [List.foldl_cons, ih, mem_keys_set, List.mem_cons]
      tauto
  rw [fromKeys, key ks empty]
  simp

theorem mem_keys_remember {cap : ℕ} {seen : Dict κ Bool} {k j : κ}
    (h : j ∈ (seen.remember cap k).keys) : j = k ∨ j ∈ seen.keys := by
  simp only [remember] at h
  split at h
  · rw [mem_keys_fromKeys] at h
    exact (mem_keys_set seen k j true).mp (List.mem_of_mem_drop h)
  · exact (mem_keys_set seen k j true).mp h

/-! ### From an association list -/

/-- The entries of an association list that a lookup can reach. -/
def firsts : List (κ × ν) → List (κ × ν)
  | [] => []
  | e :: es => e :: (firsts es).filter fun e' => decide (e'.1 ≠ e.1)

theorem firsts_nodup (es : List (κ × ν)) : ((firsts es).map Prod.fst).Nodup := by
  induction es with
  | nil => simp [firsts]
  | cons e es ih =>
    have hrest : (((firsts es).filter fun e' => decide (e'.1 ≠ e.1)).map Prod.fst).Nodup :=
      ih.sublist (List.filter_sublist.map Prod.fst)
    have hnot : e.1 ∉ ((firsts es).filter fun e' => decide (e'.1 ≠ e.1)).map Prod.fst := by
      intro hmem
      obtain ⟨e', he', hkey⟩ := List.mem_map.mp hmem
      have hne : e'.1 ≠ e.1 := by simpa using (List.mem_filter.mp he').2
      exact hne hkey
    exact List.nodup_cons.mpr ⟨hnot, hrest⟩

def ofList (es : List (κ × ν)) : Dict κ ν := ⟨firsts es, firsts_nodup es⟩

theorem find_firsts (k : κ) (es : List (κ × ν)) : find k (firsts es) = find k es := by
  induction es with
  | nil => rfl
  | cons e es ih =>
    by_cases he : e.1 = k
    · simp [firsts, find, he]
    · have hk : k ≠ e.1 := fun h => he h.symm
      simp only [firsts, find, he, ite_false, find_filter_ne, hk, ih]

@[simp] theorem get_ofList (es : List (κ × ν)) (k : κ) : (ofList es).get k = find k es :=
  find_firsts k es

theorem find_convert {f : ν → Option μ} {es : List (κ × ν)} {es' : List (κ × μ)}
    (h : convert f es = some es') (k : κ) : find k es' = (find k es).bind f := by
  induction es generalizing es' with
  | nil =>
    simp only [convert, Option.some.injEq] at h
    simp [← h, find]
  | cons e es ih =>
    obtain ⟨v, vs, hv, hvs, rfl⟩ := convert_cons h
    by_cases he : e.1 = k
    · simp [find, he, hv]
    · simp [find, he, ih hvs]

theorem get_traverse {f : ν → Option μ} {d : Dict κ ν} {d' : Dict κ μ}
    (h : d.traverse f = some d') (k : κ) : d'.get k = (d.get k).bind f := by
  unfold traverse at h
  split at h
  next es hes =>
    cases h
    exact find_convert hes k
  next => cases h

theorem traverse_get {f : ν → Option μ} {d : Dict κ ν} {d' : Dict κ μ}
    (h : d.traverse f = some d') {k : κ} {v : ν} (hv : d.get k = some v) :
    ∃ w, f v = some w ∧ d'.get k = some w := by
  have hget := get_traverse h k
  rw [hv, Option.bind_some] at hget
  have hkey : k ∈ d'.keys := by
    rw [keys_traverse h, ← get_isSome_iff, hv]
    rfl
  obtain ⟨w, hw⟩ := Option.isSome_iff_exists.mp ((get_isSome_iff d' k).mpr hkey)
  exact ⟨w, hget ▸ hw, hw⟩

/-! ### Setting many keys -/

/-- The keys of a list set one after the other, so that a later value replaces an earlier one. -/
def setAll (d : Dict κ ν) (es : List (κ × ν)) : Dict κ ν :=
  es.foldl (fun d e => d.set e.1 e.2) d

@[simp] theorem setAll_nil (d : Dict κ ν) : d.setAll [] = d := rfl

@[simp] theorem setAll_cons (d : Dict κ ν) (e : κ × ν) (es : List (κ × ν)) :
    d.setAll (e :: es) = (d.set e.1 e.2).setAll es := rfl

theorem get_setAll (d : Dict κ ν) (es : List (κ × ν)) (k : κ) :
    (d.setAll es).get k =
      (((es.filter fun e => decide (e.1 = k)).getLast?).map Prod.snd).or (d.get k) := by
  induction es generalizing d with
  | nil => simp
  | cons e es ih =>
    rw [setAll_cons, ih, get_set]
    by_cases hk : e.1 = k
    · rw [List.filter_cons_of_pos (by simpa using hk), List.getLast?_cons, if_pos hk.symm]
      cases (es.filter fun e => decide (e.1 = k)).getLast? <;> rfl
    · rw [List.filter_cons_of_neg (by simpa using hk), if_neg (Ne.symm hk)]

theorem length_keys_setAll_le (d : Dict κ ν) (es : List (κ × ν)) :
    (d.setAll es).keys.length ≤ d.keys.length + es.length := by
  induction es generalizing d with
  | nil => simp
  | cons e es ih =>
    have hle := ih (d.set e.1 e.2)
    have hset : (d.set e.1 e.2).keys.length ≤ d.keys.length + 1 := by
      rw [keys_set]
      split <;> simp
    simp only [setAll_cons, List.length_cons]
    omega

/-- Every entry has a key of its own exactly where no key is lost to another. -/
theorem length_keys_setAll_iff (d : Dict κ ν) (es : List (κ × ν)) :
    (d.setAll es).keys.length = d.keys.length + es.length ↔
      (es.map Prod.fst).Nodup ∧ ∀ e ∈ es, e.1 ∉ d.keys := by
  induction es generalizing d with
  | nil => simp
  | cons e es ih =>
    rw [setAll_cons, List.map_cons, List.nodup_cons, List.forall_mem_cons, List.length_cons]
    by_cases hk : e.1 ∈ d.keys
    · have hle := length_keys_setAll_le (d.set e.1 e.2) es
      rw [keys_set, if_pos hk] at hle
      refine iff_of_false (fun h => ?_) fun h => h.2.1 hk
      omega
    · have hlen : (d.set e.1 e.2).keys.length = d.keys.length + 1 := by
        rw [keys_set, if_neg hk, List.length_append, List.length_singleton]
      have hstep := ih (d.set e.1 e.2)
      rw [hlen] at hstep
      have hfree : (∀ e' ∈ es, e'.1 ∉ (d.set e.1 e.2).keys) ↔
          e.1 ∉ es.map Prod.fst ∧ ∀ e' ∈ es, e'.1 ∉ d.keys := by
        simp only [mem_keys_set, not_or, List.mem_map, not_exists, not_and]
        exact ⟨fun h => ⟨fun e' he' heq => (h e' he').1 heq, fun e' he' => (h e' he').2⟩,
          fun h e' he' => ⟨fun heq => h.1 e' he' heq, h.2 e' he'⟩⟩
      rw [hfree] at hstep
      rw [show d.keys.length + (es.length + 1) = d.keys.length + 1 + es.length by omega, hstep]
      tauto

end Dict

end AdaptiveAdvertisement.Library
