import AdaptiveAdvertisement.Library.FileNames

/-!
# Paths read without the file system

Two dots cancel the name before them. What a list of components comes to is a walk: the levels
that it climbs, and the names that it goes down from there. Walks compose, and with them the
normal form of a joined path.
-/

namespace AdaptiveAdvertisement.Library

/-! ### Walks -/

/-- The names are kept with the last one first. -/
structure Walk where
  up : ℕ := 0
  down : List String := []
  deriving DecidableEq

namespace Walk

def step (w : Walk) (c : String) : Walk :=
  if c = ".." then
    match w.down with
    | [] => ⟨w.up + 1, []⟩
    | _ :: rest => ⟨w.up, rest⟩
  else ⟨w.up, c :: w.down⟩

def append (v w : Walk) : Walk :=
  if w.up ≤ v.down.length then ⟨v.up, w.down ++ v.down.drop w.up⟩
  else ⟨v.up + (w.up - v.down.length), w.down⟩

end Walk

def walk (parts : List String) : Walk := parts.foldl Walk.step {}

theorem Walk.append_step (v w : Walk) (c : String) :
    v.append (w.step c) = (v.append w).step c := by
  obtain ⟨u, down⟩ := w
  by_cases hc : c = ".."
  · cases down with
    | cons x rest =>
      by_cases hu : u ≤ v.down.length <;> simp [step, append, hc, hu]
    | nil =>
      rcases Nat.lt_trichotomy u v.down.length with hlt | heq | hgt
      · have hcons := List.drop_eq_getElem_cons hlt
        have happend : v.append ⟨u, []⟩ = ⟨v.up, v.down[u] :: v.down.drop (u + 1)⟩ := by
          rw [← hcons]
          exact if_pos (Nat.le_of_lt hlt)
        have hnext : (⟨u, []⟩ : Walk).step c = ⟨u + 1, []⟩ := if_pos hc
        rw [happend, hnext, step, if_pos hc]
        exact if_pos (Nat.succ_le_of_lt hlt)
      · simp [step, append, hc, heq]
      · have hnot : ¬ u ≤ v.down.length := Nat.not_le.mpr hgt
        have hnot' : ¬ u + 1 ≤ v.down.length := by omega
        have hsub : v.up + (u + 1 - v.down.length) = v.up + (u - v.down.length) + 1 := by omega
        simp [step, append, hc, hnot, hnot', hsub]
  · by_cases hu : u ≤ v.down.length <;> simp [step, append, hc, hu]

theorem Walk.append_empty (v : Walk) : v.append {} = v := by
  simp [append]

theorem walk_append (ps qs : List String) : walk (ps ++ qs) = (walk ps).append (walk qs) := by
  induction qs using List.reverseRecOn with
  | nil => rw [List.append_nil]; exact (Walk.append_empty _).symm
  | append_singleton qs c ih =>
    have hsnoc : ∀ rs, walk (rs ++ [c]) = (walk rs).step c := fun rs => by
      rw [walk, List.foldl_append]
      rfl
    rw [← List.append_assoc, hsnoc, hsnoc, ih, Walk.append_step]

theorem walk_names (parts : List String) : ".." ∉ (walk parts).down := by
  have hstep : ∀ (w : Walk) (c : String), ".." ∉ w.down → ".." ∉ (w.step c).down := by
    intro w c hw
    by_cases hc : c = ".."
    · obtain ⟨u, down⟩ := w
      cases down with
      | nil => simp [Walk.step, hc]
      | cons x rest =>
        simp only [Walk.step, hc, if_true]
        exact fun hmem => hw (List.mem_cons_of_mem _ hmem)
    · simp only [Walk.step, if_neg hc, List.mem_cons, not_or]
      exact ⟨fun he => hc he.symm, hw⟩
  induction parts using List.reverseRecOn with
  | nil => exact List.not_mem_nil
  | append_singleton ps c ih =>
    rw [walk, List.foldl_append]
    exact hstep _ _ ih

/-! ### Normal forms -/

namespace Path

/-- At the root there is nothing to climb to. -/
def normal (p : Path) : Path :=
  ⟨p.root,
    List.replicate (if p.root = .relative then (walk p.parts).up else 0) ".." ++
      (walk p.parts).down.reverse⟩

/-- At or below the directory, by the normal forms of the two. -/
structure Inside (p base : Path) : Prop where
  root : p.root = base.root
  below : base.normal.parts <+: p.normal.parts
  stays : ".." ∉ p.normal.parts.drop base.normal.parts.length

end Path

/-- Joined to the directory, the text leads to the directory or below it: as an absolute path by
its own root and names; else by no more steps up than there are names to leave, and back down the
names that it has left. -/
def StaysIn (base : Path) (s : String) : Prop :=
  if rootOf s = .relative then
    (base.root ≠ .relative ∨ (walk (components s)).up ≤ (walk base.parts).down.length) ∧
      ((walk base.parts).down.take (walk (components s)).up).reverse <+:
        (walk (components s)).down.reverse
  else
    rootOf s = base.root ∧ (walk base.parts).down.reverse <+: (walk (components s)).down.reverse

section Join

variable {base : Path} {s : String}

theorem not_mem_drop {w : Walk} (h : ".." ∉ w.down) (n : ℕ) : ".." ∉ w.down.reverse.drop n :=
  fun hmem => h (List.mem_reverse.mp (List.mem_of_mem_drop hmem))

theorem inside_join_absolute (h : rootOf s ≠ .relative) :
    (base.join s).Inside base ↔ rootOf s = base.root ∧
      (walk base.parts).down.reverse <+: (walk (components s)).down.reverse := by
  have hjoin : base.join s = ⟨rootOf s, components s⟩ := by rw [Path.join, if_neg h]
  rw [hjoin]
  refine ⟨fun hin => ?_, fun hafter => ?_⟩
  · have hroot : rootOf s = base.root := hin.root
    have hbelow := hin.below
    simp only [Path.normal, ← hroot, if_neg h, List.replicate_zero, List.nil_append] at hbelow
    exact ⟨hroot, hbelow⟩
  · obtain ⟨hroot, hprefix⟩ := hafter
    refine ⟨hroot, ?_, ?_⟩
    · simpa [Path.normal, ← hroot, h] using hprefix
    · simpa [Path.normal, ← hroot, h] using
        not_mem_drop (walk_names (components s)) (walk base.parts).down.length

theorem normal_join (base : Path) (h : rootOf s = .relative) :
    (base.join s).normal = ⟨base.root,
      List.replicate (if base.root = .relative
          then ((walk base.parts).append (walk (components s))).up else 0) ".." ++
        ((walk base.parts).append (walk (components s))).down.reverse⟩ := by
  rw [Path.join, if_pos h, Path.normal, walk_append]

theorem root_join (base : Path) (h : rootOf s = .relative) : (base.join s).root = base.root := by
  rw [Path.join, if_pos h]

theorem Walk.append_short {v w : Walk} (h : w.up ≤ v.down.length) :
    v.append w = ⟨v.up, w.down ++ v.down.drop w.up⟩ := if_pos h

theorem Walk.append_long {v w : Walk} (h : v.down.length < w.up) :
    v.append w = ⟨v.up + (w.up - v.down.length), w.down⟩ := if_neg (Nat.not_le.mpr h)

theorem inside_join_short (h : rootOf s = .relative)
    (hup : (walk (components s)).up ≤ (walk base.parts).down.length) :
    (base.join s).Inside base ↔ ((walk base.parts).down.take (walk (components s)).up).reverse <+:
      (walk (components s)).down.reverse := by
  have hparts := congrArg Path.parts (normal_join base h)
  rw [Walk.append_short hup] at hparts
  let ups := List.replicate (if base.root = .relative then (walk base.parts).up else 0) ".."
  let kept := ((walk base.parts).down.drop (walk (components s)).up).reverse
  have hpath : (base.join s).normal.parts =
      (ups ++ kept) ++ (walk (components s)).down.reverse := by
    rw [hparts, List.reverse_append, List.append_assoc]
  have hbase : base.normal.parts = (ups ++ kept) ++
      ((walk base.parts).down.take (walk (components s)).up).reverse := by
    rw [List.append_assoc, ← List.reverse_append, List.take_append_drop]
    rfl
  refine ⟨fun hin => ?_, fun hprefix => ⟨root_join base h, ?_, ?_⟩⟩
  · have hbelow := hin.below
    rw [hpath, hbase, List.prefix_append_right_inj] at hbelow
    exact hbelow
  · rw [hpath, hbase, List.prefix_append_right_inj]
    exact hprefix
  · rw [hpath, hbase, List.length_append, ← List.drop_drop, List.drop_left]
    exact not_mem_drop (walk_names (components s)) _

theorem inside_join_long (h : rootOf s = .relative)
    (hup : (walk base.parts).down.length < (walk (components s)).up) :
    (base.join s).Inside base ↔ base.root ≠ .relative ∧
      (walk base.parts).down.reverse <+: (walk (components s)).down.reverse := by
  have hparts := congrArg Path.parts (normal_join base h)
  rw [Walk.append_long hup] at hparts
  by_cases hroot : base.root = .relative
  · -- the path climbs above the directory, and no name leads back to where that is
    refine ⟨fun hin => ?_, fun hafter => absurd hroot hafter.1⟩
    obtain ⟨k, hk⟩ : ∃ k, (walk (components s)).up - (walk base.parts).down.length = k + 1 :=
      ⟨_, (Nat.succ_pred_eq_of_pos (Nat.sub_pos_of_lt hup)).symm⟩
    have hpath : (base.join s).normal.parts = List.replicate (walk base.parts).up ".." ++
        (List.replicate (k + 1) ".." ++ (walk (components s)).down.reverse) := by
      rw [hparts, if_pos hroot, hk]
      simp [List.replicate_add]
    have hbase : base.normal.parts =
        List.replicate (walk base.parts).up ".." ++ (walk base.parts).down.reverse := by
      simp [Path.normal, hroot]
    obtain ⟨-, hbelow, hstays⟩ := hin
    rw [hpath, hbase, List.prefix_append_right_inj] at hbelow
    rw [hpath, hbase, List.length_append, ← List.drop_drop, List.drop_left] at hstays
    cases hdown : (walk base.parts).down.reverse with
    | nil =>
      rw [hdown] at hstays
      exact absurd (by simp [List.replicate_succ]) hstays
    | cons x rest =>
      rw [hdown, List.replicate_succ, List.cons_append] at hbelow
      have hx : x = ".." := (List.cons_prefix_cons.mp hbelow).1
      have hmem : ".." ∈ (walk base.parts).down := by
        rw [← List.mem_reverse, hdown, hx]
        exact List.mem_cons_self
      exact absurd hmem (walk_names base.parts)
  · have hpath : (base.join s).normal.parts = (walk (components s)).down.reverse := by
      simpa [hroot] using hparts
    have hbase : base.normal.parts = (walk base.parts).down.reverse := by
      simp [Path.normal, hroot]
    refine ⟨fun hin => ⟨hroot, ?_⟩, fun hafter => ⟨root_join base h, ?_, ?_⟩⟩
    · have hbelow := hin.below
      rwa [hpath, hbase] at hbelow
    · rw [hpath, hbase]
      exact hafter.2
    · rw [hpath]
      exact not_mem_drop (walk_names (components s)) _

/-- A joined text stays inside the directory exactly where its own components keep it there. -/
theorem inside_join_iff (base : Path) (s : String) :
    (base.join s).Inside base ↔ StaysIn base s := by
  unfold StaysIn
  by_cases h : rootOf s = .relative
  · rw [if_pos h]
    by_cases hup : (walk (components s)).up ≤ (walk base.parts).down.length
    · rw [inside_join_short h hup]
      exact ⟨fun hin => ⟨Or.inr hup, hin⟩, fun hin => hin.2⟩
    · have htake : (walk base.parts).down.take (walk (components s)).up =
          (walk base.parts).down := List.take_of_length_le (Nat.le_of_not_le hup)
      rw [inside_join_long h (Nat.not_le.mp hup), htake]
      exact ⟨fun hin => ⟨Or.inl hin.1, hin.2⟩,
        fun hin => ⟨hin.1.resolve_right hup, hin.2⟩⟩
  · rw [if_neg h, inside_join_absolute h]

end Join

end AdaptiveAdvertisement.Library
