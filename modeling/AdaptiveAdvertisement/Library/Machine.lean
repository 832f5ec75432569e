import Mathlib.Data.List.Basic

/-!
# Deterministic machines driven by a list of inputs

A machine answers every input with a next state and an output. Whatever the
environment decides (clock readings, network outcomes, which party moves) is part
of the input, so a run is a list of inputs and "for every run" is "for every list".
`EachStep` states a law of every step of a run; the rules below derive such laws
from invariants.
-/

namespace AdaptiveAdvertisement.Library

structure Machine (σ ι ο : Type*) where
  init : σ
  step : σ → ι → σ × ο

namespace Machine

variable {σ ι ο : Type*} (M : Machine σ ι ο)

def next (s : σ) (i : ι) : σ := (M.step s i).1

def out (s : σ) (i : ι) : ο := (M.step s i).2

def run (s : σ) (is : List ι) : σ := is.foldl M.next s

/-- `P` holds of every step of the run: `P` sees the state before the step and its input. -/
def EachStep (P : σ → ι → Prop) : σ → List ι → Prop
  | _, [] => True
  | s, i :: is => P s i ∧ EachStep P (M.next s i) is

instance instDecidableEachStep (P : σ → ι → Prop) [∀ s i, Decidable (P s i)] :
    (s : σ) → (is : List ι) → Decidable (M.EachStep P s is)
  | _, [] => isTrue trivial
  | s, i :: is =>
    have := instDecidableEachStep P (M.next s i) is
    inferInstanceAs (Decidable (P s i ∧ M.EachStep P (M.next s i) is))

@[simp] theorem run_nil (s : σ) : M.run s [] = s := rfl

@[simp] theorem run_cons (s : σ) (i : ι) (is : List ι) :
    M.run s (i :: is) = M.run (M.next s i) is := rfl

theorem run_append (s : σ) (is js : List ι) :
    M.run s (is ++ js) = M.run (M.run s is) js := List.foldl_append

theorem run_snoc (s : σ) (is : List ι) (i : ι) :
    M.run s (is ++ [i]) = M.next (M.run s is) i := by
  rw [run_append]
  rfl

@[simp] theorem eachStep_nil (P : σ → ι → Prop) (s : σ) : M.EachStep P s [] := trivial

@[simp] theorem eachStep_cons (P : σ → ι → Prop) (s : σ) (i : ι) (is : List ι) :
    M.EachStep P s (i :: is) ↔ P s i ∧ M.EachStep P (M.next s i) is := Iff.rfl

theorem eachStep_congr {P Q : σ → ι → Prop} {is : List ι}
    (h : ∀ i ∈ is, ∀ s, P s i ↔ Q s i)
    (s : σ) : M.EachStep P s is ↔ M.EachStep Q s is := by
  induction is generalizing s with
  | nil => exact Iff.rfl
  | cons i is ih =>
    have hi := h i List.mem_cons_self s
    have hrest := ih (fun j hj => h j (List.mem_cons_of_mem i hj)) (M.next s i)
    exact and_congr hi hrest

theorem eachStep_mono {P Q : σ → ι → Prop} (h : ∀ s i, P s i → Q s i) {s : σ}
    {is : List ι} (hP : M.EachStep P s is) : M.EachStep Q s is := by
  induction is generalizing s with
  | nil => trivial
  | cons i is ih => exact ⟨h s i hP.1, ih hP.2⟩

theorem eachStep_and {P Q : σ → ι → Prop} {s : σ} {is : List ι} :
    M.EachStep (fun s i => P s i ∧ Q s i) s is ↔ M.EachStep P s is ∧ M.EachStep Q s is := by
  induction is generalizing s with
  | nil => simp
  | cons i is ih =>
    simp only [eachStep_cons, ih]
    tauto

/-- A law of the inputs alone holds of each of them. -/
theorem eachStep_input_iff {C : ι → Prop} {s : σ} {is : List ι} :
    M.EachStep (fun _ i => C i) s is ↔ ∀ i ∈ is, C i := by
  induction is generalizing s with
  | nil => simp
  | cons i is ih => rw [eachStep_cons, ih, List.forall_mem_cons]

theorem eachStep_append {P : σ → ι → Prop} {s : σ} {is js : List ι} :
    M.EachStep P s (is ++ js) ↔ M.EachStep P s is ∧ M.EachStep P (M.run s is) js := by
  induction is generalizing s with
  | nil => simp
  | cons i is ih => rw [List.cons_append, eachStep_cons, ih, eachStep_cons, run_cons, and_assoc]

/-- A law of every step, said of every place at which the run can be cut. -/
theorem eachStep_iff_cut {P : σ → ι → Prop} {s : σ} {is : List ι} :
    M.EachStep P s is ↔ ∀ pre i post, is = pre ++ i :: post → P (M.run s pre) i := by
  induction is generalizing s with
  | nil => simp
  | cons i is ih =>
    rw [eachStep_cons, ih]
    refine ⟨fun h pre j post hcut => ?_,
      fun h => ⟨h [] i is rfl, fun pre j post hcut => ?_⟩⟩
    · cases pre with
      | nil =>
        obtain ⟨rfl, -⟩ := List.cons.inj hcut
        exact h.1
      | cons k pre =>
        obtain ⟨rfl, hrest⟩ := List.cons.inj hcut
        exact h.2 pre j post hrest
    · exact h (i :: pre) j post (by rw [hcut, List.cons_append])

/-! ### Outputs of a run -/

def outputs : σ → List ι → List ο
  | _, [] => []
  | s, i :: is => M.out s i :: outputs (M.next s i) is

@[simp] theorem outputs_nil (s : σ) : M.outputs s [] = [] := rfl

@[simp] theorem outputs_cons (s : σ) (i : ι) (is : List ι) :
    M.outputs s (i :: is) = M.out s i :: M.outputs (M.next s i) is := rfl

theorem outputs_append (s : σ) (is js : List ι) :
    M.outputs s (is ++ js) = M.outputs s is ++ M.outputs (M.run s is) js := by
  induction is generalizing s with
  | nil => rfl
  | cons i is ih =>
    rw [List.cons_append, outputs_cons, ih, outputs_cons, run_cons, List.cons_append]

/-- An output of a run is that of one of its steps. -/
theorem mem_outputs_iff {o : ο} {s : σ} {is : List ι} : o ∈ M.outputs s is ↔
    ∃ pre i post, is = pre ++ i :: post ∧ M.out (M.run s pre) i = o := by
  induction is generalizing s with
  | nil => simp
  | cons i is ih =>
    rw [outputs_cons, List.mem_cons, ih]
    refine ⟨fun h => ?_, fun h => ?_⟩
    · rcases h with rfl | ⟨pre, j, post, rfl, hout⟩
      · exact ⟨[], i, is, rfl, rfl⟩
      · exact ⟨i :: pre, j, post, rfl, hout⟩
    · obtain ⟨pre, j, post, hcut, hout⟩ := h
      cases pre with
      | nil =>
        obtain ⟨rfl, -⟩ := List.cons.inj hcut
        exact Or.inl hout.symm
      | cons k pre =>
        obtain ⟨rfl, hrest⟩ := List.cons.inj hcut
        exact Or.inr ⟨pre, j, post, hrest, hout⟩

/-- What the steps of a run make of the states that they are taken in. -/
def collect {α : Type*} (f : σ → ι → Option α) : σ → List ι → List α
  | _, [] => []
  | s, i :: is => (f s i).toList ++ collect f (M.next s i) is

theorem collect_snoc {α : Type*} (f : σ → ι → Option α) (s : σ) (is : List ι) (i : ι) :
    M.collect f s (is ++ [i]) = M.collect f s is ++ (f (M.run s is) i).toList := by
  induction is generalizing s with
  | nil => exact List.append_nil _
  | cons j is ih => rw [List.cons_append, collect, ih, collect, run_cons, List.append_assoc]

/-- A law that relates the outputs so far to the state is kept over every run. -/
theorem outputs_inv {J : List ο → σ → Prop}
    (hstep : ∀ l s i, J l s → J (l ++ [M.out s i]) (M.next s i)) {l : List ο} {s : σ}
    (hs : J l s) (is : List ι) : J (l ++ M.outputs s is) (M.run s is) := by
  induction is generalizing l s with
  | nil =>
    rw [outputs_nil, List.append_nil]
    exact hs
  | cons i is ih =>
    rw [outputs_cons, List.append_cons]
    exact ih (hstep l s i hs)

theorem outputs_inv_under {C : σ → ι → Prop} {J : List ο → σ → Prop}
    (hstep : ∀ l s i, J l s → C s i → J (l ++ [M.out s i]) (M.next s i))
    {l : List ο} {s : σ} (hs : J l s) {is : List ι} (hC : M.EachStep C s is) :
    J (l ++ M.outputs s is) (M.run s is) := by
  induction is generalizing l s with
  | nil =>
    rw [outputs_nil, List.append_nil]
    exact hs
  | cons i is ih =>
    rw [outputs_cons, List.append_cons]
    exact ih (hstep l s i hs hC.1) hC.2

/-! ### Drawing new names -/

theorem known_run {ν : Type*} (draw : ι → Option ν) (known : σ → List ν)
    (hknown : ∀ s i, ∀ x ∈ known (M.next s i), draw i = some x ∨ x ∈ known s) (s : σ)
    (is : List ι) : ∀ x ∈ known (M.run s is), x ∈ is.filterMap draw ∨ x ∈ known s := by
  induction is generalizing s with
  | nil => exact fun x hx => Or.inr hx
  | cons i is ih =>
    intro x hx
    rcases ih (M.next s i) x hx with hlater | hnext
    · obtain ⟨j, hj, hdraw⟩ := List.mem_filterMap.mp hlater
      exact Or.inl (List.mem_filterMap.mpr ⟨j, List.mem_cons_of_mem i hj, hdraw⟩)
    · exact (hknown s i x hnext).imp_left fun hdraw =>
        List.mem_filterMap.mpr ⟨i, List.mem_cons_self, hdraw⟩

/-- A run whose inputs draw different names draws each one new, where a state knows no names
but those drawn before. -/
theorem eachStep_draws_new {ν : Type*} (draw : ι → Option ν) (known : σ → List ν)
    (hknown : ∀ s i, ∀ x ∈ known (M.next s i), draw i = some x ∨ x ∈ known s) {s : σ}
    {is : List ι}
    (hdistinct : (is.filterMap draw).Nodup) (hs : ∀ x ∈ is.filterMap draw, x ∉ known s) :
    M.EachStep (fun s i => ∀ x, draw i = some x → x ∉ known s) s is := by
  induction is generalizing s with
  | nil => trivial
  | cons i is ih =>
    cases hi : draw i with
    | none =>
      rw [List.filterMap_cons_none hi] at hdistinct hs
      refine ⟨fun x hx => by simp [hi] at hx, ih hdistinct fun x hx hmem => ?_⟩
      rcases hknown s i x hmem with hdrawn | hold
      · simp [hi] at hdrawn
      · exact hs x hx hold
    | some y =>
      rw [List.filterMap_cons_some hi] at hdistinct hs
      obtain ⟨hnot, hrest⟩ := List.nodup_cons.mp hdistinct
      refine ⟨fun x hx => ?_, ih hrest fun x hx hmem => ?_⟩
      · obtain rfl := Option.some.inj (hi.symm.trans hx)
        exact hs y List.mem_cons_self
      · rcases hknown s i x hmem with hdrawn | hold
        · obtain rfl := Option.some.inj (hi.symm.trans hdrawn)
          exact hnot hx
        · exact hs x (List.mem_cons_of_mem _ hx) hold

/-! ### Restricting the inputs -/

section Comap

variable {κ : Type*}

def comap (f : κ → ι) : Machine σ κ ο := ⟨M.init, fun s k => M.step s (f k)⟩

@[simp] theorem comap_init (f : κ → ι) : (M.comap f).init = M.init := rfl

@[simp] theorem comap_next (f : κ → ι) (s : σ) (k : κ) :
    (M.comap f).next s k = M.next s (f k) :=
  rfl

end Comap

/-! ### Invariant rules -/

section Invariants

variable {M} {I : σ → Prop} {C P : σ → ι → Prop}

theorem run_inv (hstep : ∀ s i, I s → I (M.next s i)) {s : σ} (hs : I s) (is : List ι) :
    I (M.run s is) := by
  induction is generalizing s with
  | nil => exact hs
  | cons i is ih => exact ih (hstep s i hs)

theorem run_inv_under (hstep : ∀ s i, I s → C s i → I (M.next s i)) {s : σ} (hs : I s)
    {is : List ι} (hC : M.EachStep C s is) : I (M.run s is) := by
  induction is generalizing s with
  | nil => exact hs
  | cons i is ih => exact ih (hstep s i hs hC.1) hC.2

theorem eachStep_of_inv (hstep : ∀ s i, I s → I (M.next s i))
    (hP : ∀ s i, I s → P s i) {s : σ} (hs : I s) (is : List ι) : M.EachStep P s is := by
  induction is generalizing s with
  | nil => trivial
  | cons i is ih => exact ⟨hP s i hs, ih (hstep s i hs)⟩

theorem eachStep_of_inv_under (hstep : ∀ s i, I s → C s i → I (M.next s i))
    (hP : ∀ s i, I s → C s i → P s i) {s : σ} (hs : I s) {is : List ι}
    (hC : M.EachStep C s is) : M.EachStep P s is := by
  induction is generalizing s with
  | nil => trivial
  | cons i is ih => exact ⟨hP s i hs hC.1, ih (hstep s i hs hC.1) hC.2⟩

theorem eachStep_iff_under {Q : σ → ι → Prop}
    (hstep : ∀ s i, I s → C s i → I (M.next s i))
    (hiff : ∀ s i, I s → C s i → (P s i ↔ Q s i)) {s : σ} (hs : I s) {is : List ι}
    (hC : M.EachStep C s is) : M.EachStep P s is ↔ M.EachStep Q s is := by
  induction is generalizing s with
  | nil => exact Iff.rfl
  | cons i is ih => exact and_congr (hiff s i hs hC.1) (ih (hstep s i hs hC.1) hC.2)

theorem eachStep_iff {Q : σ → ι → Prop} (hstep : ∀ s i, I s → I (M.next s i))
    (hiff : ∀ s i, I s → (P s i ↔ Q s i)) {s : σ} (hs : I s) (is : List ι) :
    M.EachStep P s is ↔ M.EachStep Q s is := by
  induction is generalizing s with
  | nil => exact Iff.rfl
  | cons i is ih => exact and_congr (hiff s i hs) (ih (hstep s i hs))

/-- Where `P` and `C` agree on the states of an invariant that `C` preserves, a run of steps that
meet `H` meets one at every step exactly when it meets the other at every step. -/
theorem eachStep_iff_of_inv_under {H : σ → ι → Prop}
    (hstep : ∀ s i, I s → H s i → C s i → I (M.next s i))
    (hiff : ∀ s i, I s → H s i → (P s i ↔ C s i)) {s : σ} (hs : I s) {is : List ι}
    (hH : M.EachStep H s is) : M.EachStep P s is ↔ M.EachStep C s is := by
  induction is generalizing s with
  | nil => exact Iff.rfl
  | cons i is ih =>
    refine ⟨fun h => ?_, fun h => ?_⟩
    · have hc := (hiff s i hs hH.1).mp h.1
      have hrest := (ih (hstep s i hs hH.1 hc) hH.2).mp h.2
      exact ⟨hc, hrest⟩
    · have hrest := (ih (hstep s i hs hH.1 h.1) hH.2).mpr h.2
      exact ⟨(hiff s i hs hH.1).mpr h.1, hrest⟩

theorem eachStep_iff_of_inv (hstep : ∀ s i, I s → C s i → I (M.next s i))
    (hiff : ∀ s i, I s → (P s i ↔ C s i)) {s : σ} (hs : I s) (is : List ι) :
    M.EachStep P s is ↔ M.EachStep C s is := by
  have hall : M.EachStep (fun _ _ => True) s is :=
    eachStep_of_inv (I := fun _ => True) (fun _ _ _ => trivial) (fun _ _ _ => trivial) trivial is
  exact eachStep_iff_of_inv_under (fun s i h _ hc => hstep s i h hc) (fun s i h _ => hiff s i h) hs
    hall

end Invariants

/-! ### Two runs side by side -/

section Related

variable {M} {σ' ι' ο' : Type*} {N : Machine σ' ι' ο'} {R : σ → σ' → Prop}
  {A : ι → ι' → Prop}
  {O : ο → ο' → Prop} {C : σ → ι → Prop} {D : σ' → ι' → Prop}

/-- Two machines whose steps keep a relation, under conditions on the steps of either. -/
theorem related_run
    (hstep : ∀ s s' i i', R s s' → A i i' → C s i → D s' i' →
      R (M.next s i) (N.next s' i') ∧ O (M.out s i) (N.out s' i'))
    {s : σ} {s' : σ'} (hs : R s s') {is : List ι} {is' : List ι'}
    (his : List.Forall₂ A is is') (hC : M.EachStep C s is) (hD : N.EachStep D s' is') :
    R (M.run s is) (N.run s' is') ∧ List.Forall₂ O (M.outputs s is) (N.outputs s' is') := by
  induction his generalizing s s' with
  | nil => exact ⟨hs, List.Forall₂.nil⟩
  | cons hi _ ih =>
    obtain ⟨hnext, hout⟩ := hstep s s' _ _ hs hi hC.1 hD.1
    obtain ⟨hrun, houts⟩ := ih hnext hC.2 hD.2
    exact ⟨hrun, List.Forall₂.cons hout houts⟩

/-- Where each step of a machine is a few of another, or none, and each of these is of a kind `P`,
so is a run; what is seen of the outputs is the same. -/
theorem simulated_run {ε : Type*} {P : ι' → Prop} {f : ο → Option ε} {g : ο' → Option ε}
    (hstep : ∀ s s' i, R s s' → ∃ js, (∀ j ∈ js, P j) ∧ R (M.next s i) (N.run s' js) ∧
      (f (M.out s i)).toList = (N.outputs s' js).filterMap g)
    {s : σ} {t : σ'} (hs : R s t) (is : List ι) :
    ∃ js, (∀ j ∈ js, P j) ∧ R (M.run s is) (N.run t js) ∧
      (M.outputs s is).filterMap f = (N.outputs t js).filterMap g := by
  induction is generalizing s t with
  | nil => exact ⟨[], fun _ h => absurd h List.not_mem_nil, hs, rfl⟩
  | cons i is ih =>
    obtain ⟨js, hkind, hnext, hseen⟩ := hstep s t i hs
    obtain ⟨js', hkind', hrun, hseen'⟩ := ih hnext
    refine ⟨js ++ js', fun j hj => ?_, ?_, ?_⟩
    · exact (List.mem_append.mp hj).elim (hkind j) (hkind' j)
    · rw [run_append]
      exact hrun
    · have hcons : (M.outputs s (i :: is)).filterMap f =
          (f (M.out s i)).toList ++ (M.outputs (M.next s i) is).filterMap f := by
        rw [outputs_cons, List.filterMap_cons]
        cases f (M.out s i) <;> rfl
      rw [hcons, outputs_append, List.filterMap_append, hseen, hseen']

end Related

end Machine

end AdaptiveAdvertisement.Library
