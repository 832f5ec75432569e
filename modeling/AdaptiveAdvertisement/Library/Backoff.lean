import AdaptiveAdvertisement.Library.Machine
import Mathlib.Algebra.BigOperators.Group.List.Basic
import Mathlib.Algebra.Order.Field.Rat
import Mathlib.Tactic.Linarith

/-!
# Loops that wait longer after every failure

Waits that double up to a bound, and the loop that tries again after them. A try takes some time
and either gets hold of what it tries for, and loses it later, or does not. Some errors end the
loop; a hold that is given up in good order is followed by the next try at once.
-/

namespace AdaptiveAdvertisement.Library

structure Backoff where
  initial : ℚ
  max : ℚ

namespace Backoff

variable (b : Backoff)

/-- The wait after `n` earlier failures. -/
def wait (n : ℕ) : ℚ := min (b.initial * 2 ^ n) b.max

def grow (d : ℚ) : ℚ := min (d * 2) b.max

structure Proper : Prop where
  nonneg : 0 ≤ b.initial
  bounded : b.initial ≤ b.max

variable {b}

theorem wait_le_max (n : ℕ) : b.wait n ≤ b.max := min_le_right _ _

theorem wait_zero (h : b.Proper) : b.wait 0 = b.initial := by
  simp [wait, h.bounded]

theorem grow_wait (h : b.Proper) (n : ℕ) : b.grow (b.wait n) = b.wait (n + 1) := by
  have hmax : b.max ≤ b.max * 2 := by linarith [h.nonneg.trans h.bounded]
  calc b.grow (b.wait n)
      = min (min (b.initial * 2 ^ n * 2) (b.max * 2)) b.max := by
        rw [grow, wait, min_mul_of_nonneg _ _ (by norm_num)]
    _ = min (b.initial * 2 ^ n * 2) (min (b.max * 2) b.max) := min_assoc _ _ _
    _ = b.wait (n + 1) := by rw [min_eq_right hmax, wait, pow_succ, mul_assoc]

theorem grow_le_double (d : ℚ) : b.grow d ≤ d + d := by
  have h := min_le_left (d * 2) b.max
  rw [grow]
  linarith

end Backoff

/-! ### The loop -/

/-- A try: whether it got hold, how it ended, and how long it took in all. -/
structure Try (ε : Type*) where
  held : Bool
  failure : Option ε
  took : ℚ

/-- A try as an observer sees it; `waited` is there where the loop waits before the next. -/
structure Tried where
  begun : ℚ
  held : Bool
  ended : ℚ
  waited : Option ℚ

/-- `backoff` is the wait after the next failure. -/
structure Retry where
  backoff : ℚ
  clock : ℚ
  running : Bool := true

namespace Retry

variable {ε : Type*} (b : Backoff) (catches : ε → Bool)

def start (clock : ℚ) : Retry := ⟨b.initial, clock, true⟩

/-- The wait that stands when a try ends: a hold sets it back. -/
def pending (r : Retry) (t : Try ε) : ℚ := if t.held then b.initial else r.backoff

def step (r : Retry) (t : Try ε) : Retry × Option Tried :=
  if r.running then
    let wait := r.pending b t
    let ended := r.clock + t.took
    match t.failure with
    | none => (⟨wait, ended, true⟩, some ⟨r.clock, t.held, ended, none⟩)
    | some e =>
      if catches e then
        (⟨b.grow wait, ended + wait, true⟩, some ⟨r.clock, t.held, ended, some wait⟩)
      else (⟨wait, ended, false⟩, some ⟨r.clock, t.held, ended, none⟩)
  else (r, none)

end Retry

def retrying {ε : Type*} (b : Backoff) (catches : ε → Bool) (clock : ℚ) :
    Machine Retry (Try ε) (Option Tried) :=
  ⟨Retry.start b clock, Retry.step b catches⟩

/-! ### What its log tells -/

/-- When the try after these begins. -/
def resumesAt (clock : ℚ) (log : List Tried) : ℚ :=
  (log.getLast?.map fun t => t.ended + t.waited.getD 0).getD clock

/-- Since when nothing is held: the end of the last hold, or the start of the loop. -/
def downSince (clock : ℚ) (log : List Tried) : ℚ :=
  ((log.filter Tried.held).getLast?.map Tried.ended).getD clock

/-- How many tries have failed since the last hold; what ended a hold counts as the first. -/
def failures (log : List Tried) : ℕ :=
  log.foldl (fun n t => (if t.held then 0 else n) + if t.waited.isSome then 1 else 0) 0

/-- Each try begins where the last wait ends, the waits double up to the bound from the first one
after every hold, and none is longer than the first wait and the time without a hold. -/
structure Paced (b : Backoff) (clock : ℚ) (log : List Tried) : Prop where
  begun : ∀ pre t post, log = pre ++ t :: post → t.begun = resumesAt clock pre
  waited : ∀ pre t post, log = pre ++ t :: post → ∀ w ∈ t.waited,
    w = b.wait (if t.held then 0 else failures pre)
  short : ∀ pre t post, log = pre ++ t :: post → ∀ w ∈ t.waited,
    w ≤ b.initial + (t.ended - downSince clock (pre ++ [t]))

section Log

variable {b : Backoff} {clock : ℚ} {log : List Tried} {t : Tried}

theorem resumesAt_snoc : resumesAt clock (log ++ [t]) = t.ended + t.waited.getD 0 := by
  simp [resumesAt]

theorem downSince_snoc : downSince clock (log ++ [t]) =
    if t.held then t.ended else downSince clock log := by
  cases hheld : t.held <;> simp [downSince, List.filter_append, hheld]

theorem failures_snoc : failures (log ++ [t]) =
    (if t.held then 0 else failures log) + if t.waited.isSome then 1 else 0 := by
  simp [failures, List.foldl_append]

/-- A law of every place of a list, kept when the list grows at its end. -/
theorem cut_snoc {α : Type*} {P : List α → α → Prop} {l : List α} {a : α}
    (h : ∀ pre x post, l = pre ++ x :: post → P pre x) (ha : P l a) :
    ∀ pre x post, l ++ [a] = pre ++ x :: post → P pre x := by
  intro pre x post hcut
  rcases List.eq_nil_or_concat post with rfl | ⟨post, y, rfl⟩
  · obtain ⟨rfl, hlast⟩ := List.append_inj' hcut rfl
    obtain rfl := List.singleton_inj.mp hlast
    exact ha
  · have hcut' : l ++ [a] = (pre ++ x :: post) ++ [y] := by simpa using hcut
    exact h pre x post (List.append_inj' hcut' rfl).1

theorem paced_nil : Paced b clock [] where
  begun := fun pre t post h => by simp at h
  waited := fun pre t post h => by simp at h
  short := fun pre t post h => by simp at h

theorem Paced.snoc (h : Paced b clock log) (hbegun : t.begun = resumesAt clock log)
    (hwaited : ∀ w ∈ t.waited, w = b.wait (if t.held then 0 else failures log))
    (hshort : ∀ w ∈ t.waited, w ≤ b.initial + (t.ended - downSince clock (log ++ [t]))) :
    Paced b clock (log ++ [t]) where
  begun := cut_snoc h.begun hbegun
  waited := cut_snoc h.waited hwaited
  short := cut_snoc h.short hshort

end Log

/-! ### The loop keeps the pace -/

structure RetryInv (b : Backoff) (clock : ℚ) (log : List Tried) (r : Retry) : Prop where
  paced : Paced b clock log
  backoff : r.backoff = b.wait (failures log)
  resumes : r.clock = resumesAt clock log
  down : r.backoff ≤ b.initial + (r.clock - downSince clock log)

section Loop

variable {ε : Type*} {b : Backoff} {catches : ε → Bool} {clock : ℚ} {log : List Tried}
  {r : Retry} {t : Try ε}

theorem RetryInv.pending_eq (hb : b.Proper) (h : RetryInv b clock log r) (t : Try ε) :
    r.pending b t = b.wait (if t.held then 0 else failures log) := by
  cases hheld : t.held with
  | true => simp [Retry.pending, hheld, Backoff.wait_zero hb]
  | false => simp [Retry.pending, hheld, h.backoff]

/-- The time without a hold covers the wait that stands, but for the first wait. -/
theorem RetryInv.pending_le (h : RetryInv b clock log r) (tried : Tried)
    (htook : 0 ≤ t.took) (hheld : tried.held = t.held) (hended : tried.ended = r.clock + t.took) :
    r.pending b t ≤ b.initial + (tried.ended - downSince clock (log ++ [tried])) := by
  rw [downSince_snoc, hheld]
  cases h' : t.held with
  | true => simp [Retry.pending, h']
  | false =>
    have hdown := h.down
    simp only [Retry.pending, h', Bool.false_eq_true, if_false, hended]
    linarith

theorem retryInv_start (hb : b.Proper) : RetryInv b clock [] (Retry.start b clock) where
  paced := paced_nil
  backoff := (Backoff.wait_zero hb).symm
  resumes := rfl
  down := by simp [Retry.start, downSince]

/-- What a try leaves, whatever ended it. -/
theorem RetryInv.snoc (hb : b.Proper) (h : RetryInv b clock log r) (htook : 0 ≤ t.took)
    {waited : Option ℚ} {r' : Retry} (hwaited : ∀ w ∈ waited, w = r.pending b t)
    (hbackoff : r'.backoff = if waited.isSome then b.grow (r.pending b t) else r.pending b t)
    (hclock : r'.clock = r.clock + t.took + waited.getD 0) :
    RetryInv b clock (log ++ [⟨r.clock, t.held, r.clock + t.took, waited⟩]) r' := by
  have hpending := h.pending_eq hb t
  have hle := h.pending_le ⟨r.clock, t.held, r.clock + t.took, waited⟩ htook rfl rfl
  refine ⟨h.paced.snoc h.resumes (fun w hw => ?_) (fun w hw => ?_), ?_, ?_, ?_⟩
  · rw [hwaited w hw, hpending]
  · rw [hwaited w hw]
    exact hle
  · rw [hbackoff, failures_snoc, hpending]
    cases waited with
    | none => simp
    | some w => simp [Backoff.grow_wait hb]
  · rw [hclock, resumesAt_snoc]
  · rw [hbackoff, hclock]
    cases waited with
    | none => simpa using hle
    | some w =>
      -- the wait doubles at most, and the wait before it has passed
      have hgrow := Backoff.grow_le_double (b := b) (r.pending b t)
      have hw : w = r.pending b t := hwaited w rfl
      simp only [Option.isSome_some, if_true, Option.getD_some] at hle ⊢
      linarith

theorem RetryInv.step (hb : b.Proper) (h : RetryInv b clock log r) (htook : 0 ≤ t.took) :
    RetryInv b clock (log ++ (r.step b catches t).2.toList) (r.step b catches t).1 := by
  unfold Retry.step
  split_ifs with hrunning
  · cases hfailure : t.failure with
    | none => exact h.snoc hb htook (fun w hw => nomatch hw) rfl (add_zero _).symm
    | some e =>
      dsimp only
      split_ifs with hcatches
      · exact h.snoc hb htook (fun w hw => (Option.some.inj hw).symm) rfl rfl
      · exact h.snoc hb htook (fun w hw => nomatch hw) rfl (add_zero _).symm
  · rw [Option.toList_none, List.append_nil]
    exact h

end Loop

/-! ### Whole runs -/

section Runs

variable {ε : Type*} (b : Backoff) (catches : ε → Bool) (clock : ℚ)

def triedIn (tries : List (Try ε)) : List Tried :=
  ((retrying b catches clock).outputs (Retry.start b clock) tries).flatMap Option.toList

variable {b}

theorem retrying_inv (hb : b.Proper) {tries : List (Try ε)}
    (htook : ∀ t ∈ tries, 0 ≤ t.took) : RetryInv b clock (triedIn b catches clock tries)
      ((retrying b catches clock).run (Retry.start b clock) tries) := by
  have hC : (retrying b catches clock).EachStep (fun _ t => 0 ≤ t.took) (Retry.start b clock)
      tries := Machine.eachStep_input_iff _ |>.mpr htook
  have hrun := Machine.outputs_inv_under (l := []) (M := retrying b catches clock)
    (J := fun outs r => RetryInv b clock (outs.flatMap Option.toList) r)
    (fun outs r t h htook => ?_) (retryInv_start hb) hC
  · rw [List.nil_append] at hrun
    exact hrun
  · rw [List.flatMap_append, List.flatMap_singleton]
    exact h.step hb htook

theorem retrying_stopped (r : Retry) (hr : r.running = false) (tries : List (Try ε)) :
    (retrying b catches clock).run r tries = r := by
  induction tries with
  | nil => rfl
  | cons t tries ih =>
    have hnext : (retrying b catches clock).next r t = r := by
      simp [Machine.next, retrying, Retry.step, hr]
    rw [Machine.run_cons, hnext, ih]

/-- The loop goes on exactly as long as it catches every failure. -/
theorem retrying_running_iff (r : Retry) (hr : r.running = true) (tries : List (Try ε)) :
    ((retrying b catches clock).run r tries).running = true ↔
      ∀ t ∈ tries, ∀ e ∈ t.failure, catches e = true := by
  induction tries generalizing r with
  | nil => simpa using hr
  | cons t tries ih =>
    have hnext : (retrying b catches clock).next r t = (r.step b catches t).1 := rfl
    rw [Machine.run_cons, hnext, List.forall_mem_cons]
    cases hfailure : t.failure with
    | none =>
      rw [ih _ (by simp [Retry.step, hr, hfailure])]
      simp
    | some e =>
      cases hcatches : catches e with
      | true =>
        rw [ih _ (by simp [Retry.step, hr, hfailure, hcatches])]
        simp [hcatches]
      | false =>
        have hstopped : (r.step b catches t).1.running = false := by
          simp [Retry.step, hr, hfailure, hcatches]
        simp [hcatches, retrying_stopped catches clock _ hstopped, hstopped]

/-- What the log tells of a try: it waits after a failure that is caught, and only then. -/
structure Logs (catches : ε → Bool) (t : Try ε) (tried : Tried) : Prop where
  held : tried.held = t.held
  took : tried.ended = tried.begun + t.took
  waited : tried.waited.isSome = t.failure.any catches

theorem step_stopped {r : Retry} (hr : r.running = false) (t : Try ε) :
    r.step b catches t = (r, none) := by
  simp [Retry.step, hr]

theorem step_logs {r : Retry} (hr : r.running = true) (t : Try ε) :
    ∃ tried, (r.step b catches t).2 = some tried ∧ Logs catches t tried := by
  unfold Retry.step
  rw [if_pos hr]
  cases hfailure : t.failure with
  | none => exact ⟨_, rfl, rfl, rfl, by simp [hfailure]⟩
  | some e =>
    dsimp only
    split_ifs with hcatches
    · exact ⟨_, rfl, rfl, rfl, by simp [hfailure, hcatches]⟩
    · exact ⟨_, rfl, rfl, rfl, by simp [hfailure, hcatches]⟩

theorem outputs_stopped {r : Retry} (hr : r.running = false) (tries : List (Try ε)) :
    ((retrying b catches clock).outputs r tries).flatMap Option.toList = [] := by
  induction tries with
  | nil => rfl
  | cons t tries ih =>
    have hstep : r.step b catches t = (r, none) := step_stopped catches hr t
    have hout : (retrying b catches clock).out r t = none := congrArg Prod.snd hstep
    have hnext : (retrying b catches clock).next r t = r := congrArg Prod.fst hstep
    rw [Machine.outputs_cons, hout, hnext, List.flatMap_cons, ih]
    rfl

/-- The log is of the tries from the first on, and of all of them as long as the loop runs. -/
theorem outputs_logs {r : Retry} (hr : r.running = true) (tries : List (Try ε)) :
    let log := ((retrying b catches clock).outputs r tries).flatMap Option.toList
    List.Forall₂ (Logs catches) (tries.take log.length) log ∧
      (((retrying b catches clock).run r tries).running = true → log.length = tries.length) := by
  induction tries generalizing r with
  | nil => exact ⟨List.Forall₂.nil, fun _ => rfl⟩
  | cons t tries ih =>
    obtain ⟨tried, hout, hlogs⟩ := step_logs catches hr t
    have hout : (retrying b catches clock).out r t = some tried := hout
    simp only [Machine.outputs_cons, Machine.run_cons, hout, List.flatMap_cons, Option.toList_some,
      List.singleton_append, List.length_cons, List.take_succ_cons, List.forall₂_cons]
    cases hnext : ((retrying b catches clock).next r t).running with
    | true =>
      obtain ⟨hrest, hall⟩ := ih hnext
      exact ⟨⟨hlogs, hrest⟩, fun h => congrArg Nat.succ (hall h)⟩
    | false =>
      rw [outputs_stopped catches clock hnext, retrying_stopped catches clock _ hnext, hnext]
      exact ⟨⟨hlogs, List.Forall₂.nil⟩, fun h => nomatch h⟩

/-- What is tried for can be had from `back` on: a try that begins then gets hold. -/
def HeldFrom (back : ℚ) (log : List Tried) : Prop :=
  ∀ t ∈ log, back ≤ t.begun → t.held = true

/-- The next try after a failed one comes soon after what is tried for is back: later by the try
under way, and by a wait of at most the bound and at most the first wait and the time without. -/
theorem Paced.recovers {log pre post : List Tried} {t next : Tried} {back w : ℚ}
    (h : Paced b clock log) (hback : HeldFrom back log) (hcut : log = pre ++ t :: next :: post)
    (hheld : t.held = false) (hwaited : t.waited = some w) :
    next.begun ≤ back + (t.ended - t.begun) +
      min b.max (b.initial + (t.ended - downSince clock pre)) := by
  have hearly : t.begun < back := by
    by_contra hlate
    have hhold := hback t (by simp [hcut]) (not_lt.mp hlate)
    rw [hheld] at hhold
    cases hhold
  have hbegun : next.begun = t.ended + w := by
    rw [h.begun (pre ++ [t]) next post (by simp [hcut]), resumesAt_snoc, hwaited]
    rfl
  have hmax : w ≤ b.max := by
    rw [h.waited pre t (next :: post) hcut w hwaited]
    exact Backoff.wait_le_max _
  have hshort := h.short pre t (next :: post) hcut w hwaited
  rw [downSince_snoc, hheld] at hshort
  have hwait : w ≤ min b.max (b.initial + (t.ended - downSince clock pre)) := le_min hmax hshort
  linarith

end Runs

end AdaptiveAdvertisement.Library
