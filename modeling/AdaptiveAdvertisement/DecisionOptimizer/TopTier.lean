import AdaptiveAdvertisement.DecisionOptimizer.Policy
import Mathlib.Algebra.Order.BigOperators.Group.List

/-!
# The matching rules of the top priority

Where every bound compares as a number, matching does not raise. Where every weight is a positive
number too, an evaluation chooses among the matching rules that no matching rule outranks.
-/

namespace AdaptiveAdvertisement.DecisionOptimizer
open Library Contracts

/-! ### Matching without raising -/

namespace Rule

def Comparable (r : Rule) : Prop :=
  ∀ key v, r.condition key = some v → ∃ x : Number, v.asNumeric? = some x

def matched (r : Rule) (s : Signal) (hour : ℕ) : Bool :=
  match r.matchesSignal s hour with
  | .ok b => b
  | .error _ => false

theorem matched_iff (r : Rule) (s : Signal) (hour : ℕ) :
    r.matched s hour = true ↔ r.matchesSignal s hour = .ok true := by
  unfold matched
  cases h : r.matchesSignal s hour <;> simp

/-- The keys whose values are compared by an order. -/
def boundKeys : List String :=
  ["presence_count_gte", "presence_count_lte", "presence_confidence_gte", "attention_engaged_gte",
    "time_hour_gte", "time_hour_lte"] ++ demographicConditionFields.map DemographicField.key

def NumericBounds (r : Rule) : Prop :=
  ∀ key ∈ boundKeys, ∀ v, r.condition key = some v → ∃ x : Number, v.asNumeric? = some x

theorem Comparable.numericBounds {r : Rule} (h : r.Comparable) : r.NumericBounds :=
  fun key _ v hv => h key v hv

section NumericBounds

variable {r : Rule} (h : r.NumericBounds) (x : Number) {key : String} (hkey : key ∈ boundKeys)
include h hkey

theorem NumericBounds.atLeast_ok : ∃ b, atLeast x (r.condition key) = .ok b := by
  cases hc : r.condition key with
  | none => exact ⟨true, rfl⟩
  | some v =>
    obtain ⟨y, hy⟩ := h key hkey v hc
    exact ⟨!x.lt y, by simp [atLeast, Number.less, hy, Except.map]⟩

theorem NumericBounds.atMost_ok : ∃ b, atMost x (r.condition key) = .ok b := by
  cases hc : r.condition key with
  | none => exact ⟨true, rfl⟩
  | some v =>
    obtain ⟨y, hy⟩ := h key hkey v hc
    exact ⟨!y.lt x, by simp [atMost, Number.greater, hy, Except.map]⟩

end NumericBounds

theorem demographicKey_mem {f : DemographicField} (hf : f ∈ demographicConditionFields) :
    f.key ∈ boundKeys := List.mem_append_right _ (List.mem_map_of_mem hf)

theorem equalTo_ok (x : Number) (v : Option Json) : ∃ b, equalTo x v = .ok b := by
  cases v with
  | none => exact ⟨true, rfl⟩
  | some v => exact ⟨_, rfl⟩

end Rule

theorem checkAll_ok {checks : List (Except Raised Bool)} (h : ∀ c ∈ checks, ∃ b, c = .ok b) :
    ∃ b, checkAll checks = .ok b := by
  induction checks with
  | nil => exact ⟨true, rfl⟩
  | cons c checks ih =>
    obtain ⟨b, rfl⟩ := h c List.mem_cons_self
    cases b with
    | false => exact ⟨false, rfl⟩
    | true => exact ih fun d hd => h d (List.mem_cons_of_mem _ hd)

theorem Rule.NumericBounds.matchesSignal_ok {r : Rule} (h : r.NumericBounds) (s : Signal)
    (hour : ℕ) : r.matchesSignal s hour = .ok (r.matched s hour) := by
  have hall : ∀ c ∈ r.presenceChecks s ++ [r.attentionCheck s, r.suppressedCheck s] ++
      r.demographicChecks s ++ r.timeChecks hour, ∃ b, c = .ok b := by
    intro c hc
    simp only [List.mem_append, List.mem_cons, List.not_mem_nil, or_false, presenceChecks,
      timeChecks] at hc
    rcases hc with (((rfl | rfl | rfl | rfl) | rfl | rfl) | hc) | rfl | rfl
    · exact h.atLeast_ok _ (by simp [boundKeys])
    · exact h.atMost_ok _ (by simp [boundKeys])
    · exact equalTo_ok _ _
    · exact h.atLeast_ok _ (by simp [boundKeys])
    · unfold attentionCheck
      cases s.attention.bind fun a => bin a "engaged" with
      | none => exact ⟨true, rfl⟩
      | some engaged => exact h.atLeast_ok _ (by simp [boundKeys])
    · exact equalTo_ok _ _
    · unfold demographicChecks at hc
      split_ifs at hc
      · rw [List.mem_singleton.mp hc]
        exact ⟨false, rfl⟩
      · obtain ⟨f, hf, rfl⟩ := List.mem_map.mp hc
        exact h.atLeast_ok _ (demographicKey_mem hf)
      · simp at hc
    · exact h.atLeast_ok _ (by simp [boundKeys])
    · exact h.atMost_ok _ (by simp [boundKeys])
  obtain ⟨b, hb⟩ := checkAll_ok hall
  rw [matched, matchesSignal, hb]

theorem matchingRules_eq {rules : List Rule} (h : ∀ r ∈ rules, r.NumericBounds) (s : Signal)
    (hour : ℕ) : matchingRules s hour rules = .ok (rules.filter fun r => r.matched s hour) := by
  induction rules with
  | nil => rfl
  | cons r rules ih =>
    have hr := (h r List.mem_cons_self).matchesSignal_ok s hour
    have hrest := ih fun r' hr' => h r' (List.mem_cons_of_mem _ hr')
    rw [matchingRules, hr, hrest]
    cases hm : r.matched s hour <;> simp [hm, bind, Except.bind, pure, Except.pure]

/-- A rule with no condition matches. -/
theorem Rule.matched_of_no_conditions {r : Rule} (h : r.conditions = []) (s : Signal) (hour : ℕ) :
    r.matched s hour = true := by
  have hnone : ∀ key, r.condition key = none := by
    intro key
    rw [condition, h]
    rfl
  have hdemographic : r.hasDemographicCondition = false := by
    simp [hasDemographicCondition, hnone]
  rw [matched_iff, matchesSignal, checkAll_true_iff]
  intro c hc
  simp only [demographicChecks, hdemographic, Bool.false_eq_true, if_false, presenceChecks,
    timeChecks, List.mem_append, List.mem_cons, List.not_mem_nil, or_false, suppressedCheck,
    attentionCheck, hnone] at hc
  rcases hc with ((rfl | rfl | rfl | rfl) | rfl | rfl) | rfl | rfl
  all_goals try rfl
  cases s.attention.bind fun a => bin a "engaged" <;> rfl

/-! ### The tier -/

namespace PolicyConfig

variable (c : PolicyConfig) (s : Signal) (hour : ℕ)

/-- A matching rule that no matching rule outranks. -/
def IsTop (r : Rule) : Prop :=
  (r ∈ c.rules ∧ r.matched s hour = true) ∧
    ∀ r' ∈ c.rules, r'.matched s hour = true → r'.priority ≤ r.priority

def sortedMatches : List Rule := c.sortedRules.filter fun r => r.matched s hour

def topTier : List Rule :=
  (c.sortedMatches s hour).filter fun r =>
    (c.sortedMatches s hour).head?.elim false fun top => decide (r.priority = top.priority)

theorem mem_sortedMatches (r : Rule) :
    r ∈ c.sortedMatches s hour ↔ r ∈ c.rules ∧ r.matched s hour = true := by
  rw [sortedMatches, List.mem_filter, sortedRules, List.mem_insertionSort]

theorem sortedMatches_pairwise :
    (c.sortedMatches s hour).Pairwise fun a b => b.priority ≤ a.priority := by
  have hsorted : c.sortedRules.Pairwise fun a b => b.priority ≤ a.priority :=
    List.pairwise_insertionSort _ _
  exact hsorted.sublist List.filter_sublist

theorem mem_topTier (r : Rule) : r ∈ c.topTier s hour ↔ c.IsTop s hour r := by
  have hsorted := c.sortedMatches_pairwise s hour
  unfold topTier
  rw [List.mem_filter, mem_sortedMatches]
  refine and_congr_right fun hr => ?_
  have hmem := (c.mem_sortedMatches s hour r).mpr hr
  cases hl : c.sortedMatches s hour with
  | nil => simp [hl] at hmem
  | cons top rest =>
    rw [hl] at hsorted hmem
    have hbelow : ∀ r' ∈ top :: rest, r'.priority ≤ top.priority := by
      intro r' hr'
      rcases List.mem_cons.mp hr' with rfl | hr'
      · exact le_rfl
      · exact (List.pairwise_cons.mp hsorted).1 r' hr'
    rw [List.head?_cons, Option.elim_some, decide_eq_true_iff]
    refine ⟨fun h r' hr' hm => ?_, fun h => ?_⟩
    · rw [h]
      refine hbelow r' ?_
      rw [← hl, mem_sortedMatches]
      exact ⟨hr', hm⟩
    · have htop : top ∈ c.rules ∧ top.matched s hour = true := by
        rw [← mem_sortedMatches, hl]
        exact List.mem_cons_self
      exact le_antisymm (hbelow r hmem) (h top htop.1 htop.2)

/-! ### Evaluating -/

section Evaluating

variable {c}

theorem topTier_ne_nil {r : Rule} (hr : r ∈ c.rules) (hm : r.matched s hour = true) :
    c.topTier s hour ≠ [] := by
  have hmem := (c.mem_sortedMatches s hour r).mpr ⟨hr, hm⟩
  unfold topTier
  cases hl : c.sortedMatches s hour with
  | nil => simp [hl] at hmem
  | cons top rest =>
    refine List.ne_nil_of_mem (a := top) ?_
    simp

/-- What is selected: the only rule of the tier, or a weighted choice among several. -/
theorem select_sortedMatches (fl : Number → Number) (draw : ℚ) (hne : c.topTier s hour ≠ []) :
    (∃ r, c.topTier s hour = [r] ∧
      select fl draw (c.sortedMatches s hour) = .ok (some r.manifestId)) ∨
    (2 ≤ (c.topTier s hour).length ∧ select fl draw (c.sortedMatches s hour) =
      (choices fl (c.topTier s hour) ((c.topTier s hour).map Rule.weight) draw).map
        fun r => some r.manifestId) := by
  unfold topTier at hne ⊢
  cases hl : c.sortedMatches s hour with
  | nil => simp [hl] at hne
  | cons top rest =>
    rw [hl] at hne
    simp only [List.head?_cons, Option.elim_some] at hne ⊢
    cases htier : (top :: rest).filter fun r => decide (r.priority = top.priority) with
    | nil => exact absurd htier hne
    | cons r rs =>
      cases rs with
      | nil =>
        refine Or.inl ⟨r, rfl, ?_⟩
        simp only [select, htier]
      | cons r' rs =>
        refine Or.inr ⟨by simp, ?_⟩
        simp only [select, htier]

theorem evaluateWith_eq (hnumeric : ∀ r ∈ c.rules, r.NumericBounds) (fl : Number → Number)
    (draw : ℚ) : c.evaluateWith fl s hour draw = select fl draw (c.sortedMatches s hour) := by
  have hsorted : ∀ r ∈ c.sortedRules, r.NumericBounds := by
    intro r hr
    rw [sortedRules, List.mem_insertionSort] at hr
    exact hnumeric r hr
  rw [evaluateWith, matchingRules_eq hsorted s hour]
  rfl

variable (hcomparable : ∀ r ∈ c.rules, r.Comparable)
include hcomparable

/-- Where some rule matches, one of the top rules is selected, whatever is drawn. -/
theorem evaluate_isTop
    (hweights : ∀ r ∈ c.rules, ∃ w : ℚ, r.weight = .finite w ∧ 1 / 8 ≤ w ∧ w ≤ 1)
    {r : Rule} (hr : r ∈ c.rules) (hm : r.matched s hour = true) (draw : ℚ) :
    ∃ r, c.IsTop s hour r ∧ c.evaluate s hour draw = .ok (some r.manifestId) := by
  have hne := topTier_ne_nil s hour hr hm
  rw [evaluate, evaluateWith_eq s hour fun r hr => (hcomparable r hr).numericBounds]
  rcases select_sortedMatches s hour Binary64.rounded draw hne with
    ⟨r, htier, hselect⟩ | ⟨-, hselect⟩
  · refine ⟨r, ?_, hselect⟩
    rw [← mem_topTier, htier]
    exact List.mem_cons_self
  · have heighth : Binary64.IsFloat (1 / 8) :=
      ⟨1, -3, by norm_num, by norm_num, by norm_num⟩
    have htier : ∀ w ∈ (c.topTier s hour).map Rule.weight,
        ∃ v : ℚ, w = .finite v ∧ 1 / 8 ≤ v ∧ v ≤ 1 := by
      intro w hw
      obtain ⟨r, hr, rfl⟩ := List.mem_map.mp hw
      exact hweights r ((c.mem_topTier s hour r).mp hr).1.1
    have hsome : (c.topTier s hour).map Rule.weight ≠ [] := by simpa using hne
    have hlen : ((c.topTier s hour).map Rule.weight).length = (c.topTier s hour).length :=
      List.length_map _
    obtain ⟨q, hsum, hpos⟩ := positiveTotal_of_weights heighth (by norm_num) hsome htier
    obtain ⟨k, hk, hchoice, -⟩ := choices_found hlen hsum hpos draw
    refine ⟨_, (c.mem_topTier s hour _).mp (List.getElem_mem hk), ?_⟩
    rw [hselect, hchoice]
    rfl

/-- Among top rules of weight 1 each is selected by some draw. -/
theorem evaluate_draws {fl : Number → Number} {drawn : ℚ → Prop}
    (hdraws : DrawsEach fl drawn (c.topTier s hour))
    (hones : ∀ r, c.IsTop s hour r → r.weight = .finite 1) {r : Rule} (hr : c.IsTop s hour r) :
    ∃ draw, drawn draw ∧ c.evaluateWith fl s hour draw = .ok (some r.manifestId) := by
  have hmem := (c.mem_topTier s hour r).mpr hr
  obtain ⟨k, hk, hget⟩ := List.mem_iff_getElem.mp hmem
  obtain ⟨draw, hdrawn, hchoice⟩ := hdraws k hk
  refine ⟨draw, hdrawn, ?_⟩
  rw [evaluateWith_eq s hour fun r hr => (hcomparable r hr).numericBounds]
  rcases select_sortedMatches s hour fl draw (List.ne_nil_of_mem hmem) with
    ⟨r', htier, hselect⟩ | ⟨-, hselect⟩
  · rw [htier, List.mem_singleton] at hmem
    rw [hselect, hmem]
  · have hweights : (c.topTier s hour).map Rule.weight =
        List.replicate (c.topTier s hour).length (.finite 1) := by
      refine List.eq_replicate_iff.mpr ⟨List.length_map _, fun w hw => ?_⟩
      obtain ⟨r', hr', rfl⟩ := List.mem_map.mp hw
      exact hones r' ((c.mem_topTier s hour r').mp hr')
    rw [hselect, hweights, hchoice, hget]
    rfl

end Evaluating

end PolicyConfig

end AdaptiveAdvertisement.DecisionOptimizer
