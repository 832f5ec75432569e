import AdaptiveAdvertisement.DecisionOptimizer.DemographicsGate
import AdaptiveAdvertisement.DecisionOptimizer.TopTier

/-!
# What an evaluation comes to

The weights of a rules file are any numbers that `float()` makes, and `random.choices` refuses
those whose total is not positive and finite. A tier of one rule is not drawn from, whatever its
weight (`policy.py:303-336`).
-/

namespace AdaptiveAdvertisement.DecisionOptimizer
open Library Contracts

namespace PolicyConfig

variable (c : PolicyConfig) (s : Signal) (hour : ℕ)

def positive (w : Number) : Bool := (Number.finite 0).lt w

/-- The result is `None`: there is no rule, or the file names the manifest `null`. -/
def IsNone (id : Option Json) : Prop := ∀ m ∈ id, m = .null

/-- `None` exactly where no rule matches, and otherwise the manifest of a top rule, of one with a
positive weight where there is one. -/
structure Selected (id : Option Json) : Prop where
  none_iff : IsNone id ↔ ∀ r ∈ c.rules, r.matched s hour = false
  isTop : ∀ m ∈ id, ∃ r, c.IsTop s hour r ∧ r.manifestId = m ∧
    ((∃ r', c.IsTop s hour r' ∧ positive r'.weight = true) → positive r.weight = true)

/-- Whatever is drawn, the evaluation does not raise and meets its specification. -/
def MeetsSpecification : Prop :=
  ∀ draw : ℚ, Drawn draw → ∃ id, c.evaluate s hour draw = .ok id ∧ c.Selected s hour id

/-- Several top rules have a total weight that can be drawn from. -/
def TierWeighs : Prop :=
  2 ≤ (c.topTier s hour).length →
    PositiveTotal Binary64.rounded ((c.topTier s hour).map Rule.weight)

/-- The only top rule, or one of several that some draw falls on. -/
def Drawable (r : Rule) : Prop :=
  c.topTier s hour = [r] ∨ 2 ≤ (c.topTier s hour).length ∧ ∃ draw : ℚ, Drawn draw ∧
    choices Binary64.rounded (c.topTier s hour) ((c.topTier s hour).map Rule.weight) draw = .ok r

/-- Where several top rules have a total so small that a draw may be rounded up to it, the last of
them, which it then falls on, has a positive weight or the manifest of a rule that has. -/
def LastWeighs : Prop :=
  2 ≤ (c.topTier s hour).length → ∀ q : ℚ,
    total Binary64.rounded (.finite 0) ((c.topTier s hour).map Rule.weight) = .finite q →
    q ≤ Binary64.smallestNormal → ∀ r, (c.topTier s hour).getLast? = some r →
      c.Drawable s hour r →
      ∃ r', c.IsTop s hour r' ∧ r'.manifestId = r.manifestId ∧ positive r'.weight = true

variable {c s hour}

theorem topTier_eq_nil_iff :
    c.topTier s hour = [] ↔ ∀ r ∈ c.rules, r.matched s hour = false := by
  refine ⟨fun h r hr => ?_, fun h => ?_⟩
  · rw [← Bool.not_eq_true]
    exact fun hm => topTier_ne_nil s hour hr hm h
  · refine List.eq_nil_iff_forall_not_mem.mpr fun r hr => ?_
    obtain ⟨⟨hmem, hm⟩, -⟩ := (c.mem_topTier s hour r).mp hr
    rw [h r hmem] at hm
    cases hm

theorem sortedMatches_eq_nil (h : c.topTier s hour = []) : c.sortedMatches s hour = [] := by
  refine List.eq_nil_iff_forall_not_mem.mpr fun r hr => ?_
  obtain ⟨hmem, hm⟩ := (c.mem_sortedMatches s hour r).mp hr
  exact topTier_ne_nil s hour hmem hm h

section Tier

variable (hnumeric : ∀ r ∈ c.rules, r.NumericBounds)
include hnumeric

theorem evaluate_nil (htier : c.topTier s hour = []) (draw : ℚ) :
    c.evaluate s hour draw = .ok none := by
  rw [evaluate, evaluateWith_eq s hour hnumeric, sortedMatches_eq_nil htier]
  rfl

theorem evaluate_one {r : Rule} (htier : c.topTier s hour = [r]) (draw : ℚ) :
    c.evaluate s hour draw = .ok (some r.manifestId) := by
  have hne : c.topTier s hour ≠ [] := by simp [htier]
  rw [evaluate, evaluateWith_eq s hour hnumeric]
  rcases select_sortedMatches s hour Binary64.rounded draw hne with
    ⟨r', hone, hselect⟩ | ⟨htwo, -⟩
  · rw [htier, List.singleton_inj] at hone
    rw [hselect, hone]
  · simp [htier] at htwo

theorem evaluate_several (htwo : 2 ≤ (c.topTier s hour).length) (draw : ℚ) :
    c.evaluate s hour draw = (choices Binary64.rounded (c.topTier s hour)
      ((c.topTier s hour).map Rule.weight) draw).map fun r => some r.manifestId := by
  have hne : c.topTier s hour ≠ [] := by
    intro hnil
    simp [hnil] at htwo
  rw [evaluate, evaluateWith_eq s hour hnumeric]
  rcases select_sortedMatches s hour Binary64.rounded draw hne with
    ⟨r, hone, -⟩ | ⟨-, hselect⟩
  · simp [hone] at htwo
  · exact hselect

end Tier

/-! ### The law -/

theorem selected_none (h : c.topTier s hour = []) : c.Selected s hour none where
  none_iff := iff_of_true (fun _ hm => by cases hm) (topTier_eq_nil_iff.mp h)
  isTop := fun _ hm => by cases hm

theorem selected_some {r r' : Rule} (hr : c.IsTop s hour r) (hid : r.manifestId ≠ .null)
    (hr' : c.IsTop s hour r') (hsame : r'.manifestId = r.manifestId)
    (hweight : (∃ r', c.IsTop s hour r' ∧ positive r'.weight = true) →
      positive r'.weight = true) : c.Selected s hour (some r.manifestId) where
  none_iff := by
    refine iff_of_false (fun h => hid (h _ rfl)) fun h => ?_
    have hm := h r hr.1.1
    rw [hr.1.2] at hm
    cases hm
  isTop := fun m hm => ⟨r', hr', hsame.trans (Option.some.inj hm), hweight⟩

theorem Selected.ne_null {r : Rule} (hr : c.IsTop s hour r)
    (h : c.Selected s hour (some r.manifestId)) : r.manifestId ≠ .null := by
  intro hnull
  have hm := h.none_iff.mp (fun _ hm => (Option.some.inj hm) ▸ hnull) r hr.1.1
  rw [hr.1.2] at hm
  cases hm

theorem Drawable.isTop {r : Rule} (h : c.Drawable s hour r) : c.IsTop s hour r := by
  rw [← mem_topTier]
  rcases h with hone | ⟨-, draw, -, hchoice⟩
  · rw [hone]
    exact List.mem_cons_self
  · exact choices_mem_population hchoice

/-- Some draw falls on what can be drawn. -/
theorem Drawable.evaluate (hnumeric : ∀ r ∈ c.rules, r.NumericBounds) {r : Rule}
    (h : c.Drawable s hour r) :
    ∃ draw : ℚ, Drawn draw ∧ c.evaluate s hour draw = .ok (some r.manifestId) := by
  rcases h with hone | ⟨htwo, draw, hdraw, hchoice⟩
  · exact ⟨0, drawn_zero, evaluate_one hnumeric hone 0⟩
  · refine ⟨draw, hdraw, ?_⟩
    rw [evaluate_several hnumeric htwo, hchoice]
    rfl

/-- Among several top rules with a positive total one has a positive weight. -/
theorem TierWeighs.exists_positive (h : c.TierWeighs s hour)
    (htwo : 2 ≤ (c.topTier s hour).length) :
    ∃ r, c.IsTop s hour r ∧ positive r.weight = true := by
  obtain ⟨v, hv, hpos⟩ := (h htwo).exists_positive
  obtain ⟨r, hr, hweight⟩ := List.mem_map.mp hv
  refine ⟨r, (c.mem_topTier s hour r).mp hr, ?_⟩
  rw [positive, hweight]
  exact decide_eq_true hpos

/-- What is drawn among several has a positive weight, or a rule with one has its manifest. -/
theorem LastWeighs.drawn (hlast : c.LastWeighs s hour) (hweigh : c.TierWeighs s hour)
    (htwo : 2 ≤ (c.topTier s hour).length) {draw : ℚ} (hdraw : Drawn draw) :
    ∃ r r', choices Binary64.rounded (c.topTier s hour)
      ((c.topTier s hour).map Rule.weight) draw =
        .ok r ∧ c.Drawable s hour r ∧ c.IsTop s hour r' ∧ r'.manifestId = r.manifestId ∧
      positive r'.weight = true := by
  obtain ⟨q, hsum, hpos⟩ := hweigh htwo
  obtain ⟨r, -, hchoice, hcases⟩ := choices_drawn hsum hpos hdraw
  have hr : c.Drawable s hour r := Or.inr ⟨htwo, draw, hdraw, hchoice⟩
  rcases hcases with ⟨v, hv, hvpos⟩ | ⟨hend, hsmall⟩
  · refine ⟨r, r, hchoice, hr, hr.isTop, rfl, ?_⟩
    rw [positive, hv]
    exact decide_eq_true hvpos
  · obtain ⟨r', hr', hsame, hrpos⟩ := hlast htwo q hsum hsmall r hend hr
    exact ⟨r, r', hchoice, hr, hr', hsame, hrpos⟩

/-- For every policy with numeric bounds, every signal and every hour: on every draw a top rule is
selected, exactly where several top rules have a positive finite total weight, the last of them
weighs where the total is next to nothing, and each rule that can be drawn names a manifest. -/
theorem meetsSpecification_iff (hnumeric : ∀ r ∈ c.rules, r.NumericBounds) :
    c.MeetsSpecification s hour ↔ c.TierWeighs s hour ∧ c.LastWeighs s hour ∧
      ∀ r, c.Drawable s hour r → r.manifestId ≠ .null := by
  refine ⟨fun h => ?_, fun ⟨hweigh, hlast, hnames⟩ draw hdraw => ?_⟩
  · have hweigh : c.TierWeighs s hour := by
      intro htwo
      by_contra hnot
      obtain ⟨id, heval, -⟩ := h 0 drawn_zero
      rw [evaluate_several hnumeric htwo, choices_refused hnot] at heval
      cases heval
    have hdrawable : ∀ r, c.Drawable s hour r → c.Selected s hour (some r.manifestId) := by
      intro r hr
      obtain ⟨draw, hdraw, hdrawn⟩ := hr.evaluate hnumeric
      obtain ⟨id, heval, hselected⟩ := h draw hdraw
      rw [hdrawn, Except.ok.injEq] at heval
      exact heval ▸ hselected
    refine ⟨hweigh, fun htwo q _ _ r _ hr => ?_, fun r hr => (hdrawable r hr).ne_null hr.isTop⟩
    obtain ⟨r', hr', hsame, hpos⟩ := (hdrawable r hr).isTop r.manifestId rfl
    exact ⟨r', hr', hsame, hpos (hweigh.exists_positive htwo)⟩
  · match htier : c.topTier s hour with
    | [] => exact ⟨none, evaluate_nil hnumeric htier draw, selected_none htier⟩
    | [r] =>
      have hr : c.Drawable s hour r := Or.inl htier
      refine ⟨_, evaluate_one hnumeric htier draw,
        selected_some hr.isTop (hnames r hr) hr.isTop rfl fun ⟨r', hr', hpos⟩ => ?_⟩
      -- the other top rule is this one
      rw [← mem_topTier, htier, List.mem_singleton] at hr'
      exact hr' ▸ hpos
    | r₁ :: r₂ :: rest =>
      have htwo : 2 ≤ (c.topTier s hour).length := by simp [htier]
      obtain ⟨r, r', hchoice, hr, hr', hsame, hpos⟩ := hlast.drawn hweigh htwo hdraw
      refine ⟨some r.manifestId, ?_,
        selected_some hr.isTop (hnames r hr) hr' hsame fun _ => hpos⟩
      rw [evaluate_several hnumeric htwo, hchoice]
      rfl

end PolicyConfig

/-! ### Two reminders of the same priority -/

def remindersFile (weight : ℚ) : Json :=
  .obj [("schema_version", .str "1.0.0"), ("rules", .arr (["m-1", "m-2"].map fun id =>
    .obj [("rule_id", .str id), ("priority", .int 10), ("manifest_id", .str id),
      ("weight", .num weight), ("conditions", .obj [])]))]

def reminders (weight : ℚ) : PolicyConfig where
  rules := ["m-1", "m-2"].map fun id => ⟨.str id, 10, .str id, .finite weight, []⟩
  minDwellMs := 10000
  cooldownMs := 5000

theorem loadPolicy_reminders (texts : Number.Texts) {weight : ℚ}
    (h : 0 ≤ weight ∧ weight ≤ 1) (hfloat : Binary64.IsFloat weight) :
    loadPolicy texts (remindersFile weight) = .ok (reminders weight) := by
  have hrounded : Binary64.rounded (.finite weight) = .finite weight := by
    rw [Binary64.rounded_small h.1 (h.2.trans (by norm_num)), Binary64.nearest_eq hfloat]
  have hrule : ∀ id, loadRule texts (.obj [("rule_id", .str id), ("priority", .int 10),
      ("manifest_id", .str id), ("weight", .num weight), ("conditions", .obj [])]) =
      .ok ⟨.str id, 10, .str id, .finite weight, []⟩ := by
    intro id
    have hread : (memberOr (.obj [("rule_id", .str id), ("priority", .int 10),
        ("manifest_id", .str id), ("weight", .num weight), ("conditions", .obj [])])
        "weight" (.int 1)).bind (Number.toFloat texts) = .ok (.finite weight) :=
      Number.toFloat_unit texts h
    rw [loadRule, hread]
    change Except.ok (Rule.mk _ _ _ (Binary64.rounded (.finite weight)) _) = _
    rw [hrounded]
    rfl
  rw [loadPolicy, remindersFile]
  change ((["m-1", "m-2"].map _).mapM (loadRule texts)).bind _ = _
  rw [List.map_cons, List.map_cons, List.map_nil, List.mapM_cons, List.mapM_cons, hrule, hrule]
  rfl

theorem reminders_numericBounds (weight : ℚ) :
    ∀ r ∈ (reminders weight).rules, r.NumericBounds := by
  intro r hr key _ v hv
  obtain ⟨id, -, rfl⟩ := List.mem_map.mp hr
  cases hv

theorem reminders_meet : (reminders 1).MeetsSpecification disagreeing 12 ↔
    (reminders 1).TierWeighs disagreeing 12 ∧ (reminders 1).LastWeighs disagreeing 12 ∧
      ∀ r, (reminders 1).Drawable disagreeing 12 r → r.manifestId ≠ .null :=
  PolicyConfig.meetsSpecification_iff (reminders_numericBounds 1)

/-- With weights of zero the choice between the two raises. -/
theorem zeroReminders_raise : ¬ ∀ (texts : Number.Texts) (data : Json) (c : PolicyConfig),
    loadPolicy texts data = .ok c → (∀ r ∈ c.rules, r.NumericBounds) →
      ∀ (s : Signal) (hour : ℕ), c.MeetsSpecification s hour := by
  intro h
  obtain ⟨id, heval, -⟩ := h ⟨fun _ => none, fun _ => none⟩ _ _
    (loadPolicy_reminders _ ⟨le_refl 0, zero_le_one⟩ Binary64.isFloat_zero)
    (reminders_numericBounds 0) disagreeing 12 0 drawn_zero
  have hraised : ((reminders 0).evaluate disagreeing 12 0).isOk = false := by decide +kernel
  rw [heval] at hraised
  cases hraised

end AdaptiveAdvertisement.DecisionOptimizer
