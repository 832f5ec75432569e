import AdaptiveAdvertisement.Dashboard.RuleGenerator

/-!
# The rules of pairs of tags

In each slot of its time tags a manifest has a rule for each pair of its audience tags that come
from different dimensions. A pair rule is known by its `rule_id`, in which the two tags stand in
the order of the list.
-/

namespace AdaptiveAdvertisement.Dashboard
open Library

/-! ### Pairs of a list -/

section Combinations

variable {α : Type*} {xs : List α} {a b : α}

theorem mem_combinations (h : (a, b) ∈ combinations xs) : a ∈ xs ∧ b ∈ xs := by
  induction xs with
  | nil => cases h
  | cons x xs ih =>
    rcases List.mem_append.mp h with h | h
    · obtain ⟨y, hy, hpair⟩ := List.mem_map.mp h
      cases hpair
      exact ⟨List.mem_cons_self, List.mem_cons_of_mem _ hy⟩
    · exact ⟨List.mem_cons_of_mem x (ih h).1, List.mem_cons_of_mem x (ih h).2⟩

variable [DecidableEq α]

def isPairOf (a b : α) (p : α × α) : Bool := decide (p = (a, b) ∨ p = (b, a))

theorem isPairOf_comm (a b : α) : isPairOf a b = isPairOf b a := by
  funext p
  simp [isPairOf, or_comm]

theorem countP_isPairOf_head {x : α} (hn : (x :: xs).Nodup) (hb : b ∈ xs) :
    (combinations (x :: xs)).countP (isPairOf x b) = 1 := by
  obtain ⟨hx, hxs⟩ := List.nodup_cons.mp hn
  have hhead : (xs.map fun y => (x, y)).countP (isPairOf x b) = 1 := by
    have hpred : (isPairOf x b ∘ fun y => (x, y)) = fun y => y == b := by
      funext y
      have hne : x ≠ b := fun h => hx (h ▸ hb)
      by_cases hy : y = b <;> simp [isPairOf, hy, hne]
    rw [List.countP_map, hpred]
    exact List.count_eq_one_of_mem hxs hb
  have hrest : (combinations xs).countP (isPairOf x b) = 0 := by
    refine List.countP_eq_zero.mpr fun p hp hpair => ?_
    obtain ⟨h₁, h₂⟩ := mem_combinations (a := p.1) (b := p.2) hp
    rcases of_decide_eq_true hpair with rfl | rfl
    · exact hx h₁
    · exact hx h₂
  rw [combinations, List.countP_append, hhead, hrest]

theorem countP_isPairOf (hn : xs.Nodup) (ha : a ∈ xs) (hb : b ∈ xs) (hab : a ≠ b) :
    (combinations xs).countP (isPairOf a b) = 1 := by
  induction xs with
  | nil => cases ha
  | cons x xs ih =>
    rcases List.mem_cons.mp ha with rfl | ha'
    · exact countP_isPairOf_head hn ((List.mem_cons.mp hb).resolve_left (Ne.symm hab))
    rcases List.mem_cons.mp hb with rfl | hb'
    · rw [isPairOf_comm]
      exact countP_isPairOf_head hn ha'
    obtain ⟨hx, hxs⟩ := List.nodup_cons.mp hn
    have hhead : (xs.map fun y => (x, y)).countP (isPairOf a b) = 0 := by
      refine List.countP_eq_zero.mpr fun p hp hpair => ?_
      obtain ⟨y, -, rfl⟩ := List.mem_map.mp hp
      rcases of_decide_eq_true hpair with h | h
      · obtain rfl : x = a := congrArg Prod.fst h
        exact hx ha'
      · obtain rfl : x = b := congrArg Prod.fst h
        exact hx hb'
    rw [combinations, List.countP_append, hhead, ih hxs ha' hb', zero_add]

end Combinations

/-- Where only one part can have what is counted, the others do not count. -/
theorem countP_flatMap_of_mem {α β : Type*} {f : α → List β} {p : β → Bool}
    {xs : List α} {x : α} (hn : xs.Nodup) (hx : x ∈ xs)
    (hother : ∀ y ∈ xs, y ≠ x → ∀ b ∈ f y, p b = false) :
    (xs.flatMap f).countP p = (f x).countP p := by
  obtain ⟨before, after, rfl⟩ := List.append_of_mem hx
  have hzero : ∀ ys : List α, (∀ y ∈ ys, y ∈ before ++ x :: after ∧ y ≠ x) →
      (ys.flatMap f).countP p = 0 := by
    intro ys hys
    refine List.countP_eq_zero.mpr fun b hb => ?_
    obtain ⟨y, hy, hb⟩ := List.mem_flatMap.mp hb
    obtain ⟨hmem, hne⟩ := hys y hy
    rw [hother y hmem hne b hb]
    exact Bool.false_ne_true
  obtain ⟨-, hafter, hdisjoint⟩ := List.nodup_append.mp hn
  have hfirst := hzero before fun y hy =>
    ⟨List.mem_append_left _ hy, hdisjoint y hy x List.mem_cons_self⟩
  have hlast := hzero after fun y hy =>
    ⟨List.mem_append_right _ (List.mem_cons_of_mem x hy),
      fun h => (List.nodup_cons.mp hafter).1 (h ▸ hy)⟩
  rw [List.flatMap_append, List.flatMap_cons, List.countP_append, List.countP_append, hfirst,
    hlast, zero_add, add_zero]

/-! ### Slots -/

def slotsOfTag (timeTag : String) : List (Option TimeSlot) :=
  (windowSlots timeTag).zipIdx.map fun (slot, slotIdx) => some ⟨timeTag, slotIdx, slot⟩

def timePart (time : Option TimeSlot) : String := time.elim "" TimeSlot.part

section Manifest

variable (m : Manifest)

def audienceOf : List String := m.audienceTags.filter fun t => decide (t ∈ audienceTagSet)

def timeTagsOf : List String := m.audienceTags.filter fun t => decide (t ∈ timeTagSet)

/-- The slots of the time tags, or the one without restriction where there is no time tag. -/
def slotsOf : List (Option TimeSlot) :=
  if timeTagsOf m = [] then [none] else (timeTagsOf m).flatMap slotsOfTag

end Manifest

def allSlots : List (Option TimeSlot) := none :: timeTagSet.flatMap slotsOfTag

theorem allSlots_nodup : (allSlots.map timePart).Nodup := by decide +kernel

theorem timePart_plain : ∀ t ∈ allSlots, '+' ∉ (timePart t).toList := by decide +kernel

theorem tag_plain :
    ∀ a ∈ audienceTagSet, '+' ∉ a.toList ∧ '-' ∉ a.toList := by decide +kernel

theorem mem_timeTagsOf {m : Manifest} {timeTag : String} (h : timeTag ∈ timeTagsOf m) :
    timeTag ∈ timeTagSet :=
  of_decide_eq_true (List.mem_filter.mp h).2

theorem mem_allSlots {m : Manifest} {t : Option TimeSlot} (h : t ∈ slotsOf m) :
    t ∈ allSlots := by
  unfold slotsOf at h
  split_ifs at h
  · rw [List.mem_singleton.mp h]
    exact List.mem_cons_self
  · obtain ⟨timeTag, htag, ht⟩ := List.mem_flatMap.mp h
    exact List.mem_cons_of_mem _ (List.mem_flatMap.mpr ⟨timeTag, mem_timeTagsOf htag, ht⟩)

theorem slotsOfTag_timeTag {timeTag : String} {t : Option TimeSlot} (h : t ∈ slotsOfTag timeTag) :
    t.map TimeSlot.timeTag = some timeTag := by
  obtain ⟨p, -, rfl⟩ := List.mem_map.mp h
  rfl

theorem slotsOf_nodup {m : Manifest} (h : m.audienceTags.Nodup) : (slotsOf m).Nodup := by
  unfold slotsOf
  split_ifs
  · exact List.nodup_singleton none
  · refine List.nodup_flatMap.mpr ⟨fun timeTag htag => ?_, ?_⟩
    · have hall : (timeTagSet.flatMap slotsOfTag).Nodup :=
        ((List.nodup_cons.mp (allSlots_nodup.of_map _)).2)
      exact (List.nodup_flatMap.mp hall).1 timeTag (mem_timeTagsOf htag)
    · refine (h.filter _).imp fun {a b} hab t ha hb => hab ?_
      exact Option.some.inj ((slotsOfTag_timeTag ha).symm.trans (slotsOfTag_timeTag hb))

/-! ### Rule ids -/

def pairId (manifestId : String) (time : Option TimeSlot) (tagA tagB : String) : String :=
  "autogen-" ++ manifestId ++ timePart time ++ "-" ++ tagA ++ "+" ++ tagB

theorem crossDimRule_ruleId (manifestId : String) (occasionBonus : ℤ) (time : Option TimeSlot)
    (tagA tagB : String) : (crossDimRule manifestId occasionBonus time tagA tagB).ruleId =
      pairId manifestId time tagA tagB := rfl

theorem toList_pairId (manifestId : String) (t : Option TimeSlot) (a b : String) :
    (pairId manifestId t a b).toList = ("autogen-" ++ manifestId).toList ++
      ((timePart t).toList ++ '-' :: a.toList ++ '+' :: b.toList) := by
  have hparts : ∀ front dash plus : String,
      (front ++ timePart t ++ dash ++ a ++ plus ++ b).toList = front.toList ++
        ((timePart t).toList ++ (dash.toList ++ a.toList) ++ (plus.toList ++ b.toList)) := by
    intro front dash plus
    simp only [String.toList_append, List.append_assoc]
  exact hparts ("autogen-" ++ manifestId) "-" "+"

/-- Two lists that are the same are split alike at the last occurrence of an element. -/
theorem split_at_last {α : Type*} {x x' z z' : List α} {c : α} (hz : c ∉ z) (hz' : c ∉ z')
    (h : x ++ c :: z = x' ++ c :: z') : x = x' ∧ z = z' := by
  have hend : ∀ {as w w' : List α}, c ∉ w → c :: w = as ++ c :: w' → as = [] := by
    intro as w w' hw hsplit
    cases as with
    | nil => rfl
    | cons d as =>
      rw [List.cons_append, List.cons.injEq] at hsplit
      exact absurd (hsplit.2 ▸ List.mem_append_right as List.mem_cons_self) hw
  rcases List.append_eq_append_iff.mp h with ⟨as, rfl, htail⟩ | ⟨bs, rfl, htail⟩
  · obtain rfl := hend hz htail
    simpa using htail
  · obtain rfl := hend hz' htail
    simpa using htail.symm

theorem pairId_inj {manifestId : String} {t t' : Option TimeSlot} {a b a' b' : String}
    (ht : t ∈ allSlots) (ht' : t' ∈ allSlots) (ha : a ∈ audienceTagSet)
    (ha' : a' ∈ audienceTagSet) (hb : b ∈ audienceTagSet) (hb' : b' ∈ audienceTagSet)
    (h : pairId manifestId t a b = pairId manifestId t' a' b') : t = t' ∧ a = a' ∧ b = b' := by
  have hchars : (timePart t).toList ++ '-' :: a.toList ++ '+' :: b.toList =
      (timePart t').toList ++ '-' :: a'.toList ++ '+' :: b'.toList := by
    have hlists := congrArg String.toList h
    rw [toList_pairId, toList_pairId] at hlists
    exact List.append_cancel_left hlists
  obtain ⟨hfront, hlast⟩ := split_at_last (tag_plain b hb).1 (tag_plain b' hb').1 hchars
  obtain ⟨hpart, htag⟩ := split_at_last (tag_plain a ha).2 (tag_plain a' ha').2 hfront
  refine ⟨?_, String.toList_injective htag, String.toList_injective hlast⟩
  exact List.inj_on_of_nodup_map allSlots_nodup ht ht' (String.toList_injective hpart)

theorem ne_pairId {manifestId rest : String} {t : Option TimeSlot} {a b : String}
    (h : '+' ∉ rest.toList) : "autogen-" ++ manifestId ++ rest ≠ pairId manifestId t a b := by
  intro heq
  have hchars : rest.toList = (timePart t).toList ++ '-' :: a.toList ++ '+' :: b.toList := by
    have hlists := congrArg String.toList heq
    rw [toList_pairId, String.toList_append] at hlists
    exact List.append_cancel_left hlists
  exact h (hchars ▸ List.mem_append_right _ List.mem_cons_self)

/-! ### The rules of a manifest, slot by slot -/

section Law

variable {m : Manifest}

theorem timedRules_eq (manifestId : String) {audience : List String} (occasionBonus : ℤ)
    (timeTag : String) (h : audience ≠ []) :
    timedRules manifestId audience occasionBonus timeTag =
      (slotsOfTag timeTag).flatMap (audienceRules manifestId audience occasionBonus) := by
  simp only [timedRules, slotsOfTag, h, if_false, List.flatMap_map]

theorem tagRules_eq (h : audienceOf m ≠ []) : tagRules m = (slotsOf m).flatMap
    (audienceRules m.manifestId (audienceOf m) (occasionBonusOf m.audienceTags)) := by
  unfold tagRules slotsOf
  change (if timeTagsOf m = [] then _ else _) = _
  split_ifs
  · simp [audienceOf]
  · rw [List.flatMap_assoc]
    exact List.flatMap_congr fun timeTag _ => timedRules_eq _ _ _ h

/-- Beside the rules of the slots there is at most the reminder. -/
theorem generated_eq (h : audienceOf m ≠ []) : ∃ tail : List GeneratedRule,
    generateRulesForManifest m = (slotsOf m).flatMap (audienceRules m.manifestId (audienceOf m)
      (occasionBonusOf m.audienceTags)) ++ tail ∧
    ∀ r ∈ tail, r.ruleId = "autogen-" ++ m.manifestId ++ "-reminder" := by
  have htags : m.audienceTags ≠ [] := by
    intro hnil
    exact h (by simp [audienceOf, hnil])
  unfold generateRulesForManifest
  rw [if_neg htags, ← tagRules_eq h]
  dsimp only
  split
  next cfg _ =>
    split_ifs
    · exact ⟨[], by simp, by simp⟩
    · exact ⟨[reminderRule m.manifestId cfg], rfl, by simp [reminderRule]⟩
  next => exact ⟨[], by simp, by simp⟩

def OtherDimensions (a b : String) : Prop :=
  ∃ dimA dimB, Dict.find a dimensionGroups = some dimA ∧
    Dict.find b dimensionGroups = some dimB ∧
    dimA ≠ dimB

theorem OtherDimensions.symm {a b : String} (h : OtherDimensions a b) : OtherDimensions b a := by
  obtain ⟨dimA, dimB, ha, hb, hne⟩ := h
  exact ⟨dimB, dimA, hb, ha, hne.symm⟩

def isPairRule (manifestId : String) (t : Option TimeSlot) (a b : String) (r : GeneratedRule) :
    Bool :=
  decide (r.ruleId = pairId manifestId t a b ∨ r.ruleId = pairId manifestId t b a)

/-- One rule for each pair of different dimensions in each slot, and none for another pair. -/
structure PairLaw (m : Manifest) : Prop where
  one : ∀ t ∈ slotsOf m, ∀ a ∈ audienceOf m, ∀ b ∈ audienceOf m, OtherDimensions a b →
    ((generateRulesForManifest m).filter (isPairRule m.manifestId t a b)).length = 1
  none : ∀ t ∈ slotsOf m, ∀ a ∈ audienceOf m, ∀ b ∈ audienceOf m,
    ¬ OtherDimensions a b →
    ∀ r ∈ generateRulesForManifest m, isPairRule m.manifestId t a b r = false

def dimensioned (audience : List String) : List (String × String) :=
  audience.filterMap fun t => (Dict.find t dimensionGroups).map (t, ·)

theorem mem_dimensioned {audience : List String} {p : String × String} :
    p ∈ dimensioned audience ↔ p.1 ∈ audience ∧
      Dict.find p.1 dimensionGroups = some p.2 := by
  unfold dimensioned
  rw [List.mem_filterMap]
  refine ⟨fun h => ?_, fun ⟨hmem, hfind⟩ => ⟨p.1, hmem, by simp [hfind]⟩⟩
  obtain ⟨t, ht, hp⟩ := h
  obtain ⟨dim, hdim, rfl⟩ := Option.map_eq_some_iff.mp hp
  exact ⟨ht, hdim⟩

theorem dimensioned_nodup {audience : List String} (h : audience.Nodup) :
    (dimensioned audience).Nodup := by
  refine h.filterMap fun t t' p hp hp' => ?_
  obtain ⟨dim, -, rfl⟩ := Option.map_eq_some_iff.mp hp
  obtain ⟨dim', -, hpair⟩ := Option.map_eq_some_iff.mp hp'
  exact (congrArg Prod.fst hpair).symm

section Slot

variable {manifestId : String} {audience : List String} {occasionBonus : ℤ}
  {t : Option TimeSlot} {a b : String}

theorem mem_crossDimRules {r : GeneratedRule}
    (h : r ∈ generateCrossDimRules manifestId audience occasionBonus t) :
    ∃ x ∈ audience, ∃ y ∈ audience, OtherDimensions x y ∧
      r = crossDimRule manifestId occasionBonus t x y := by
  obtain ⟨⟨⟨x, dimX⟩, y, dimY⟩, hpair, hr⟩ := List.mem_filterMap.mp h
  obtain ⟨hx, hy⟩ := mem_combinations hpair
  obtain ⟨hx, hdimX⟩ := mem_dimensioned.mp hx
  obtain ⟨hy, hdimY⟩ := mem_dimensioned.mp hy
  dsimp only at hr
  split_ifs at hr with hdim
  exact ⟨x, hx, y, hy, ⟨dimX, dimY, hdimX, hdimY, hdim⟩, (Option.some.inj hr).symm⟩

theorem audienceRule_isPairRule (ht : t ∈ allSlots) {tag : String} (htag : tag ∈ audienceTagSet)
    (t' : Option TimeSlot) (a b : String) :
    isPairRule manifestId t' a b (audienceRule manifestId occasionBonus t tag) = false := by
  have hplain : '+' ∉ (timePart t ++ "-" ++ tag).toList := by
    simpa using ⟨timePart_plain t ht, (tag_plain tag htag).1⟩
  have hid : (audienceRule manifestId occasionBonus t tag).ruleId =
      "autogen-" ++ manifestId ++ (timePart t ++ "-" ++ tag) := by
    simp [audienceRule, timePart, String.append_assoc]
  rw [isPairRule, decide_eq_false_iff_not, hid, not_or]
  exact ⟨ne_pairId hplain, ne_pairId hplain⟩

variable (haudience : ∀ x ∈ audience, x ∈ audienceTagSet) (ha : a ∈ audience)
  (hb : b ∈ audience)
include haudience ha hb

theorem isPairRule_crossDim {t' : Option TimeSlot} (ht : t ∈ allSlots) (ht' : t' ∈ allSlots)
    {x y : String} (hx : x ∈ audience) (hy : y ∈ audience) :
    isPairRule manifestId t a b (crossDimRule manifestId occasionBonus t' x y) = true ↔
      t' = t ∧ (x = a ∧ y = b ∨ x = b ∧ y = a) := by
  rw [isPairRule, decide_eq_true_iff, crossDimRule_ruleId]
  refine ⟨fun h => ?_, ?_⟩
  · rcases h with h | h
    · obtain ⟨rfl, rfl, rfl⟩ := pairId_inj ht' ht (haudience x hx) (haudience a ha)
        (haudience y hy) (haudience b hb) h
      exact ⟨rfl, Or.inl ⟨rfl, rfl⟩⟩
    · obtain ⟨rfl, rfl, rfl⟩ := pairId_inj ht' ht (haudience x hx) (haudience b hb)
        (haudience y hy) (haudience a ha) h
      exact ⟨rfl, Or.inr ⟨rfl, rfl⟩⟩
  · rintro ⟨rfl, ⟨rfl, rfl⟩ | ⟨rfl, rfl⟩⟩
    · exact Or.inl rfl
    · exact Or.inr rfl

/-- Only rules of two different dimensions, in their own slot, are pair rules. -/
theorem isPairRule_audienceRules {t' : Option TimeSlot} (ht : t ∈ allSlots)
    (ht' : t' ∈ allSlots)
    {r : GeneratedRule} (hr : r ∈ audienceRules manifestId audience occasionBonus t')
    (hpair : isPairRule manifestId t a b r = true) : t' = t ∧ OtherDimensions a b ∧
      (r = crossDimRule manifestId occasionBonus t a b ∨
        r = crossDimRule manifestId occasionBonus t b a) := by
  rcases List.mem_append.mp hr with hr | hr
  · obtain ⟨tag, htag, rfl⟩ := List.mem_map.mp hr
    rw [audienceRule_isPairRule ht' (haudience tag htag)] at hpair
    cases hpair
  · obtain ⟨x, hx, y, hy, hdims, rfl⟩ := mem_crossDimRules hr
    obtain ⟨rfl, ⟨rfl, rfl⟩ | ⟨rfl, rfl⟩⟩ :=
      (isPairRule_crossDim haudience ha hb ht ht' hx hy).mp hpair
    · exact ⟨rfl, hdims, Or.inl rfl⟩
    · exact ⟨rfl, hdims.symm, Or.inr rfl⟩

theorem countP_crossDimRules (hn : audience.Nodup) (ht : t ∈ allSlots)
    (hdims : OtherDimensions a b) :
    (generateCrossDimRules manifestId audience occasionBonus t).countP
      (isPairRule manifestId t a b) = 1 := by
  obtain ⟨dimA, dimB, hdimA, hdimB, hne⟩ := hdims
  have hab : (a, dimA) ≠ (b, dimB) := fun h => hne (congrArg Prod.snd h)
  rw [← countP_isPairOf (dimensioned_nodup hn) (mem_dimensioned.mpr ⟨ha, hdimA⟩)
    (mem_dimensioned.mpr ⟨hb, hdimB⟩) hab]
  unfold generateCrossDimRules
  rw [List.countP_filterMap]
  refine List.countP_congr ?_
  rintro ⟨⟨x, dimX⟩, y, dimY⟩ hpair
  obtain ⟨hx, hy⟩ := mem_combinations hpair
  obtain ⟨hx, hdimX⟩ := mem_dimensioned.mp hx
  obtain ⟨hy, hdimY⟩ := mem_dimensioned.mp hy
  have hrule : isPairRule manifestId t a b (crossDimRule manifestId occasionBonus t x y) = true ↔
      t = t ∧ (x = a ∧ y = b ∨ x = b ∧ y = a) :=
    isPairRule_crossDim haudience ha hb ht ht hx hy
  have hpairOf : isPairOf (a, dimA) (b, dimB) ((x, dimX), y, dimY) = true ↔
      x = a ∧ y = b ∨ x = b ∧ y = a := by
    rw [isPairOf, decide_eq_true_iff]
    refine ⟨fun h => ?_, ?_⟩
    · rcases h with h | h
      · cases h
        exact Or.inl ⟨rfl, rfl⟩
      · cases h
        exact Or.inr ⟨rfl, rfl⟩
    · rintro (⟨rfl, rfl⟩ | ⟨rfl, rfl⟩)
      · obtain rfl := Option.some.inj (hdimX.symm.trans hdimA)
        obtain rfl := Option.some.inj (hdimY.symm.trans hdimB)
        exact Or.inl rfl
      · obtain rfl := Option.some.inj (hdimX.symm.trans hdimB)
        obtain rfl := Option.some.inj (hdimY.symm.trans hdimA)
        exact Or.inr rfl
  rw [hpairOf]
  dsimp only
  split_ifs with hdim
  · -- the two tags that are paired differ in their dimension
    refine iff_of_false (by simp) ?_
    rintro (⟨rfl, rfl⟩ | ⟨rfl, rfl⟩)
    · rw [hdimX, Option.some.injEq] at hdimA
      rw [hdimY, Option.some.injEq] at hdimB
      exact hne (hdimA.symm.trans (hdim.trans hdimB))
    · rw [hdimX, Option.some.injEq] at hdimB
      rw [hdimY, Option.some.injEq] at hdimA
      exact hne (hdimA.symm.trans (hdim.symm.trans hdimB))
  · simpa using hrule

end Slot

theorem isPairRule_reminder (t : Option TimeSlot) (a b : String) {r : GeneratedRule}
    (h : r.ruleId = "autogen-" ++ m.manifestId ++ "-reminder") :
    isPairRule m.manifestId t a b r = false := by
  rw [isPairRule, decide_eq_false_iff_not, h, not_or]
  exact ⟨ne_pairId (by decide), ne_pairId (by decide)⟩

theorem mem_audienceOf {a : String} (h : a ∈ audienceOf m) : a ∈ audienceTagSet :=
  of_decide_eq_true (List.mem_filter.mp h).2

theorem audienceRule_mem {t : Option TimeSlot} (ht : t ∈ slotsOf m) {a : String}
    (ha : a ∈ audienceOf m) : audienceRule m.manifestId (occasionBonusOf m.audienceTags) t a ∈
      generateRulesForManifest m := by
  obtain ⟨tail, heq, -⟩ := generated_eq (List.ne_nil_of_mem ha)
  rw [heq]
  refine List.mem_append_left _ (List.mem_flatMap.mpr ⟨t, ht, ?_⟩)
  exact List.mem_append_left _ (List.mem_map_of_mem ha)

theorem pairRule_eq {t : Option TimeSlot} (ht : t ∈ slotsOf m) {a b : String}
    (ha : a ∈ audienceOf m) (hb : b ∈ audienceOf m) {r : GeneratedRule}
    (hr : r ∈ generateRulesForManifest m) (hpair : isPairRule m.manifestId t a b r = true) :
    OtherDimensions a b ∧
      (r = crossDimRule m.manifestId (occasionBonusOf m.audienceTags) t a b ∨
        r = crossDimRule m.manifestId (occasionBonusOf m.audienceTags) t b a) := by
  obtain ⟨tail, heq, hreminder⟩ := generated_eq (List.ne_nil_of_mem ha)
  rw [heq] at hr
  rcases List.mem_append.mp hr with hr | hr
  · obtain ⟨t', ht', hr⟩ := List.mem_flatMap.mp hr
    exact (isPairRule_audienceRules (fun _ => mem_audienceOf) ha hb (mem_allSlots ht)
      (mem_allSlots ht') hr hpair).2
  · rw [isPairRule_reminder t a b (hreminder r hr)] at hpair
    cases hpair

theorem pairLaw (h : validAudienceTags m.audienceTags = true) : PairLaw m := by
  have hnodup : m.audienceTags.Nodup := by
    rw [validAudienceTags, Bool.and_eq_true] at h
    exact of_decide_eq_true h.2
  refine ⟨fun t ht a ha b hb hdims => ?_, fun t ht a ha b hb hdims r hr => ?_⟩
  · obtain ⟨tail, heq, hreminder⟩ := generated_eq (List.ne_nil_of_mem ha)
    have hsingles : ((audienceOf m).map (audienceRule m.manifestId (occasionBonusOf m.audienceTags)
        t)).countP (isPairRule m.manifestId t a b) = 0 := by
      refine List.countP_eq_zero.mpr fun r hr => ?_
      obtain ⟨tag, htag, rfl⟩ := List.mem_map.mp hr
      rw [audienceRule_isPairRule (mem_allSlots ht) (mem_audienceOf htag)]
      exact Bool.false_ne_true
    have hrest : tail.countP (isPairRule m.manifestId t a b) = 0 :=
      List.countP_eq_zero.mpr fun r hr => by
        rw [isPairRule_reminder t a b (hreminder r hr)]
        exact Bool.false_ne_true
    rw [← List.countP_eq_length_filter, heq, List.countP_append, hrest, add_zero,
      countP_flatMap_of_mem (slotsOf_nodup hnodup) ht fun t' ht' hne r hr => ?_, audienceRules,
      List.countP_append, hsingles, zero_add, countP_crossDimRules (fun _ => mem_audienceOf) ha hb
        (hnodup.filter _) (mem_allSlots ht) hdims]
    rw [← Bool.not_eq_true]
    exact fun hpair => hne (isPairRule_audienceRules (fun _ => mem_audienceOf) ha hb
      (mem_allSlots ht) (mem_allSlots ht') hr hpair).1
  · rw [← Bool.not_eq_true]
    exact fun hpair => hdims (pairRule_eq ht ha hb hr hpair).1

end Law

end AdaptiveAdvertisement.Dashboard
