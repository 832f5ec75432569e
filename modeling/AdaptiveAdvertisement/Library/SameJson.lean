import AdaptiveAdvertisement.Library.Json

/-!
# JSON values up to the order of members

Two values are the same if the same is found in both along every path of keys. An object says
nothing by itself, so that neither the order of its members nor what a lookup cannot reach counts.
-/

namespace AdaptiveAdvertisement.Library.Json

/-- The value without the members of an object. -/
def outline : Json → Json
  | obj _ => obj []
  | null => null
  | bool b => bool b
  | num q => num q
  | nonfinite x => nonfinite x
  | str s => str s
  | arr xs => arr xs

def Same (j j' : Json) : Prop := ∀ path, (j.at? path).map outline = (j'.at? path).map outline

variable {j j' v v' : Json} {o o' : Option Json} {key : String} {ms ms' : List (String × Json)}

theorem Same.refl (j : Json) : Same j j := fun _ => rfl

theorem same_of_eq (h : j = j') : Same j j' := h ▸ Same.refl j

theorem optionRel_iff : Option.Rel Same o o' ↔
    ∀ path, (o.bind (at? path)).map outline = (o'.bind (at? path)).map outline := by
  cases o with
  | none =>
    cases o' with
    | none => exact ⟨fun _ _ => rfl, fun _ => .none⟩
    | some v' =>
      refine ⟨fun h => (by cases h), fun h => ?_⟩
      have hroot := h []
      simp [at?] at hroot
  | some v =>
    cases o' with
    | none =>
      refine ⟨fun h => (by cases h), fun h => ?_⟩
      have hroot := h []
      simp [at?] at hroot
    | some v' =>
      refine ⟨fun h => ?_, fun h => .some h⟩
      cases h with
      | some h => exact h

theorem same_obj_iff : Same (obj ms) (obj ms') ↔
    ∀ key, Option.Rel Same (Dict.find key ms) (Dict.find key ms') := by
  refine ⟨fun h key => ?_, fun h path => ?_⟩
  · rw [optionRel_iff]
    exact fun path => h (key :: path)
  · cases path with
    | nil => rfl
    | cons key path => exact optionRel_iff.mp (h key) path

theorem same_leaf_iff (h : j.isObj = false) (h' : j'.isObj = false) : Same j j' ↔ j = j' := by
  refine ⟨fun hs => ?_, same_of_eq⟩
  have hroot := Option.some.inj (hs [])
  cases j <;> cases j' <;> simp_all [outline, isObj]

theorem same_isObj (h : Same j j') : j.isObj = j'.isObj := by
  have hroot := Option.some.inj (h [])
  cases j <;> cases j' <;> simp_all [outline, isObj]

/-- Objects that are written in the same order are compared member by member. -/
theorem same_obj_cons (hk : key ∉ ms.map Prod.fst) (hk' : key ∉ ms'.map Prod.fst) :
    Same (obj ((key, v) :: ms)) (obj ((key, v') :: ms')) ↔
      Same v v' ∧ Same (obj ms) (obj ms') := by
  have hnone : Dict.find key ms = none := by
    rw [← Option.not_isSome_iff_eq_none, Dict.find_isSome_iff]
    exact hk
  have hnone' : Dict.find key ms' = none := by
    rw [← Option.not_isSome_iff_eq_none, Dict.find_isSome_iff]
    exact hk'
  rw [same_obj_iff, same_obj_iff]
  refine ⟨fun h => ⟨?_, fun k => ?_⟩, fun h k => ?_⟩
  · have hkey := h key
    simp only [Dict.find, if_true] at hkey
    cases hkey with
    | some hv => exact hv
  · have hother := h k
    by_cases hkk : key = k
    · subst hkk
      rw [hnone, hnone']
      exact .none
    · simpa only [Dict.find, hkk, if_false] using hother
  · by_cases hkk : key = k
    · subst hkk
      simp only [Dict.find, if_true]
      exact .some h.1
    · simpa only [Dict.find, hkk, if_false] using h.2 k

theorem same_ofOption_iff {α : Type*} {f : α → Json} (hf : ∀ a, (f a).isObj = true)
    {x x' : Option α} : Same (ofOption f x) (ofOption f x') ↔
      Option.Rel (fun a a' => Same (f a) (f a')) x x' := by
  cases x with
  | none =>
    cases x' with
    | none => exact ⟨fun _ => .none, fun _ => Same.refl _⟩
    | some a' =>
      refine ⟨fun h => ?_, fun h => (by cases h)⟩
      have hobj : false = (f a').isObj := same_isObj h
      rw [hf] at hobj
      cases hobj
  | some a =>
    cases x' with
    | none =>
      refine ⟨fun h => ?_, fun h => (by cases h)⟩
      have hobj : (f a).isObj = false := same_isObj h
      rw [hf] at hobj
      cases hobj
    | some a' =>
      refine ⟨fun h => .some h, fun h => ?_⟩
      cases h with
      | some h => exact h

end AdaptiveAdvertisement.Library.Json
