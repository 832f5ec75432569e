import AdaptiveAdvertisement.Library.Json

/-!
# A fragment of JSON Schema (draft 2020-12)

A schema is the check it makes. The combinators are the keywords in use: `type`,
`const`, `enum`, the length and range limits, `pattern`, and closed objects
(`properties`, `required`, `additionalProperties: false`). A length or range keyword
says nothing of a value of another type, and `format` asserts nothing.
-/

namespace AdaptiveAdvertisement.Library

abbrev Schema := Json → Bool

namespace Schema

def all (ss : List Schema) : Schema := fun j => ss.all fun s => s j

def string : Schema
  | .str _ => true
  | _ => false

def boolean : Schema
  | .bool _ => true
  | _ => false

def number : Schema
  | .num _ => true
  | .nonfinite _ => true
  | _ => false

def integer : Schema
  | .num q => decide (q.den = 1)
  | _ => false

def constStr (s : String) : Schema
  | .str t => decide (t = s)
  | _ => false

def constBool (b : Bool) : Schema
  | .bool c => decide (c = b)
  | _ => false

def enumStr (ss : List String) : Schema
  | .str t => decide (t ∈ ss)
  | _ => false

def minLength (n : ℕ) : Schema
  | .str s => decide (n ≤ s.length)
  | _ => true

def maxLength (n : ℕ) : Schema
  | .str s => decide (s.length ≤ n)
  | _ => true

def pattern (p : String → Bool) : Schema
  | .str s => p s
  | _ => true

/-- Comparisons with a nan fail, so a nan is below no minimum. -/
def minimum (q : ℚ) : Schema
  | .num r => decide (q ≤ r)
  | .nonfinite x => decide (x ≠ .negInf)
  | _ => true

def maximum (q : ℚ) : Schema
  | .num r => decide (r ≤ q)
  | .nonfinite x => decide (x ≠ .posInf)
  | _ => true

def array (item : Schema) (minItems : ℕ) : Schema
  | .arr xs => decide (minItems ≤ xs.length) && xs.all item
  | _ => false

/-- `type: object` with `additionalProperties: false`: the required members are there, every
member is declared, and a declared member that is there meets its schema. -/
def object (required : List String) (properties : List (String × Schema)) : Schema
  | .obj ms =>
    required.all (fun k => (Dict.find k ms).isSome) &&
      ms.all (fun m => decide (m.1 ∈ properties.map Prod.fst)) &&
      properties.all fun p => match Dict.find p.1 ms with
        | some v => p.2 v
        | none => true
  | _ => false

/-! ### What a valid value is -/

theorem string_iff {j : Json} : string j = true ↔ ∃ s, j = .str s := by
  cases j <;> simp [string]

theorem boolean_iff {j : Json} : boolean j = true ↔ ∃ b, j = .bool b := by
  cases j <;> simp [boolean]

theorem constStr_iff {j : Json} {s : String} : constStr s j = true ↔ j = .str s := by
  cases j <;> simp [constStr]

theorem enumStr_iff {j : Json} {ss : List String} :
    enumStr ss j = true ↔ ∃ s ∈ ss, j = .str s := by
  cases j <;> simp [enumStr]

theorem integer_iff {j : Json} : integer j = true ↔ ∃ n : ℤ, j = .int n := by
  refine ⟨fun h => ?_, fun h => ?_⟩
  · cases j with
    | num q =>
      have hq : q.den = 1 := by simpa [integer] using h
      have hint : (q.num : ℚ) = q := (Rat.den_eq_one_iff q).mp hq
      exact ⟨q.num, by rw [Json.int, hint]⟩
    | null => simp [integer] at h
    | bool b => simp [integer] at h
    | nonfinite x => simp [integer] at h
    | str s => simp [integer] at h
    | arr xs => simp [integer] at h
    | obj ms => simp [integer] at h
  · obtain ⟨n, rfl⟩ := h
    simp [integer, Json.int]

theorem object_iff {required : List String} {properties : List (String × Schema)} {j : Json} :
    object required properties j = true ↔
      ∃ ms, j = .obj ms ∧ (∀ k ∈ required, (Dict.find k ms).isSome) ∧
        (∀ m ∈ ms, m.1 ∈ properties.map Prod.fst) ∧
        ∀ p ∈ properties, ∀ v, Dict.find p.1 ms = some v → p.2 v = true := by
  cases j with
  | obj ms =>
    simp only [object, Bool.and_eq_true, List.all_eq_true, decide_eq_true_eq, Json.obj.injEq,
      exists_eq_left', and_assoc]
    refine and_congr_right fun _ => and_congr_right fun _ => ⟨fun h => ?_, fun h => ?_⟩
    · intro p hp v hv
      have hh := h p hp
      rwa [hv] at hh
    · intro p hp
      cases hv : Dict.find p.1 ms with
      | none => rfl
      | some v => exact h p hp v hv
  | null => simp [object]
  | bool b => simp [object]
  | num q => simp [object]
  | nonfinite x => simp [object]
  | str s => simp [object]
  | arr xs => simp [object]

theorem object_required {required : List String} {properties : List (String × Schema)} {j : Json}
    (h : object required properties j = true) {k : String} {s : Schema} (hk : k ∈ required)
    (hs : (k, s) ∈ properties) : ∃ v, j.get? k = some v ∧ s v = true := by
  obtain ⟨ms, rfl, hreq, -, hprop⟩ := object_iff.mp h
  obtain ⟨v, hv⟩ := Option.isSome_iff_exists.mp (hreq k hk)
  exact ⟨v, hv, hprop (k, s) hs v hv⟩

theorem object_property {required : List String} {properties : List (String × Schema)} {j v : Json}
    (h : object required properties j = true) {k : String} {s : Schema}
    (hs : (k, s) ∈ properties) (hv : j.get? k = some v) : s v = true := by
  obtain ⟨ms, rfl, -, -, hprop⟩ := object_iff.mp h
  exact hprop (k, s) hs v hv

/-! ### An object written field by field -/

structure Field where
  key : String
  schema : Schema
  value : Option Json

def Field.declared (f : Field) : String × Schema := (f.key, f.schema)

def Field.member (f : Field) : Option (String × Json) := f.value.map fun v => (f.key, v)

theorem find_members {fields : List Field} (hn : (fields.map Field.key).Nodup) {f : Field}
    (hf : f ∈ fields) : Dict.find f.key (fields.filterMap Field.member) = f.value := by
  have hkeys : ∀ (k : String) (gs : List Field), k ∉ gs.map Field.key →
      Dict.find k (gs.filterMap Field.member) = none := by
    intro k gs hk
    rw [← Option.not_isSome_iff_eq_none, Dict.find_isSome_iff]
    intro hmem
    obtain ⟨m, hm, rfl⟩ := List.mem_map.mp hmem
    obtain ⟨g, hg, hgm⟩ := List.mem_filterMap.mp hm
    obtain ⟨v, -, rfl⟩ := Option.map_eq_some_iff.mp hgm
    exact hk (List.mem_map_of_mem hg)
  induction fields with
  | nil => cases hf
  | cons g gs ih =>
    simp only [List.map_cons, List.nodup_cons] at hn
    rcases List.mem_cons.mp hf with rfl | hf
    · cases hv : f.value with
      | none => simp [Field.member, hv, hkeys f.key gs hn.1]
      | some v => simp [Field.member, hv, Dict.find]
    · have hne : g.key ≠ f.key := fun h => hn.1 (h ▸ List.mem_map_of_mem hf)
      cases hv : g.value with
      | none => simp [Field.member, hv, ih hn.2 hf]
      | some v => simp [Field.member, hv, Dict.find, hne, ih hn.2 hf]

/-- An object of declared fields is valid where the required ones are written and every written
one meets its schema. -/
theorem object_fields_iff (required : List String) (fields : List Field)
    (hn : (fields.map Field.key).Nodup)
    (hreq : ∀ k ∈ required, ∃ f ∈ fields, f.key = k ∧ f.value.isSome) :
    object required (fields.map Field.declared) (.obj (fields.filterMap Field.member)) = true ↔
      ∀ f ∈ fields, ∀ v ∈ f.value, f.schema v = true := by
  simp only [object_iff, Json.obj.injEq, exists_eq_left']
  refine ⟨fun h => ?_, fun h => ?_⟩
  · intro f hf v hv
    have hwritten : Dict.find f.key (fields.filterMap Field.member) = some v :=
      (find_members hn hf).trans hv
    exact h.2.2 f.declared (List.mem_map_of_mem hf) v hwritten
  · refine ⟨?_, ?_, ?_⟩
    · intro k hk
      obtain ⟨f, hf, rfl, hsome⟩ := hreq k hk
      rwa [find_members hn hf]
    · intro m hm
      obtain ⟨f, hf, hfm⟩ := List.mem_filterMap.mp hm
      obtain ⟨v, -, rfl⟩ := Option.map_eq_some_iff.mp hfm
      exact List.mem_map.mpr ⟨f.declared, List.mem_map_of_mem hf, rfl⟩
    · intro p hp v hv
      obtain ⟨f, hf, rfl⟩ := List.mem_map.mp hp
      exact h f hf v ((find_members hn hf).symm.trans hv)

theorem all_iff {ss : List Schema} {j : Json} : all ss j = true ↔ ∀ s ∈ ss, s j = true := by
  simp [all]

end Schema

end AdaptiveAdvertisement.Library
