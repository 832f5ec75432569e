import AdaptiveAdvertisement.Library.Dict
import Mathlib.Data.Rat.Defs

/-!
# JSON values as a scripting language decodes them

Numbers are exact: an integer and the float of the same value are one number. The
three non-finite floats, which the decoder also accepts, are kept apart. An object is
the list of its members in document order; a decoder leaves one member for each key,
and every lookup reads the first.
-/

namespace AdaptiveAdvertisement.Library

inductive Nonfinite where
  | nan
  | posInf
  | negInf
  deriving DecidableEq

inductive Json where
  | null
  | bool (b : Bool)
  | num (q : ℚ)
  | nonfinite (x : Nonfinite)
  | str (s : String)
  | arr (xs : List Json)
  | obj (members : List (String × Json))

namespace Json

instance : Inhabited Json := ⟨null⟩

def int (n : ℤ) : Json := num n

def ofOption {α : Type*} (f : α → Json) : Option α → Json
  | some a => f a
  | none => null

def get? (j : Json) (key : String) : Option Json :=
  match j with
  | obj ms => Dict.find key ms
  | _ => none

def at? : List String → Json → Option Json
  | [], j => some j
  | key :: keys, j => (j.get? key).bind (at? keys)

def isObj : Json → Bool
  | obj _ => true
  | _ => false

def truthy : Json → Bool
  | null => false
  | bool b => b
  | num q => decide (q ≠ 0)
  | nonfinite _ => true
  | str s => decide (s ≠ "")
  | arr xs => !xs.isEmpty
  | obj ms => !ms.isEmpty

def asStr? : Json → Option String
  | str s => some s
  | _ => none

def asBool? : Json → Option Bool
  | bool b => some b
  | _ => none

def asInt? : Json → Option ℤ
  | num q => if q.den = 1 then some q.num else none
  | _ => none

@[simp] theorem get?_obj (ms : List (String × Json)) (key : String) :
    (obj ms).get? key = Dict.find key ms := rfl

@[simp] theorem asInt?_int (n : ℤ) : (int n).asInt? = some n := rfl

@[simp] theorem asStr?_str (s : String) : (str s).asStr? = some s := rfl

@[simp] theorem asBool?_bool (b : Bool) : (bool b).asBool? = some b := rfl

theorem obj_of_get? {j v : Json} {key : String} (h : j.get? key = some v) :
    ∃ ms, j = .obj ms ∧ Dict.find key ms = some v := by
  cases j with
  | obj ms => exact ⟨ms, rfl, h⟩
  | null => simp [get?] at h
  | bool b => simp [get?] at h
  | num q => simp [get?] at h
  | nonfinite x => simp [get?] at h
  | str s => simp [get?] at h
  | arr xs => simp [get?] at h

theorem isObj_of_get? {j v : Json} {key : String} (h : j.get? key = some v) : j.isObj = true := by
  obtain ⟨ms, rfl, -⟩ := obj_of_get? h
  rfl

theorem get?_of_falsy {j : Json} (h : j.truthy = false) (key : String) : j.get? key = none := by
  cases hget : j.get? key with
  | none => rfl
  | some v =>
    obtain ⟨ms, rfl, hfind⟩ := obj_of_get? hget
    obtain rfl : ms = [] := by simpa [truthy] using h
    cases hfind

theorem at?_singleton (j : Json) (key : String) : j.at? [key] = j.get? key :=
  Option.bind_fun_some _

theorem at?_of_get? {j v : Json} {key : String} (h : j.get? key = some v) (keys : List String) :
    j.at? (key :: keys) = v.at? keys := by
  rw [at?, h, Option.bind_some]

end Json

inductive Raised where
  | keyError (key : String)
  | typeError
  | attributeError
  | valueError
  | overflowError
  | loadError
  deriving DecidableEq

def index (j : Json) (key : String) : Except Raised Json :=
  match j with
  | .obj ms =>
    match Dict.find key ms with
    | some v => .ok v
    | none => .error (.keyError key)
  | _ => .error .typeError

def strMember (j : Json) (key : String) : Except Raised String :=
  match index j key with
  | .ok (.str s) => .ok s
  | .ok _ => .error .typeError
  | .error e => .error e

def intMember (j : Json) (key : String) : Except Raised ℤ :=
  match index j key with
  | .ok v =>
    match v.asInt? with
    | some n => .ok n
    | none => .error .typeError
  | .error e => .error e

theorem index_of_get? {j v : Json} {key : String} (h : j.get? key = some v) :
    index j key = .ok v := by
  obtain ⟨ms, rfl, hfind⟩ := Json.obj_of_get? h
  simp [index, hfind]

theorem get?_of_index {j v : Json} {key : String} (h : index j key = .ok v) :
    j.get? key = some v := by
  cases j with
  | obj ms =>
    cases hfind : Dict.find key ms with
    | none => simp [index, hfind] at h
    | some w => simpa [index, hfind] using h
  | null => cases h
  | bool b => cases h
  | num q => cases h
  | nonfinite x => cases h
  | str s => cases h
  | arr xs => cases h

theorem strMember_of_get? {j : Json} {key s : String} (h : j.get? key = some (.str s)) :
    strMember j key = .ok s := by
  simp [strMember, index_of_get? h]

theorem intMember_of_get? {j : Json} {key : String} {n : ℤ} (h : j.get? key = some (.int n)) :
    intMember j key = .ok n := by
  simp [intMember, index_of_get? h]

/-! ### Reading a computation that succeeded -/

section Except

variable {ε ε' α β : Type*}

theorem exists_of_isOk {x : Except ε α} (h : x.isOk = true) : ∃ a, x = .ok a := by
  cases x with
  | error e => cases h
  | ok a => exact ⟨a, rfl⟩

theorem bind_ok {x : Except ε α} {f : α → Except ε β} {b : β} (h : x.bind f = .ok b) :
    ∃ a, x = .ok a ∧ f a = .ok b := by
  cases x with
  | error e => cases h
  | ok a => exact ⟨a, rfl, h⟩

theorem ok_bind {γ δ : Type} (a : γ) (f : γ → Except ε δ) : (Except.ok a >>= f) = f a := rfl

theorem mapError_ok {x : Except ε α} {f : ε → ε'} {a : α} (h : x.mapError f = .ok a) :
    x = .ok a := by
  cases x with
  | error e => cases h
  | ok a => exact congrArg Except.ok (Except.ok.inj h)

theorem map_ok {x : Except ε α} {f : α → β} {b : β} (h : x.map f = .ok b) :
    ∃ a, x = .ok a ∧ b = f a := by
  cases x with
  | error e => cases h
  | ok a => exact ⟨a, rfl, (Except.ok.inj h).symm⟩

theorem map_ok_iff {x : Except ε α} {f : α → β} {b : β} :
    x.map f = .ok b ↔ ∃ a, x = .ok a ∧ f a = b := by
  refine ⟨fun h => ?_, ?_⟩
  · obtain ⟨a, ha, hb⟩ := map_ok h
    exact ⟨a, ha, hb.symm⟩
  · rintro ⟨a, rfl, rfl⟩
    rfl

theorem map_isOk_iff (x : Except ε α) (f : α → β) :
    (∃ b, x.map f = .ok b) ↔ ∃ a, x = .ok a := by
  cases x with
  | error e => simp [Except.map]
  | ok a => simp [Except.map]

theorem forall₂_of_mapM {ε α β : Type} {f : α → Except ε β} {xs : List α} {ys : List β}
    (h : xs.mapM f = .ok ys) : List.Forall₂ (fun x y => f x = .ok y) xs ys := by
  induction xs generalizing ys with
  | nil =>
    cases h
    exact List.Forall₂.nil
  | cons x xs ih =>
    rw [List.mapM_cons] at h
    obtain ⟨y, hy, h⟩ := bind_ok h
    obtain ⟨rest, hrest, h⟩ := bind_ok h
    cases h
    exact List.Forall₂.cons hy (ih hrest)

theorem mapM_of_forall₂ {ε α β : Type} {f : α → Except ε β} {xs : List α} {ys : List β}
    (h : List.Forall₂ (fun x y => f x = .ok y) xs ys) : xs.mapM f = .ok ys := by
  induction h with
  | nil => rfl
  | cons hy _ ih =>
    rw [List.mapM_cons, hy, ok_bind, ih]
    rfl

theorem mapM_isOk_iff {ε α β : Type} {f : α → Except ε β} {xs : List α} :
    (∃ ys, xs.mapM f = .ok ys) ↔ ∀ x ∈ xs, ∃ y, f x = .ok y := by
  induction xs with
  | nil => exact ⟨fun _ _ h => (nomatch h), fun _ => ⟨[], rfl⟩⟩
  | cons x xs ih =>
    rw [List.forall_mem_cons, ← ih]
    refine ⟨fun ⟨ys, h⟩ => ?_, fun ⟨⟨y, hy⟩, rest, hrest⟩ => ?_⟩
    · rw [List.mapM_cons] at h
      obtain ⟨y, hy, h⟩ := bind_ok h
      obtain ⟨rest, hrest, -⟩ := bind_ok h
      exact ⟨⟨y, hy⟩, rest, hrest⟩
    · exact ⟨y :: rest, by rw [List.mapM_cons, hy, ok_bind, hrest]; rfl⟩

end Except

def truncate (q : ℚ) : ℤ := q.num.tdiv q.den

/-- What decoding a text yields: a value, the decoder's own error, a text that is not
in the expected encoding, or another exception (a nesting or digit limit). -/
inductive Loaded where
  | value (v : Json)
  | decodeError
  | unicodeError
  | raised

/-- A JSON codec over texts `τ`: decoding an encoded value gives it back. -/
structure Codec (τ : Type*) where
  dumps : Json → τ
  loads : τ → Loaded
  loads_dumps : ∀ v, loads (dumps v) = .value v

/-- Texts that are the values they encode. -/
def jsonCodec : Codec Json where
  dumps := id
  loads := .value
  loads_dumps := fun _ => rfl

inductive FileRead where
  | osError
  | content (l : Loaded)

abbrev Directory := Dict String FileRead

end AdaptiveAdvertisement.Library
