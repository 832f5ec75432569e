import AdaptiveAdvertisement.Library.Inbox

/-!
# Reading a validated object

A member that the schema requires is there, and every member meets the schema declared for it, so
a lookup in a validated object gives a validated value and does not fail.
-/

namespace AdaptiveAdvertisement.Library

namespace Valid

variable {required : List String} {properties : List (String × Schema)} {s : Schema}
  {key : String}

@[ext] theorem ext {v w : Valid s} (h : v.1 = w.1) : v = w := Subtype.ext h

def of (j : Json) (h : s j = true) : Valid s := ⟨j, h⟩

def get? (v : Valid (Schema.object required properties)) (key : String)
    (hs : (key, s) ∈ properties) : Option (Valid s) :=
  (v.1.get? key).pmap of fun _ hx => Schema.object_property v.2 hs hx

theorem get?_eq_some_iff (v : Valid (Schema.object required properties))
    (hs : (key, s) ∈ properties) (x : Valid s) :
    v.get? key hs = some x ↔ v.1.get? key = some x.1 := by
  rw [get?, Option.pmap_eq_some_iff]
  refine ⟨fun h => ?_, fun h => ?_⟩
  · obtain ⟨y, hvalid, hy, rfl⟩ := h
    exact hy
  · exact ⟨x.1, x.2, h, rfl⟩

theorem get?_eq_none_iff (v : Valid (Schema.object required properties))
    (hs : (key, s) ∈ properties) : v.get? key hs = none ↔ v.1.get? key = none := by
  rw [get?, Option.pmap_eq_none_iff]

theorem map_get? (v : Valid (Schema.object required properties)) (hs : (key, s) ∈ properties) :
    v.1.get? key = (v.get? key hs).map (·.1) := by
  cases hv : v.get? key hs with
  | none => exact (get?_eq_none_iff v hs).mp hv
  | some x => exact (get?_eq_some_iff v hs x).mp hv

def get (v : Valid (Schema.object required properties)) (key : String) (hk : key ∈ required)
    (hs : (key, s) ∈ properties) : Valid s :=
  (v.get? key hs).get (by
    obtain ⟨x, hx, hvalid⟩ := Schema.object_required v.2 hk hs
    exact Option.isSome_iff_exists.mpr ⟨⟨x, hvalid⟩, (get?_eq_some_iff v hs _).mpr hx⟩)

theorem get?_get (v : Valid (Schema.object required properties)) (hk : key ∈ required)
    (hs : (key, s) ∈ properties) : v.1.get? key = some (v.get key hk hs).1 :=
  (get?_eq_some_iff v hs _).mp (Option.some_get _).symm

end Valid

namespace Schema

/-- An object written member by member. -/
theorem object_members {required : List String} {properties : List (String × Schema)}
    {ms : List (String × Json)} (hn : (properties.map Prod.fst).Nodup)
    (hreq : ∀ k ∈ required, k ∈ ms.map Prod.fst)
    (hms : ∀ m ∈ ms, ∃ s, (m.1, s) ∈ properties ∧ s m.2 = true) :
    object required properties (.obj ms) = true := by
  refine object_iff.mpr ⟨ms, rfl, fun k hk => ?_, fun m hm => ?_, fun p hp v hv => ?_⟩
  · exact (Dict.find_isSome_iff k ms).mpr (hreq k hk)
  · obtain ⟨s, hs, -⟩ := hms m hm
    exact List.mem_map_of_mem hs
  · obtain ⟨s, hs, hvalid⟩ := hms (p.1, v) (Dict.find_eq_some_mem hv)
    have hsame : s = p.2 := by
      have hfind := Dict.find_of_mem hn hs
      rw [Dict.find_of_mem hn (k := p.1) (v := p.2) hp, Option.some.injEq] at hfind
      exact hfind.symm
    exact hsame ▸ hvalid

end Schema

end AdaptiveAdvertisement.Library
