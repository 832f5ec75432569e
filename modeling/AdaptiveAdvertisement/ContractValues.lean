import AdaptiveAdvertisement.Contracts
import AdaptiveAdvertisement.Library.Number
import AdaptiveAdvertisement.Library.ValidJson

/-!
# The values in validated messages

What a lookup in a validated observation or signal gives, and the blocks that ICD-2 and ICD-3
share.
-/

namespace AdaptiveAdvertisement.Contracts
open Library Schema

def countValue (v : Valid count) : ℤ := v.1.asInt?.getD 0

def fractionValue (v : Valid fraction) : Number := v.1.asNumber?.getD (.finite 0)

def flagValue (v : Valid boolean) : Bool := v.1.asBool?.getD false

def bin {names : List String} (b : Valid (bins names)) (name : String) : Option Number :=
  (b.1.get? name).bind Json.asNumber?

/-! ### The demographics block -/

section Demographics

variable (d : Valid demographics)

def ageGroup : Option (Valid (bins ageBins)) := d.get? "age_group" (by simp)

def gender : Option (Valid (bins genderBins)) := d.get? "gender" (by simp)

def attire : Option (Valid (bins attireBins)) := d.get? "attire" (by simp)

def dwellEstimateMs : Option ℤ :=
  (d.get? "dwell_estimate_ms" (s := count) (by simp)).map countValue

def suppressedFlag : Option Bool := (d.get? "suppressed" (s := boolean) (by simp)).map flagValue

end Demographics

/-! ### What the values are -/

theorem countValue_eq (v : Valid count) : v.1 = .int (countValue v) ∧ 0 ≤ countValue v := by
  obtain ⟨n, hn⟩ := count_iff.mp v.2
  have hv : countValue v = n := by simp [countValue, hn]
  rw [hv]
  exact ⟨hn, by omega⟩

theorem fraction_toJson_iff (x : Number) : fraction x.toJson = true ↔ x.Within 0 1 := by
  cases x with
  | finite q => simp [Number.toJson, fraction_iff, Number.Within]
  | nonfinite y => simp [Number.toJson, fraction_iff, Number.Within]

theorem fraction_number {j : Json} (h : fraction j = true) :
    ∃ x : Number, j.asNumber? = some x ∧ x.Within 0 1 := by
  obtain ⟨q, ⟨rfl, hq⟩ | rfl⟩ := fraction_iff.mp h
  · exact ⟨.finite q, rfl, hq⟩
  · exact ⟨.nonfinite .nan, rfl, rfl⟩

theorem fractionValue_within (v : Valid fraction) : (fractionValue v).Within 0 1 := by
  obtain ⟨x, hx, hwithin⟩ := fraction_number v.2
  rw [fractionValue, hx]
  exact hwithin

section Bins

variable {names : List String} (b : Valid (bins names)) {name : String}

theorem bins_get? {v : Json} (h : b.1.get? name = some v) : fraction v = true := by
  obtain ⟨ms, hms, -, hnames, -⟩ := object_iff.mp b.2
  have hmem : (name, v) ∈ ms := by
    rw [hms] at h
    exact Dict.find_eq_some_mem h
  have hname : name ∈ names := by simpa using hnames (name, v) hmem
  exact object_property b.2 (List.mem_map_of_mem hname) h

theorem bin_within {x : Number} (h : bin b name = some x) : x.Within 0 1 := by
  obtain ⟨v, hv, hx⟩ := Option.bind_eq_some_iff.mp h
  have hvalid := bins_get? b hv
  rw [Number.asNumber?_eq_some hx] at hvalid
  exact (fraction_toJson_iff x).mp hvalid

theorem bin_isSome : (bin b name).isSome = (b.1.get? name).isSome := by
  cases hv : b.1.get? name with
  | none => simp [bin, hv]
  | some v =>
    obtain ⟨x, hx, -⟩ := fraction_number (bins_get? b hv)
    simp [bin, hv, hx]

end Bins

end AdaptiveAdvertisement.Contracts
