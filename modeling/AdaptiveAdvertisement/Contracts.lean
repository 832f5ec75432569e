import AdaptiveAdvertisement.Library.JsonSchema
import Mathlib.Algebra.Order.Field.Rat
import Mathlib.Algebra.Order.Ring.Cast

/-!
# The contracts (`contracts/*.schema.json`)

The message schemas that the services validate against: ICD-2 observations
(`audience-state/cv-observation`), ICD-3 audience signals
(`decision-optimizer/audience-state-signal`), ICD-4 player commands (`player/player-command`) and
ICD-5 creative manifests (`creative/creative-manifest`). `format: date-time` asserts nothing in
the validators, so a timestamp is any string.
-/

namespace AdaptiveAdvertisement.Contracts
open Library Schema

def timestamp : Schema := string

def identifier : Schema := all [string, minLength 1, maxLength 128]

def count : Schema := all [integer, minimum 0]

def fraction : Schema := all [number, minimum 0, maximum 1]

def isIdChar (c : Char) : Bool := c.isAlphanum || decide (c ∈ ['.', '_', ':', '-'])

/-- `^[A-Za-z0-9._:-]+$`, whose `$` also matches before a final newline. -/
def idPattern (s : String) : Bool :=
  let cs := if s.toList.getLast? = some '\n' then s.toList.dropLast else s.toList
  !cs.isEmpty && cs.all isIdChar

def scopedId : Schema := all [identifier, pattern idPattern]

def bins (names : List String) : Schema := object [] (names.map fun n => (n, fraction))

def ageBins : List String := ["child", "young_adult", "adult", "senior"]

def genderBins : List String := ["male", "female"]

def attireBins : List String :=
  ["formal", "business_casual", "casual", "athletic", "outdoor_technical", "workwear_uniform",
    "streetwear", "luxury_premium", "lounge_comfort", "smart_occasion"]

def demographics : Schema :=
  object []
    [("age_group", bins ageBins), ("gender", bins genderBins), ("attire", bins attireBins),
      ("dwell_estimate_ms", count), ("suppressed", boolean)]

def attention : Schema := bins ["engaged", "ambient"]

def privacyFlags : List String :=
  ["contains_images", "contains_frame_urls", "contains_face_embeddings"]

def privacy : Schema := object privacyFlags (privacyFlags.map fun n => (n, constBool false))

/-! ### ICD-2 and ICD-3 -/

def presence : Schema := object ["count", "confidence"] [("count", count), ("confidence", fraction)]

def counts : Schema :=
  object ["present", "confidence"] [("present", count), ("confidence", fraction)]

def quality : Schema :=
  object ["frames_processed", "frames_dropped"]
    [("frames_processed", count), ("frames_dropped", count), ("pipeline_degraded", boolean)]

def cvObservation : Schema :=
  object
    ["schema_version", "message_type", "message_id", "produced_at", "tenant_id", "site_id",
      "camera_id", "pipeline_id", "frame_seq", "window_ms", "counts", "quality", "privacy"]
    [("schema_version", constStr "1.0.0"), ("message_type", constStr "cv_observation"),
      ("message_id", identifier), ("produced_at", timestamp), ("tenant_id", scopedId),
      ("site_id", scopedId), ("camera_id", scopedId), ("pipeline_id", scopedId),
      ("frame_seq", count), ("window_ms", all [integer, minimum 1, maximum 60000]),
      ("counts", counts), ("demographics", demographics), ("attention", attention),
      ("quality", quality), ("privacy", privacy)]

def audienceStateSignal : Schema :=
  object
    ["schema_version", "message_type", "message_id", "produced_at", "tenant_id", "site_id",
      "camera_id", "state", "source_quality", "privacy"]
    [("schema_version", constStr "1.0.0"), ("message_type", constStr "audience_state_signal"),
      ("message_id", identifier), ("produced_at", timestamp), ("tenant_id", scopedId),
      ("site_id", scopedId), ("camera_id", scopedId),
      ("state", object ["presence", "stability"]
        [("presence", presence),
          ("stability", object ["state_stable", "freeze_decision"]
            [("state_stable", boolean), ("freeze_decision", boolean),
              ("demographics_suppressed", boolean), ("observations_in_window", count)]),
          ("attention", attention), ("demographics", demographics)]),
      ("source_quality", object ["signal_age_ms", "pipeline_degraded"]
        [("signal_age_ms", count), ("pipeline_degraded", boolean),
          ("observations_dropped", count)]),
      ("privacy", privacy)]

/-! ### The parts of an ICD-3 signal -/

def stability : Schema :=
  object ["state_stable", "freeze_decision"]
    [("state_stable", boolean), ("freeze_decision", boolean), ("demographics_suppressed", boolean),
      ("observations_in_window", count)]

def audienceState : Schema :=
  object ["presence", "stability"]
    [("presence", presence), ("stability", stability), ("attention", attention),
      ("demographics", demographics)]

def sourceQuality : Schema :=
  object ["signal_age_ms", "pipeline_degraded"]
    [("signal_age_ms", count), ("pipeline_degraded", boolean), ("observations_dropped", count)]

theorem signal_state {j : Json} (h : audienceStateSignal j = true) :
    ∃ state, j.get? "state" = some state ∧ audienceState state = true :=
  object_required h (k := "state") (s := audienceState) (by simp)
    (by simp [audienceState, stability])

theorem signal_sourceQuality {j : Json} (h : audienceStateSignal j = true) :
    ∃ q, j.get? "source_quality" = some q ∧ sourceQuality q = true :=
  object_required h (k := "source_quality") (s := sourceQuality) (by simp)
    (by simp [sourceQuality])

/-! ### ICD-4 -/

def commandTypes : List String := ["activate_creative", "freeze", "safe_mode", "clear_safe_mode"]

def activateCreativePayload : Schema :=
  object ["manifest_id", "min_dwell_ms"]
    [("manifest_id", identifier), ("min_dwell_ms", count), ("cooldown_ms", count),
      ("rationale", all [string, maxLength 500])]

def freezePayload : Schema :=
  object []
    [("reason",
      enumStr ["cv_degraded", "decision_degraded", "thermal_protection", "operator_override"])]

def safeModePayload : Schema :=
  object []
    [("reason", enumStr ["supervisor_escalation", "operator_manual", "boot_loop_protection"])]

/-- No payload is required by its `command_type`. -/
def playerCommand : Schema :=
  object ["schema_version", "command_id", "sequence_number", "produced_at", "command_type"]
    [("schema_version", constStr "1.0.0"), ("command_id", identifier),
      ("sequence_number", count), ("produced_at", timestamp),
      ("command_type", enumStr commandTypes), ("activate_creative", activateCreativePayload),
      ("freeze", freezePayload), ("safe_mode", safeModePayload)]

/-! ### ICD-5 -/

def manifestItem : Schema :=
  object ["item_id", "asset_id", "asset_type", "duration_ms"]
    [("item_id", identifier), ("asset_id", identifier),
      ("asset_type", enumStr ["video", "image", "html"]),
      ("duration_ms", all [integer, minimum 1000]), ("loop", boolean)]

def creativeManifest : Schema :=
  object ["schema_version", "manifest_id", "approved_at", "approved_by", "items"]
    [("schema_version", constStr "1.0.0"), ("manifest_id", identifier),
      ("approved_at", timestamp), ("approved_by", identifier), ("expires_at", timestamp),
      ("items", array manifestItem 1),
      ("policy", object []
        [("min_dwell_ms", count), ("cooldown_ms", count), ("allow_interruption", boolean)])]

/-! ### What valid members are -/

theorem identifier_iff {j : Json} :
    identifier j = true ↔ ∃ s, j = .str s ∧ 1 ≤ s.length ∧ s.length ≤ 128 := by
  cases j <;> simp [identifier, all, string, minLength, maxLength]

theorem identifier_str_iff (s : String) :
    identifier (.str s) = true ↔ 1 ≤ s.length ∧ s.length ≤ 128 := by
  simp [identifier_iff]

theorem identifier_uuid {s : String} (h : s.length = 36) : identifier (.str s) = true := by
  rw [identifier_str_iff, h]
  decide

theorem commandId_length : "0b9e0b7c-54a1-4d6c-9f0e-3a2b1c4d5e6f".length = 36 := by
  decide +kernel

theorem pilotId_length : "4f3a9c1e-2b7d-4e60-8a55-1c2d3e4f5a6b".length = 36 := by
  decide +kernel

theorem count_iff {j : Json} : count j = true ↔ ∃ n : ℕ, j = .int n := by
  refine ⟨fun h => ?_, fun h => ?_⟩
  · have hall := all_iff.mp h
    obtain ⟨n, rfl⟩ := integer_iff.mp (hall integer List.mem_cons_self)
    have hmin := hall (minimum 0) (by simp)
    have hn : (0 : ℚ) ≤ (n : ℚ) := by simpa [Json.int, minimum] using hmin
    have hn' : 0 ≤ n := Int.cast_nonneg_iff.mp hn
    exact ⟨n.toNat, by rw [Int.toNat_of_nonneg hn']⟩
  · obtain ⟨n, rfl⟩ := h
    refine all_iff.mpr fun s hs => ?_
    simp only [List.mem_cons, List.not_mem_nil, or_false] at hs
    rcases hs with rfl | rfl
    · exact integer_iff.mpr ⟨n, rfl⟩
    · simp [minimum, Json.int]

theorem count_int_iff (n : ℤ) : count (.int n) = true ↔ 0 ≤ n := by
  refine ⟨fun h => ?_, fun h => ?_⟩
  · obtain ⟨k, hk⟩ := count_iff.mp h
    have hcast : (Json.int n).asInt? = (Json.int k).asInt? := by rw [hk]
    have hn : n = k := by simpa using hcast
    omega
  · exact count_iff.mpr ⟨n.toNat, by rw [Int.toNat_of_nonneg h]⟩

theorem fraction_iff {j : Json} :
    fraction j = true ↔ ∃ q : ℚ, j = .num q ∧ 0 ≤ q ∧ q ≤ 1 ∨
    j = .nonfinite .nan := by
  cases j with
  | nonfinite x => cases x <;> simp [fraction, all, number, minimum, maximum]
  | num q => simp [fraction, all, number, minimum, maximum]
  | null => simp [fraction, all, number]
  | bool b => simp [fraction, all, number]
  | str s => simp [fraction, all, number]
  | arr xs => simp [fraction, all, number]
  | obj ms => simp [fraction, all, number]

theorem timestamp_iff {j : Json} : timestamp j = true ↔ ∃ s, j = .str s := string_iff

end AdaptiveAdvertisement.Contracts
