import AdaptiveAdvertisement.Library.Json

/-!
# Manifest records of the dashboard (`dashboard_api/models.py`, `schemas.py`, `events.py`)

The row of a manifest (`models.py:63-106`) and an audit event (`models.py:243-256`), both
without the surrogate key and the times of writing; the lifecycle states with
`_VALID_TRANSITIONS` (`routers/manifests.py:55-62`); the audience-tag taxonomy with
`_validate_audience_tags` (`schemas.py:39-50`). Instants are seconds.
-/

namespace AdaptiveAdvertisement.Dashboard
open Library

inductive ManifestStatus where
  | draft
  | approved
  | rejected
  | enabled
  | disabled
  | archived
  deriving DecidableEq

def ManifestStatus.value : ManifestStatus → String
  | .draft => "draft"
  | .approved => "approved"
  | .rejected => "rejected"
  | .enabled => "enabled"
  | .disabled => "disabled"
  | .archived => "archived"

def validTransitions : ManifestStatus → List ManifestStatus
  | .draft => [.approved, .rejected, .archived]
  | .approved => [.enabled, .rejected, .archived]
  | .rejected => [.approved, .archived]
  | .enabled => [.disabled, .archived]
  | .disabled => [.enabled, .archived]
  | .archived => []

def canTransition (current target : ManifestStatus) : Bool :=
  decide (target ∈ validTransitions current)

structure Manifest where
  manifestId : String
  title : String
  status : ManifestStatus := .draft
  schemaVersion : String
  manifestJson : Json
  audienceTags : List String := []
  rejectionReason : Option String := none
  approvedBy : Option String := none
  approvedAt : Option ℚ := none
  enabledAt : Option ℚ := none

structure AuditEvent where
  eventType : String
  entityType : String
  entityId : String
  actor : String := "operator"
  payload : Json

def ofStrings (xs : List String) : Json := .arr (xs.map Json.str)

/-! ### The tag taxonomy (`rule_generator.py:56-101`) -/

def audienceTagSet : List String :=
  ["attract", "general", "solo_adult", "group_adults", "adult_with_child", "teenager_group",
    "seniors", "male_focus", "female_focus", "attire_formal", "attire_business_casual",
    "attire_casual", "attire_athletic", "attire_outdoor_technical", "attire_workwear_uniform",
    "attire_streetwear", "attire_luxury_premium", "attire_lounge_comfort",
    "attire_smart_occasion"]

def timeTagSet : List String :=
  ["time_morning", "time_lunch", "time_afternoon", "time_happy_hour", "time_evening",
    "time_late_night", "time_all_day"]

def occasionTagSet : List String := ["promo_featured", "promo_limited_time", "promo_seasonal"]

def frequencyTagSet : List String := ["freq_primary", "freq_recurring", "freq_ambient"]

def allValidTags : List String :=
  audienceTagSet ++ timeTagSet ++ occasionTagSet ++ frequencyTagSet

def validAudienceTags (tags : List String) : Bool :=
  tags.all (fun t => decide (t ∈ allValidTags)) && decide tags.Nodup

/-! ### Request bodies (`schemas.py:53-85`, `144-150`) -/

structure ManifestIn where
  manifestId : String
  title : String
  schemaVersion : String := "1.0.0"
  manifestJson : Json
  audienceTags : List String := []

structure ApproveRequest where
  approvedBy : String := "operator"

structure RejectRequest where
  reason : String
  rejectedBy : String := "operator"

def lengthIn (lo hi : ℕ) (s : String) : Bool :=
  decide (lo ≤ s.length) && decide (s.length ≤ hi)

def ManifestIn.valid (b : ManifestIn) : Bool :=
  lengthIn 1 128 b.manifestId && lengthIn 1 255 b.title && b.manifestJson.isObj &&
    validAudienceTags b.audienceTags

def ApproveRequest.valid (b : ApproveRequest) : Bool := lengthIn 0 128 b.approvedBy

def RejectRequest.valid (b : RejectRequest) : Bool :=
  lengthIn 1 1024 b.reason && lengthIn 0 128 b.rejectedBy

end AdaptiveAdvertisement.Dashboard
