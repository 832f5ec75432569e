import AdaptiveAdvertisement.Contracts
import Mathlib.Data.List.Sort

/-!
# ICD-2 observations (`input_cv/observation/models.py`, `builder.py`)

The pydantic models carry their field constraints, so a value that the model classes refuse
cannot be built. Raw metadata is a dictionary of JSON-like values. What pydantic accepts in
place of a number or a flag, and how `int()` and `float()` read a string, is a parameter. A
`Stamp` is what the model class draws by itself: `str(uuid4())` and the clock.

Source lines: the models `models.py:50-140`, `checkBannedKeys` `builder.py:35-47`,
`build_observation` 50-111 with its blocks as `buildCounts`, `buildQuality`, `parseDemographics`
and `parseAttention`.
-/

namespace AdaptiveAdvertisement.InputCv
open Library

inductive PyFloat where
  | finite (q : ℚ)
  | nonfinite (x : Nonfinite)
  deriving DecidableEq

/-- `Field(ge=0.0, le=1.0)`, which pydantic refuses to a nan as to an infinity. -/
def PyFloat.inUnit : PyFloat → Bool
  | .finite q => decide (0 ≤ q ∧ q ≤ 1)
  | .nonfinite _ => false

def PyFloat.dump : PyFloat → Json
  | .finite q => .num q
  | .nonfinite _ => .null

structure Conversions where
  parseInt : String → Option ℤ
  parseFloat : String → Option PyFloat
  laxInt : Json → Option ℤ
  laxFloat : Json → Option PyFloat
  laxBool : Json → Option Bool

def pyInt (cv : Conversions) : Json → Except Raised ℤ
  | .bool b => .ok (if b then 1 else 0)
  | .num q => .ok (truncate q)
  | .nonfinite x => .error (if x = .nan then .valueError else .overflowError)
  | .str s => (cv.parseInt s).elim (.error .valueError) .ok
  | .null => .error .typeError
  | .arr _ => .error .typeError
  | .obj _ => .error .typeError

/-- `float(v)`. An integer beyond the floats, where the code raises `OverflowError`, is refused
by the range of the field it goes to. -/
def pyFloat (cv : Conversions) : Json → Except Raised PyFloat
  | .bool b => .ok (.finite (if b then 1 else 0))
  | .num q => .ok (.finite q)
  | .nonfinite x => .ok (.nonfinite x)
  | .str s => (cv.parseFloat s).elim (.error .valueError) .ok
  | .null => .error .typeError
  | .arr _ => .error .typeError
  | .obj _ => .error .typeError

def pyGet (j : Json) (key : String) : Except Raised Json :=
  match j with
  | .obj ms => .ok ((Dict.find key ms).getD .null)
  | _ => .error .attributeError

/-! ### The models -/

inductive BuildError where
  | privacyViolation (found : List String)
  | uncaught (e : Raised)
  | validation
  deriving DecidableEq

structure ObservationCounts where
  present : ℤ
  confidence : PyFloat
  present_nonneg : 0 ≤ present
  confidence_inUnit : confidence.inUnit = true

structure ObservationAttention where
  engaged : Option PyFloat
  ambient : Option PyFloat
  engaged_inUnit : ∀ x ∈ engaged, x.inUnit = true
  ambient_inUnit : ∀ x ∈ ambient, x.inUnit = true

/-- The bins are any names with any floats: the model class declares neither. -/
structure ObservationDemographics where
  ageGroup : Option (Dict String PyFloat)
  gender : Option (Dict String PyFloat)
  attire : Option (Dict String PyFloat)
  dwellEstimateMs : Option ℤ
  suppressed : Option Bool
  dwell_nonneg : ∀ d ∈ dwellEstimateMs, 0 ≤ d

structure ObservationPrivacy where
  containsImages : Bool := false
  containsFrameUrls : Bool := false
  containsFaceEmbeddings : Bool := false
  all_false : containsImages = false ∧ containsFrameUrls = false ∧
    containsFaceEmbeddings = false :=
    by decide

structure Quality where
  framesProcessed : ℤ
  framesDropped : ℤ
  pipelineDegraded : Option Bool

structure ObservationContext where
  tenantId : String
  siteId : String
  cameraId : String
  pipelineId : String

def ObservationContext.ids (c : ObservationContext) : List String :=
  [c.tenantId, c.siteId, c.cameraId, c.pipelineId]

structure Stamp where
  messageId : String
  producedAt : String
  uuid_length : messageId.length = 36

structure CvObservation where
  schemaVersion : String := "1.0.0"
  messageType : String := "cv_observation"
  stamp : Stamp
  context : ObservationContext
  frameSeq : ℤ
  windowMs : ℤ := 100
  counts : ObservationCounts
  demographics : Option ObservationDemographics
  attention : Option ObservationAttention
  quality : Quality
  privacy : ObservationPrivacy := {}
  ids_nonempty : ∀ id ∈ context.ids, 1 ≤ id.length
  frameSeq_nonneg : 0 ≤ frameSeq

/-! ### Serialisation -/

def ObservationCounts.dump (c : ObservationCounts) : Json :=
  .obj [("present", .int c.present), ("confidence", c.confidence.dump)]

def ObservationAttention.dump (a : ObservationAttention) : Json :=
  .obj [("engaged", .ofOption PyFloat.dump a.engaged),
    ("ambient", .ofOption PyFloat.dump a.ambient)]

def dumpBins (d : Dict String PyFloat) : Json := .obj (d.entries.map fun e => (e.1, e.2.dump))

def ObservationDemographics.dump (d : ObservationDemographics) : Json :=
  .obj [("age_group", .ofOption dumpBins d.ageGroup), ("gender", .ofOption dumpBins d.gender),
    ("attire", .ofOption dumpBins d.attire),
    ("dwell_estimate_ms", .ofOption Json.int d.dwellEstimateMs),
    ("suppressed", .ofOption Json.bool d.suppressed)]

def Quality.dump (q : Quality) : Json :=
  .obj ([("frames_processed", .int q.framesProcessed), ("frames_dropped", .int q.framesDropped)] ++
    (q.pipelineDegraded.map fun b => ("pipeline_degraded", Json.bool b)).toList)

def ObservationPrivacy.dump (p : ObservationPrivacy) : Json :=
  .obj [("contains_images", .bool p.containsImages),
    ("contains_frame_urls", .bool p.containsFrameUrls),
    ("contains_face_embeddings", .bool p.containsFaceEmbeddings)]

/-- `model_dump_json`: every field is emitted, an absent block as `null`. -/
def CvObservation.dump (o : CvObservation) : Json :=
  .obj [("schema_version", .str o.schemaVersion), ("message_type", .str o.messageType),
    ("message_id", .str o.stamp.messageId), ("produced_at", .str o.stamp.producedAt),
    ("tenant_id", .str o.context.tenantId), ("site_id", .str o.context.siteId),
    ("camera_id", .str o.context.cameraId), ("pipeline_id", .str o.context.pipelineId),
    ("frame_seq", .int o.frameSeq), ("window_ms", .int o.windowMs), ("counts", o.counts.dump),
    ("demographics", .ofOption ObservationDemographics.dump o.demographics),
    ("attention", .ofOption ObservationAttention.dump o.attention),
    ("quality", o.quality.dump), ("privacy", o.privacy.dump)]

def CvObservation.toJsonBytes {τ : Type} (cd : Codec τ) (o : CvObservation) : τ :=
  cd.dumps o.dump

/-! ### The builder -/

abbrev RawMeta := Dict String Json

def bannedMetadataKeys : List String :=
  ["frame", "image", "pixels", "pixel", "base64", "embedding", "embeddings", "face", "faces",
    "raw", "blob", "jpeg", "png", "thumbnail", "snapshot", "frame_url", "video", "clip"]

def checkBannedKeys (raw : RawMeta) : Except BuildError Unit :=
  let found := raw.keys.filter fun k => decide (k ∈ bannedMetadataKeys)
  if found.isEmpty then .ok ()
  else .error (.privacyViolation (found.insertionSort fun a b => a ≤ b))

def intOr (cv : Conversions) (raw : RawMeta) (key : String) (default : ℤ) :
    Except BuildError ℤ :=
  (pyInt cv ((raw.get key).getD (.int default))).mapError .uncaught

def floatOr (cv : Conversions) (raw : RawMeta) (key : String) (default : ℚ) :
    Except BuildError PyFloat :=
  (pyFloat cv ((raw.get key).getD (.num default))).mapError .uncaught

def optional {α : Type} (convert : Json → Option α) : Json → Except BuildError (Option α)
  | .null => .ok none
  | v => match convert v with
    | some a => .ok (some a)
    | none => .error .validation

def laxBins (cv : Conversions) : Json → Option (Dict String PyFloat)
  | .obj ms => (Dict.ofList ms).traverse cv.laxFloat
  | _ => none

def member (j : Json) (key : String) : Except BuildError Json := (pyGet j key).mapError .uncaught

def buildCounts (cv : Conversions) (raw : RawMeta) : Except BuildError ObservationCounts := do
  let present ← intOr cv raw "person_count" 0
  let confidence ← floatOr cv raw "confidence_mean" 0
  if h : 0 ≤ present ∧ confidence.inUnit = true then
    .ok ⟨present, confidence, h.1, h.2⟩
  else .error .validation

def buildQuality (cv : Conversions) (raw : RawMeta) : Except BuildError Quality := do
  let framesProcessed ← intOr cv raw "frames_processed" 1
  let framesDropped ← intOr cv raw "frames_dropped" 0
  return ⟨framesProcessed, framesDropped, (raw.get "pipeline_degraded").map Json.truthy⟩

def parseDemographics (cv : Conversions) (rawDemog : Json) :
    Except BuildError ObservationDemographics := do
  let ageGroup ← (member rawDemog "age_group").bind (optional (laxBins cv))
  let gender ← (member rawDemog "gender").bind (optional (laxBins cv))
  let attire ← (member rawDemog "attire").bind (optional (laxBins cv))
  let dwell ← (member rawDemog "dwell_estimate_ms").bind (optional cv.laxInt)
  let suppressed ← (member rawDemog "suppressed").bind (optional cv.laxBool)
  if h : ∀ d ∈ dwell, 0 ≤ d then .ok ⟨ageGroup, gender, attire, dwell, suppressed, h⟩
  else .error .validation

def parseAttention (cv : Conversions) (rawAttn : Json) :
    Except BuildError ObservationAttention := do
  let engaged ← (member rawAttn "engaged").bind (optional cv.laxFloat)
  let ambient ← (member rawAttn "ambient").bind (optional cv.laxFloat)
  if h : (∀ x ∈ engaged, x.inUnit = true) ∧ ∀ x ∈ ambient, x.inUnit = true then
    .ok ⟨engaged, ambient, h.1, h.2⟩
  else .error .validation

def block {α : Type} (parse : Json → Except BuildError α) (raw : RawMeta) (key : String) :
    Except BuildError (Option α) :=
  match raw.get key with
  | none => .ok none
  | some v => (parse v).map some

def buildObservation (cv : Conversions) (stamp : Stamp) (raw : RawMeta)
    (context : ObservationContext) : Except BuildError CvObservation := do
  checkBannedKeys raw
  let counts ← buildCounts cv raw
  let quality ← buildQuality cv raw
  let demographics ← block (parseDemographics cv) raw "demographics"
  let attention ← block (parseAttention cv) raw "attention"
  let frameSeq ← intOr cv raw "frame_seq" 0
  if h : (∀ id ∈ context.ids, 1 ≤ id.length) ∧ 0 ≤ frameSeq then
    .ok { stamp, context, frameSeq, counts, demographics, attention, quality,
          ids_nonempty := h.1, frameSeq_nonneg := h.2 }
  else .error .validation

end AdaptiveAdvertisement.InputCv
