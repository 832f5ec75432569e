import AdaptiveAdvertisement.AudienceState.WindowQueries

/-!
# The signal publisher (`audience_state/signal_publisher.py`)

`build_signal` 67-123: an ICD-3 signal from five queries of the window, each of which prunes it
again. `SourceIds` are the configured ids, a `SignalStamp` is what the publisher draws:
`str(uuid4())` and the clock.
-/

namespace AdaptiveAdvertisement.AudienceState
open Library Contracts

structure SourceIds where
  tenantId : String
  siteId : String
  cameraId : String
  tenantId_valid : scopedId (.str tenantId) = true
  siteId_valid : scopedId (.str siteId) = true
  cameraId_valid : scopedId (.str cameraId) = true

structure SignalStamp where
  messageId : String
  producedAt : String
  uuid_length : messageId.length = 36

/-- The readings of the monotonic clock, in the order in which `build_signal` takes them. -/
structure SignalClock where
  state : ℚ
  agePrune : ℚ
  age : ℚ
  degraded : ℚ
  demographics : ℚ
  attention : ℚ

def SignalClock.readings (t : SignalClock) : List ℚ :=
  [t.state, t.agePrune, t.age, t.degraded, t.demographics, t.attention]

def SignalClock.at (now : ℚ) : SignalClock := ⟨now, now, now, now, now, now⟩

structure SignalPublisher where
  published : ℕ := 0
  validationFailures : ℕ := 0

def signal (ids : SourceIds) (stamp : SignalStamp) (state : List (String × Json)) (ageMs : ℤ)
    (degraded : Bool) (demog attn : Option Json) : Json :=
  .obj [("schema_version", .str "1.0.0"), ("message_type", .str "audience_state_signal"),
    ("message_id", .str stamp.messageId), ("produced_at", .str stamp.producedAt),
    ("tenant_id", .str ids.tenantId), ("site_id", .str ids.siteId),
    ("camera_id", .str ids.cameraId),
    ("state", .obj (state ++ entry "demographics" demog ++ entry "attention" attn)),
    ("source_quality", .obj [("signal_age_ms", .int ageMs), ("pipeline_degraded", .bool degraded),
      ("observations_dropped", .int 0)]),
    ("privacy", .obj [("contains_images", .bool false), ("contains_frame_urls", .bool false),
      ("contains_face_embeddings", .bool false)])]

namespace SignalPublisher

def buildSignal (p : SignalPublisher) (ids : SourceIds) (w : ObservationWindow) (t : SignalClock)
    (stamp : SignalStamp) : SignalPublisher × ObservationWindow × Option Json :=
  let (w, state) := w.computeState t.state
  match state with
  | none => (p, w, none)
  | some state =>
    let (w, ageMs) := w.newestObservationAgeMs t.agePrune t.age
    let (w, degraded) := w.anyPipelineDegraded t.degraded
    let (w, demog) := w.computeDemographics t.demographics
    let (w, attn) := w.computeAttention t.attention
    let msg := signal ids stamp state (ageMs.getD 0) degraded demog attn
    if audienceStateSignal msg then (p, w, some msg)
    else ({ p with validationFailures := p.validationFailures + 1 }, w, none)

end SignalPublisher

end AdaptiveAdvertisement.AudienceState
