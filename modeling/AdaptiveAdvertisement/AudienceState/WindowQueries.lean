import AdaptiveAdvertisement.AudienceState.ObservationStore
import AdaptiveAdvertisement.ContractValues

/-!
# What the window answers (`audience_state/observation_store.py`)

A query prunes the window by a reading of the clock, and computes its answer from the
observations that are left, in the order in which they came. They are validated, so no lookup of
a required member fails.

Source lines: `compute_state` 80-117, `compute_demographics` 119-211, `compute_attention` 213-241,
`newest_observation_age_ms` 243-251, `any_pipeline_degraded` 253-258.
-/

namespace AdaptiveAdvertisement.AudienceState
open Library Contracts

abbrev Observation := Valid cvObservation

namespace Observation

variable (o : Observation)

def counts : Valid Contracts.counts := o.get "counts" (by simp) (by simp)

def quality : Valid Contracts.quality := o.get "quality" (by simp) (by simp)

def demographics : Option (Valid Contracts.demographics) := o.get? "demographics" (by simp)

def attention : Option (Valid Contracts.attention) := o.get? "attention" (by simp)

def present : ℤ := countValue (o.counts.get "present" (by simp) (by simp))

def confidence : Number := fractionValue (o.counts.get "confidence" (by simp) (by simp))

def pipelineDegraded : Bool :=
  ((o.quality.get? "pipeline_degraded" (s := Schema.boolean) (by simp)).map flagValue).getD false

end Observation

theorem confidence_within (o : Observation) : o.confidence.Within 0 1 := fractionValue_within _

/-! ### Averages -/

section Averages

variable (av : Averages)

/-- The average of a bin, where every observation has it. -/
def smooth (values : List (Option Number)) : Option Number :=
  if values.any Option.isNone then none
  else some (av.roundTo 4 (av.mean (values.filterMap id)))

def smoothBins (values : String → List (Option Number)) (names : List String) :
    Option (List (String × Json)) :=
  if names.any fun n => (smooth av (values n)).isNone then none
  else some (names.filterMap fun n => (smooth av (values n)).map fun x => (n, x.toJson))

def binValues {names : List String} (blocks : List (Option (Valid (bins names)))) (name : String) :
    List (Option Number) :=
  blocks.map fun b => b.bind fun b => bin b name

def optionalBins {names : List String} (blocks : List (Option (Valid (bins names)))) :
    Option (List (String × Json)) :=
  if blocks.any Option.isNone then none else smoothBins av (binValues blocks) names

end Averages

/-! ### The state -/

def anyPipelineDegraded (os : List Observation) : Bool := os.any Observation.pipelineDegraded

def smoothedCount (os : List Observation) : ℤ :=
  roundEven (((os.map Observation.present).sum : ℚ) / os.length)

def meanConfidence (config : WindowConfig) (os : List Observation) : Number :=
  config.averages.mean (os.map Observation.confidence)

def smoothedConfidence (config : WindowConfig) (os : List Observation) : Number :=
  config.averages.roundTo 4 (meanConfidence config os)

/-- The members of the state block. -/
def stateOf (config : WindowConfig) (os : List Observation) : Option (List (String × Json)) :=
  if os.isEmpty then none
  else
    let stateStable := decide (config.minStability ≤ os.length)
    let freezeDecision := !stateStable ||
      (smoothedConfidence config os).below config.confThreshold || anyPipelineDegraded os
    some [("presence", .obj [("count", .int (smoothedCount os)),
        ("confidence", (smoothedConfidence config os).toJson)]),
      ("stability", .obj [("state_stable", .bool stateStable),
        ("freeze_decision", .bool freezeDecision),
        ("observations_in_window", .int os.length)])]

/-! ### Demographics and attention -/

def suppressedBlock : Json := .obj [("suppressed", .bool true)]

def entry (key : String) (v : Option Json) : List (String × Json) :=
  (v.map fun v => (key, v)).toList

def releasedBlock (av : Averages) (ages : List (String × Json))
    (ds : List (Valid Contracts.demographics)) : Json :=
  .obj ([("age_group", .obj ages), ("suppressed", .bool false)] ++
    entry "gender" ((optionalBins av (ds.map gender)).map Json.obj) ++
    entry "attire" ((optionalBins av (ds.map attire)).map Json.obj) ++
    entry "dwell_estimate_ms" ((ds.getLast?.bind dwellEstimateMs).map Json.int))

def demographicsOf (config : WindowConfig) (os : List Observation) : Option Json :=
  let ds := os.filterMap Observation.demographics
  if os.isEmpty then none
  else if ds.isEmpty then none
  else if ds.length < os.length then some suppressedBlock
  else if (meanConfidence config os).below config.confThreshold then some suppressedBlock
  else
    match smoothBins config.averages (binValues (ds.map ageGroup)) ageBins with
    | none => some suppressedBlock
    | some ages => some (releasedBlock config.averages ages ds)

/-- The average of a field over the observations that have it. -/
def attentionField (av : Averages) (as : List (Valid Contracts.attention)) (field : String) :
    Option Json :=
  let present := (as.map fun a => bin a field).filterMap id
  if present.isEmpty then none else some (av.roundTo 4 (av.mean present)).toJson

def attentionOf (av : Averages) (os : List Observation) : Option Json :=
  let as := os.filterMap Observation.attention
  if as.isEmpty then none
  else
    let fields := ["engaged", "ambient"].flatMap fun f => entry f (attentionField av as f)
    if fields.isEmpty then none else some (.obj fields)

/-! ### The queries -/

namespace ObservationWindow

variable (w : ObservationWindow) (now : ℚ)

def data : List Observation := w.observations.map Stored.data

def computeState : ObservationWindow × Option (List (String × Json)) :=
  (w.prune now, stateOf w.config (w.prune now).data)

def computeDemographics : ObservationWindow × Option Json :=
  (w.prune now, demographicsOf w.config (w.prune now).data)

def computeAttention : ObservationWindow × Option Json :=
  (w.prune now, attentionOf w.config.averages (w.prune now).data)

/-- `now` is the reading of `_prune`, `read` the one that the age is taken by. -/
def newestObservationAgeMs (read : ℚ) : ObservationWindow × Option ℤ :=
  (w.prune now, (w.prune now).observations.getLast?.map fun o =>
    truncate ((read - o.receivedAt) * 1000))

def anyPipelineDegraded : ObservationWindow × Bool :=
  (w.prune now, AudienceState.anyPipelineDegraded (w.prune now).data)

end ObservationWindow

end AdaptiveAdvertisement.AudienceState
