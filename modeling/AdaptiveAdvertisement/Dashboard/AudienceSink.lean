import AdaptiveAdvertisement.DecisionOptimizer.Policy
import AdaptiveAdvertisement.Player.ManifestStore
import Mathlib.Data.List.MinMax

/-!
# Audience snapshots and the live view (`audience_sink.py`, `routers/system.py`)

`_parse_snapshot` 32-95 makes a row of `audience_snapshots` (`models.py:262-302`, without its key)
of an ICD-3 message; `get_live_status` 310-346 builds the CV part of the live view
(`schemas.py:335-354`) of the latest row. A column that is NULL is `null`. A time without a zone is
read as UTC, as the view reads it.
-/

namespace AdaptiveAdvertisement.Dashboard
open Library Contracts
open DecisionOptimizer (memberOr)
open Player (withUtcOffset)

structure AudienceSnapshot where
  sampledAt : ℚ
  presenceCount : ℤ
  presenceConfidence : Number
  stateStable : Bool
  pipelineDegraded : Bool
  demographicsSuppressed : Json
  ageGroup : List (String × Json)
  gender : List (String × Json)
  attire : List (String × Json)
  attentionEngaged : Option Number

structure SinkRuntime (τ : Type) extends Codec τ where
  texts : Number.Texts
  fromisoformat : String → Option ℚ

/-! ### Parsing -/

def privacyViolated (msg : Json) : Except Raised Bool := do
  let privacy ← memberOr msg "privacy" (.obj [])
  let images ← memberOr privacy "contains_images" (.bool false)
  let frameUrls ← memberOr privacy "contains_frame_urls" (.bool false)
  let faceEmbeddings ← memberOr privacy "contains_face_embeddings" (.bool false)
  return images.truthy || frameUrls.truthy || faceEmbeddings.truthy

def releasedBins (demographics suppressed : Json) (key : String) : Except Raised Json :=
  if suppressed.truthy then .ok (.obj []) else memberOr demographics key (.obj [])

def binColumn (block : Json) (name : String) : Except Raised (String × Json) :=
  if block.truthy then (memberOr block name .null).map fun v => (name, v) else .ok (name, .null)

def binColumns (names : List String) (block : Json) : Except Raised (List (String × Json)) :=
  names.mapM (binColumn block)

def readEngaged (texts : Number.Texts) : Json → Except Raised (Option Number)
  | .null => .ok none
  | v => (Number.toFloat texts v).map some

/-- The errors that drop the message; any other leaves the sink. -/
def malformed : Raised → Bool
  | .keyError _ => true
  | .typeError => true
  | .valueError => true
  | .attributeError => false
  | .overflowError => false
  | .loadError => false

namespace SinkRuntime

variable {τ : Type} (rt : SinkRuntime τ)

def readTime : Json → Except Raised ℚ
  | .str s => (rt.fromisoformat (withUtcOffset s)).elim (.error .valueError) .ok
  | _ => .error .attributeError

def readSnapshot (msg : Json) : Except Raised AudienceSnapshot := do
  let state ← index msg "state"
  let presence ← index state "presence"
  let stability ← memberOr state "stability" (.obj [])
  let sourceQuality ← memberOr msg "source_quality" (.obj [])
  let sampledAt ← (memberOr msg "produced_at" (.str "")).bind rt.readTime
  let demographics ← memberOr state "demographics" (.obj [])
  let suppressed ← memberOr demographics "suppressed" (.bool true)
  let ageGroups ← releasedBins demographics suppressed "age_group"
  let genderBlock ← releasedBins demographics suppressed "gender"
  let attireBlock ← releasedBins demographics suppressed "attire"
  let attention ← memberOr state "attention" .null
  let engaged ← memberOr (if attention.truthy then attention else .obj []) "engaged" .null
  let count ← (index presence "count").bind (Number.toInt rt.texts)
  let confidence ← (index presence "confidence").bind (Number.toFloat rt.texts)
  let stateStable ← memberOr stability "state_stable" (.bool false)
  let degraded ← memberOr sourceQuality "pipeline_degraded" (.bool false)
  let ages ← binColumns ageBins ageGroups
  let genders ← binColumns genderBins genderBlock
  let attires ← binColumns attireBins attireBlock
  let attentionEngaged ← readEngaged rt.texts engaged
  return {
    sampledAt := sampledAt
    presenceCount := count
    presenceConfidence := confidence
    stateStable := stateStable.truthy
    pipelineDegraded := degraded.truthy
    demographicsSuppressed := suppressed
    ageGroup := ages
    gender := genders
    attire := attires
    attentionEngaged := attentionEngaged }

/-- `_parse_snapshot`: `none` where the message is dropped. -/
def parseSnapshot (raw : τ) : Except Raised (Option AudienceSnapshot) :=
  match rt.loads raw with
  | .decodeError => .ok none
  | .unicodeError => .ok none
  | .raised => .error .loadError
  | .value msg =>
    match privacyViolated msg with
    | .error e => .error e
    | .ok true => .ok none
    | .ok false =>
      match rt.readSnapshot msg with
      | .ok snapshot => .ok (some snapshot)
      | .error e => if malformed e then .ok none else .error e

end SinkRuntime

/-! ### The live view -/

structure DemographicsLiveOut where
  ageGroup : Option (List (String × Json)) := none
  attire : Option (List (String × Json)) := none
  suppressed : Bool

structure CvLiveOut where
  available : Bool
  count : Option ℤ := none
  confidence : Option Number := none
  fps : Option Number := none
  inferenceMs : Option Number := none
  signalAgeMs : Option ℤ := none
  stateStable : Option Bool := none
  freezeDecision : Option Bool := none
  demographics : Option DemographicsLiveOut := none

def cvStaleThresholdMs : ℤ := 30000

def notNull : Json → Bool
  | .null => false
  | _ => true

def AudienceSnapshot.liveAgeGroup (snapshot : AudienceSnapshot) : Option (List (String × Json)) :=
  if snapshot.demographicsSuppressed.truthy then none
  else
    let ages := snapshot.ageGroup.filter fun e => notNull e.2
    if ages.isEmpty then none else some ages

def AudienceSnapshot.ageMs (snapshot : AudienceSnapshot) (now : ℚ) : ℤ :=
  truncate ((now - snapshot.sampledAt) * 1000)

def cvLive (now : ℚ) : Option AudienceSnapshot → CvLiveOut
  | none => { available := false }
  | some snapshot =>
    { available := decide (snapshot.ageMs now < cvStaleThresholdMs)
      count := some snapshot.presenceCount
      confidence := some snapshot.presenceConfidence
      signalAgeMs := some (snapshot.ageMs now)
      stateStable := some snapshot.stateStable
      freezeDecision := some !snapshot.stateStable
      demographics := some
        { ageGroup := snapshot.liveAgeGroup
          suppressed := snapshot.demographicsSuppressed.truthy } }

/-- How the database answers a query for the latest row: equally late ones in any order. -/
structure LatestQuery where
  pick : List AudienceSnapshot → Option AudienceSnapshot
  mem : ∀ rows row, pick rows = some row → row ∈ rows
  latest : ∀ rows row, pick rows = some row → ∀ other ∈ rows,
    other.sampledAt ≤ row.sampledAt
  answers : ∀ rows, pick rows = none → rows = []

def getLiveCv (query : LatestQuery) (now : ℚ) (rows : List AudienceSnapshot) : CvLiveOut :=
  cvLive now (query.pick rows)

/-! ### What a row was read from -/

section Reading

variable {τ : Type} {rt : SinkRuntime τ} {msg state : Json} {row : AudienceSnapshot}

theorem memberOr_of_get? {j v : Json} {key : String} (default : Json) (h : j.get? key = some v) :
    memberOr j key default = .ok v := by
  obtain ⟨ms, rfl, hfind⟩ := Json.obj_of_get? h
  simp [memberOr, hfind]

theorem memberOr_of_isObj {j : Json} (h : j.isObj = true) (key : String)
    (default : Json) :
    memberOr j key default = .ok ((j.get? key).getD default) := by
  cases j <;> first | rfl | cases h

theorem memberOr_of_not_isObj {j : Json} (h : j.isObj = false) (key : String) (default : Json) :
    memberOr j key default = .error .attributeError := by
  cases j <;> first | rfl | cases h

theorem memberOr_ok {j v default : Json} {key : String}
    (h : memberOr j key default = .ok v) :
    j.isObj = true ∧ v = (j.get? key).getD default := by
  cases hobj : j.isObj with
  | true =>
    rw [memberOr_of_isObj hobj] at h
    exact ⟨rfl, (Except.ok.inj h).symm⟩
  | false =>
    rw [memberOr_of_not_isObj hobj] at h
    cases h

theorem parseSnapshot_read (h : rt.parseSnapshot (rt.dumps msg) = .ok (some row)) :
    rt.readSnapshot msg = .ok row := by
  simp only [SinkRuntime.parseSnapshot, rt.loads_dumps] at h
  cases hprivacy : privacyViolated msg with
  | error e => simp [hprivacy] at h
  | ok violated =>
    cases violated with
    | true => simp [hprivacy] at h
    | false =>
      cases hread : rt.readSnapshot msg with
      | ok snapshot => simpa [hprivacy, hread] using h
      | error e =>
        simp only [hprivacy, hread] at h
        split_ifs at h
        simp at h

/-- Where the columns of a row come from. -/
structure ReadFrom (rt : SinkRuntime τ) (msg : Json) (row : AudienceSnapshot)
    (s presence stability block : Json) : Prop where
  state : index msg "state" = .ok s
  present : index s "presence" = .ok presence
  stabilized : memberOr s "stability" (.obj []) = .ok stability
  demographics : memberOr s "demographics" (.obj []) = .ok block
  suppressed : memberOr block "suppressed" (.bool true) = .ok row.demographicsSuppressed
  count : (index presence "count").bind (Number.toInt rt.texts) = .ok row.presenceCount
  confidence : (index presence "confidence").bind (Number.toFloat rt.texts) =
    .ok row.presenceConfidence
  stable : (memberOr stability "state_stable" (.bool false)).map Json.truthy = .ok row.stateStable
  ages : (releasedBins block row.demographicsSuppressed "age_group").bind
    (binColumns ageBins) = .ok row.ageGroup
  genders : (releasedBins block row.demographicsSuppressed "gender").bind
    (binColumns genderBins) = .ok row.gender
  attires : (releasedBins block row.demographicsSuppressed "attire").bind
    (binColumns attireBins) = .ok row.attire

theorem readSnapshot_inv (h : rt.readSnapshot msg = .ok row) :
    ∃ state presence stability block, ReadFrom rt msg row state presence stability block := by
  unfold SinkRuntime.readSnapshot at h
  obtain ⟨state, hstate, h⟩ := bind_ok h
  obtain ⟨presence, hpresence, h⟩ := bind_ok h
  obtain ⟨stability, hstability, h⟩ := bind_ok h
  obtain ⟨sourceQuality, -, h⟩ := bind_ok h
  obtain ⟨sampledAt, -, h⟩ := bind_ok h
  obtain ⟨demographics, hdemographics, h⟩ := bind_ok h
  obtain ⟨suppressed, hsuppressed, h⟩ := bind_ok h
  obtain ⟨ageGroups, hageGroups, h⟩ := bind_ok h
  obtain ⟨genderBlock, hgenderBlock, h⟩ := bind_ok h
  obtain ⟨attireBlock, hattireBlock, h⟩ := bind_ok h
  obtain ⟨attention, -, h⟩ := bind_ok h
  obtain ⟨engaged, -, h⟩ := bind_ok h
  obtain ⟨count, hcount, h⟩ := bind_ok h
  obtain ⟨confidence, hconfidence, h⟩ := bind_ok h
  obtain ⟨stable, hstable, h⟩ := bind_ok h
  obtain ⟨degraded, -, h⟩ := bind_ok h
  obtain ⟨ages, hages, h⟩ := bind_ok h
  obtain ⟨genders, hgenders, h⟩ := bind_ok h
  obtain ⟨attires, hattires, h⟩ := bind_ok h
  obtain ⟨attentionEngaged, -, h⟩ := bind_ok h
  obtain rfl := Except.ok.inj h
  exact ⟨state, presence, stability, demographics,
    { state := hstate, present := hpresence, stabilized := hstability
      demographics := hdemographics, suppressed := hsuppressed, count := hcount
      confidence := hconfidence, stable := by rw [hstable]; rfl
      ages := by rw [hageGroups]; exact hages
      genders := by rw [hgenderBlock]; exact hgenders
      attires := by rw [hattireBlock]; exact hattires }⟩

theorem readSnapshot_fields {presence stability count confidence stable suppressed : Json}
    {demographics : Json} (hstate : msg.get? "state" = some state)
    (hpresence : state.get? "presence" = some presence)
    (hstability : state.get? "stability" = some stability)
    (hcount : presence.get? "count" = some count)
    (hconfidence : presence.get? "confidence" = some confidence)
    (hstable : stability.get? "state_stable" = some stable)
    (hdemographics : memberOr state "demographics" (.obj []) = .ok demographics)
    (hsuppressed : memberOr demographics "suppressed" (.bool true) = .ok suppressed)
    (h : rt.readSnapshot msg = .ok row) :
    Number.toInt rt.texts count = .ok row.presenceCount ∧
      Number.toFloat rt.texts confidence = .ok row.presenceConfidence ∧
      row.stateStable = stable.truthy ∧ row.demographicsSuppressed = suppressed := by
  obtain ⟨state', presence', stability', block, hread⟩ := readSnapshot_inv h
  obtain rfl := Except.ok.inj ((index_of_get? hstate).symm.trans hread.state)
  obtain rfl := Except.ok.inj ((index_of_get? hpresence).symm.trans hread.present)
  obtain rfl := Except.ok.inj ((memberOr_of_get? _ hstability).symm.trans hread.stabilized)
  obtain rfl := Except.ok.inj (hdemographics.symm.trans hread.demographics)
  have hint := hread.count
  have hfloat := hread.confidence
  have htruthy := hread.stable
  rw [index_of_get? hcount] at hint
  rw [index_of_get? hconfidence] at hfloat
  rw [memberOr_of_get? _ hstable] at htruthy
  exact ⟨hint, hfloat, (Except.ok.inj htruthy).symm,
    Except.ok.inj (hread.suppressed.symm.trans hsuppressed)⟩

end Reading

/-! ### Every valid signal makes a row -/

section Valid

variable {τ : Type} {rt : SinkRuntime τ} {msg : Json}

theorem memberOr_object {required : List String} {properties : List (String × Schema)} {j : Json}
    (h : Schema.object required properties j = true) (key : String) (s : Schema)
    (hs : (key, s) ∈ properties) (default : Json) :
    ∃ v, memberOr j key default = .ok v ∧ (s v = true ∨ v = default) := by
  obtain ⟨ms, rfl, -, -, hproperties⟩ := Schema.object_iff.mp h
  cases hv : Dict.find key ms with
  | none => exact ⟨default, by simp [memberOr, hv], Or.inr rfl⟩
  | some v => exact ⟨v, by simp [memberOr, hv], Or.inl (hproperties (key, s) hs v hv)⟩

theorem privacyViolated_valid (h : audienceStateSignal msg = true) :
    privacyViolated msg = .ok false := by
  obtain ⟨block, hblock, hprivacy⟩ :=
    Schema.object_required h (k := "privacy") (s := Contracts.privacy) (by simp) (by simp)
  have hflag : ∀ flag ∈ privacyFlags, block.get? flag = some (.bool false) := by
    intro flag hflag
    obtain ⟨v, hv, hconst⟩ := Schema.object_required hprivacy hflag
      (List.mem_map_of_mem (f := fun n => (n, Schema.constBool false)) hflag)
    cases v <;> simp [Schema.constBool] at hconst
    rw [hv, hconst]
  simp [privacyViolated, memberOr_of_get? _ hblock,
    memberOr_of_get? _ (hflag "contains_images" (by simp [privacyFlags])),
    memberOr_of_get? _ (hflag "contains_frame_urls" (by simp [privacyFlags])),
    memberOr_of_get? _ (hflag "contains_face_embeddings" (by simp [privacyFlags])), Json.truthy,
    bind, Except.bind, pure, Except.pure]

theorem releasedBins_valid {block : Json} (h : Contracts.demographics block = true)
    (suppressed : Json) (key : String) (names : List String)
    (hkey : (key, bins names) ∈ [("age_group", bins ageBins), ("gender", bins genderBins),
      ("attire", bins attireBins)]) :
    ∃ ms, releasedBins block suppressed key = .ok (.obj ms) := by
  unfold releasedBins
  split_ifs with hsuppressed
  · exact ⟨[], rfl⟩
  · have hmem := List.mem_append_left [("dwell_estimate_ms", Contracts.count),
      ("suppressed", Schema.boolean)] hkey
    obtain ⟨v, hv, hbins | rfl⟩ := memberOr_object h key (bins names) hmem (.obj [])
    · obtain ⟨ms, rfl, -⟩ := Schema.object_iff.mp hbins
      exact ⟨ms, hv⟩
    · exact ⟨[], hv⟩

theorem binColumn_eq {j : Json} (h : (!j.truthy || j.isObj) = true) (name : String) :
    binColumn j name = .ok (name, (j.get? name).getD .null) := by
  unfold binColumn
  split_ifs with htruthy
  · rw [htruthy] at h
    rw [memberOr_of_isObj h]
    rfl
  · rw [Json.get?_of_falsy (Bool.not_eq_true _ ▸ htruthy)]
    rfl

theorem binColumns_eq {j : Json} (h : (!j.truthy || j.isObj) = true) (names : List String) :
    binColumns names j = .ok (names.map fun name => (name, (j.get? name).getD .null)) := by
  induction names with
  | nil => rfl
  | cons name names ih =>
    rw [binColumns] at ih ⊢
    rw [List.mapM_cons, binColumn_eq h, ok_bind, ih]
    rfl

theorem readEngaged_valid {attention : Json}
    (h : Contracts.attention attention = true ∨ attention = .null) (texts : Number.Texts) :
    ∃ v x, memberOr (if attention.truthy then attention else .obj []) "engaged" .null = .ok v ∧
      readEngaged texts v = .ok x := by
  have hblock : Contracts.attention (if attention.truthy then attention else .obj []) = true := by
    split_ifs with htruthy
    · rcases h with hvalid | rfl
      · exact hvalid
      · cases htruthy
    · decide +kernel
  obtain ⟨v, hv, hfraction | rfl⟩ := memberOr_object hblock "engaged" fraction
    (List.mem_map_of_mem (f := fun n => (n, fraction)) (List.mem_cons_self (a := "engaged"))) .null
  · obtain ⟨x, hx, hwithin⟩ := fraction_number hfraction
    obtain rfl := Number.asNumber?_eq_some hx
    have hfloat := Number.toFloat_fraction texts hwithin
    refine ⟨_, some x, hv, ?_⟩
    cases x <;> exact congrArg (Except.map some) hfloat
  · exact ⟨.null, none, hv, rfl⟩

theorem presence_read {presence : Json} (h : Contracts.presence presence = true)
    (texts : Number.Texts) :
    ∃ n x, (index presence "count").bind (Number.toInt texts) = .ok n ∧
      (index presence "confidence").bind (Number.toFloat texts) = .ok x := by
  obtain ⟨count, hcount, hvalid⟩ :=
    Schema.object_required h (k := "count") (s := Contracts.count) (by simp) (by simp)
  obtain ⟨confidence, hconfidence, hfraction⟩ :=
    Schema.object_required h (k := "confidence") (s := fraction) (by simp) (by simp)
  obtain ⟨n, rfl⟩ := count_iff.mp hvalid
  obtain ⟨x, hx, hwithin⟩ := fraction_number hfraction
  obtain rfl := Number.asNumber?_eq_some hx
  refine ⟨n, x, ?_, ?_⟩
  · rw [index_of_get? hcount]
    exact Number.toInt_int texts n
  · rw [index_of_get? hconfidence]
    exact Number.toFloat_fraction texts hwithin

theorem readSnapshot_valid (h : audienceStateSignal msg = true) {producedAt : String}
    (hproduced : msg.get? "produced_at" = some (.str producedAt)) {instant : ℚ}
    (htime : rt.fromisoformat (withUtcOffset producedAt) = some instant) :
    ∃ row, rt.readSnapshot msg = .ok row ∧ row.sampledAt = instant := by
  obtain ⟨state, hstate, hstateValid⟩ := signal_state h
  obtain ⟨quality, hquality, hqualityValid⟩ := signal_sourceQuality h
  obtain ⟨presence, hpresence, hpresenceValid⟩ := Schema.object_required hstateValid
    (k := "presence") (s := Contracts.presence) (by simp) (by simp)
  obtain ⟨stability, hstability, hstabilityValid⟩ := Schema.object_required hstateValid
    (k := "stability") (s := Contracts.stability) (by simp) (by simp)
  obtain ⟨demographics, hdemographics, hvalidOr⟩ := memberOr_object hstateValid
    "demographics" Contracts.demographics (by simp) (.obj [])
  have hdemographicsValid : Contracts.demographics demographics = true := by
    rcases hvalidOr with hvalid | rfl
    · exact hvalid
    · decide +kernel
  obtain ⟨suppressed, hsuppressed, -⟩ := memberOr_object hdemographicsValid
    "suppressed" Schema.boolean (by simp) (.bool true)
  obtain ⟨ages, hages⟩ := releasedBins_valid hdemographicsValid suppressed
    "age_group" ageBins (by simp)
  obtain ⟨genders, hgenders⟩ := releasedBins_valid hdemographicsValid suppressed
    "gender" genderBins (by simp)
  obtain ⟨attires, hattires⟩ := releasedBins_valid hdemographicsValid suppressed
    "attire" attireBins (by simp)
  obtain ⟨attention, hattention, hattentionValid⟩ := memberOr_object hstateValid
    "attention" Contracts.attention (by simp) .null
  obtain ⟨engaged, x, hengaged, hengagedRead⟩ := readEngaged_valid hattentionValid rt.texts
  obtain ⟨n, c, hcount, hconfidence⟩ := presence_read hpresenceValid rt.texts
  obtain ⟨stable, hstable, -⟩ := memberOr_object hstabilityValid
    "state_stable" Schema.boolean (by simp) (.bool false)
  obtain ⟨degraded, hdegraded, -⟩ := memberOr_object hqualityValid
    "pipeline_degraded" Schema.boolean (by simp) (.bool false)
  have hcolumns : ∀ ms names, ∃ cs, binColumns names (.obj ms) = .ok cs := fun ms names =>
    ⟨_, binColumns_eq (Bool.or_true _) names⟩
  obtain ⟨ageColumns, hageColumns⟩ := hcolumns ages ageBins
  obtain ⟨genderColumns, hgenderColumns⟩ := hcolumns genders genderBins
  obtain ⟨attireColumns, hattireColumns⟩ := hcolumns attires attireBins
  have hinstant : (memberOr msg "produced_at" (.str "")).bind rt.readTime = .ok instant := by
    rw [memberOr_of_get? _ hproduced]
    simp [Except.bind, SinkRuntime.readTime, htime]
  simp only [SinkRuntime.readSnapshot, ok_bind, index_of_get? hstate, index_of_get? hpresence,
    memberOr_of_get? _ hstability, memberOr_of_get? _ hquality, hinstant, hdemographics,
    hsuppressed, hages, hgenders, hattires, hattention, hengaged, hcount, hconfidence, hstable,
    hdegraded, hageColumns, hgenderColumns, hattireColumns, hengagedRead]
  exact ⟨_, rfl, rfl⟩

/-- A signal that meets ICD-3 and whose time is read is not dropped. -/
theorem parseSnapshot_valid (h : audienceStateSignal msg = true) {producedAt : String}
    (hproduced : msg.get? "produced_at" = some (.str producedAt)) {instant : ℚ}
    (htime : rt.fromisoformat (withUtcOffset producedAt) = some instant) :
    ∃ row, rt.parseSnapshot (rt.dumps msg) = .ok (some row) ∧ row.sampledAt = instant := by
  obtain ⟨row, hread, hsampled⟩ := readSnapshot_valid h hproduced htime
  refine ⟨row, ?_, hsampled⟩
  simp only [SinkRuntime.parseSnapshot, rt.loads_dumps, privacyViolated_valid h, hread]

end Valid

end AdaptiveAdvertisement.Dashboard
