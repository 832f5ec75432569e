import AdaptiveAdvertisement.InputCv.Observation

/-!
# Which observations meet ICD-2

The builder's result is read back to the raw metadata, and the contract is evaluated on its
serialisation. Together they say which metadata make a valid message.
-/

namespace AdaptiveAdvertisement.InputCv
open Library Contracts

/-! ### What a successful build read -/

section Build

variable {cv : Conversions} {stamp : Stamp} {raw : RawMeta} {context : ObservationContext}
  {o : CvObservation}

structure Built (cv : Conversions) (stamp : Stamp) (raw : RawMeta) (context : ObservationContext)
    (o : CvObservation) : Prop where
  schemaVersion : o.schemaVersion = "1.0.0"
  messageType : o.messageType = "cv_observation"
  windowMs : o.windowMs = 100
  stamp : o.stamp = stamp
  context : o.context = context
  counts : buildCounts cv raw = .ok o.counts
  quality : buildQuality cv raw = .ok o.quality
  demographics : block (parseDemographics cv) raw "demographics" = .ok o.demographics
  attention : block (parseAttention cv) raw "attention" = .ok o.attention
  frameSeq : intOr cv raw "frame_seq" 0 = .ok o.frameSeq

theorem buildObservation_ok (h : buildObservation cv stamp raw context = .ok o) :
    Built cv stamp raw context o := by
  obtain ⟨-, -, h⟩ := bind_ok h
  obtain ⟨counts, hcounts, h⟩ := bind_ok h
  obtain ⟨quality, hquality, h⟩ := bind_ok h
  obtain ⟨demographics, hdemographics, h⟩ := bind_ok h
  obtain ⟨attention, hattention, h⟩ := bind_ok h
  obtain ⟨frameSeq, hframeSeq, h⟩ := bind_ok h
  split at h
  · cases h
    exact ⟨rfl, rfl, rfl, rfl, rfl, hcounts, hquality, hdemographics, hattention, hframeSeq⟩
  · cases h

theorem buildCounts_ok {counts : ObservationCounts} (h : buildCounts cv raw = .ok counts) :
    intOr cv raw "person_count" 0 = .ok counts.present ∧
      floatOr cv raw "confidence_mean" 0 = .ok counts.confidence := by
  obtain ⟨present, hpresent, h⟩ := bind_ok h
  obtain ⟨confidence, hconfidence, h⟩ := bind_ok h
  split at h
  · cases h
    exact ⟨hpresent, hconfidence⟩
  · cases h

theorem buildQuality_ok {quality : Quality} (h : buildQuality cv raw = .ok quality) :
    intOr cv raw "frames_processed" 1 = .ok quality.framesProcessed ∧
      intOr cv raw "frames_dropped" 0 = .ok quality.framesDropped := by
  obtain ⟨processed, hprocessed, h⟩ := bind_ok h
  obtain ⟨dropped, hdropped, h⟩ := bind_ok h
  cases h
  exact ⟨hprocessed, hdropped⟩

theorem block_iff {α : Type} {parse : Json → Except BuildError α} {key : String} {r : Option α}
    (h : block parse raw key = .ok r) {P : α → Prop} {Q : Json → Prop}
    (hPQ : ∀ j a, parse j = .ok a → (P a ↔ Q j)) :
    (∃ a, r = some a ∧ P a) ↔ ∃ j, raw.get key = some j ∧ Q j := by
  unfold block at h
  cases hv : raw.get key with
  | none =>
    rw [hv] at h
    cases h
    simp
  | some v =>
    rw [hv] at h
    obtain ⟨a, ha, rfl⟩ := map_ok h
    simp [hPQ v a ha]

theorem pyGet_ok {j v : Json} {key : String} (h : pyGet j key = .ok v) :
    v = (j.get? key).getD .null := by
  cases j with
  | obj ms => exact (Except.ok.inj h).symm
  | null => cases h
  | bool b => cases h
  | num q => cases h
  | nonfinite x => cases h
  | str s => cases h
  | arr xs => cases h

theorem optional_ok {α : Type} {f : Json → Option α} {v : Json} {r : Option α}
    (h : optional f v = .ok r) :
    (v = .null ∧ r = none) ∨ (v ≠ .null ∧ ∃ a, f v = some a ∧ r = some a) := by
  unfold optional at h
  split at h
  · exact Or.inl ⟨rfl, (Except.ok.inj h).symm⟩
  next hne =>
    split at h
    next a ha => exact Or.inr ⟨hne, a, ha, (Except.ok.inj h).symm⟩
    next => cases h

theorem field_some_iff {α : Type} {f : Json → Option α} {j : Json} {key : String}
    {r : Option α} (h : (member j key).bind (optional f) = .ok r) (P : α → Prop) :
    (∃ a, r = some a ∧ P a) ↔ ∃ v a, j.get? key = some v ∧ v ≠ .null ∧
      f v = some a ∧ P a := by
  obtain ⟨v, hv, h⟩ := bind_ok h
  have hget := pyGet_ok (mapError_ok hv)
  rcases optional_ok h with ⟨rfl, rfl⟩ | ⟨hne, a, ha, rfl⟩
  · refine ⟨fun hl => ?_, fun hr => ?_⟩
    · obtain ⟨a, hnone, -⟩ := hl
      cases hnone
    · obtain ⟨w, a, hw, hnull, -⟩ := hr
      rw [hw] at hget
      exact absurd hget.symm hnull
  · have hsome : j.get? key = some v := by
      cases hj : j.get? key with
      | none => exact absurd (by rw [hget, hj]; rfl) hne
      | some w => rw [hget, hj]; rfl
    refine ⟨fun hl => ?_, fun hr => ?_⟩
    · obtain ⟨b, hb, hP⟩ := hl
      rw [← Option.some.inj hb] at hP
      exact ⟨v, a, hsome, hne, ha, hP⟩
    · obtain ⟨w, b, hw, -, hb, hP⟩ := hr
      rw [hsome, Option.some.injEq] at hw
      rw [← hw, ha, Option.some.injEq] at hb
      exact ⟨a, rfl, hb ▸ hP⟩

structure Parsed (cv : Conversions) (j : Json) (d : ObservationDemographics) : Prop where
  ageGroup : (member j "age_group").bind (optional (laxBins cv)) = .ok d.ageGroup
  gender : (member j "gender").bind (optional (laxBins cv)) = .ok d.gender
  attire : (member j "attire").bind (optional (laxBins cv)) = .ok d.attire
  dwell : (member j "dwell_estimate_ms").bind (optional cv.laxInt) = .ok d.dwellEstimateMs
  suppressed : (member j "suppressed").bind (optional cv.laxBool) = .ok d.suppressed

theorem parseDemographics_ok {j : Json} {d : ObservationDemographics}
    (h : parseDemographics cv j = .ok d) : Parsed cv j d := by
  obtain ⟨ageGroup, hage, h⟩ := bind_ok h
  obtain ⟨gender, hgender, h⟩ := bind_ok h
  obtain ⟨attire, hattire, h⟩ := bind_ok h
  obtain ⟨dwell, hdwell, h⟩ := bind_ok h
  obtain ⟨suppressed, hsuppressed, h⟩ := bind_ok h
  split at h
  · cases h
    exact ⟨hage, hgender, hattire, hdwell, hsuppressed⟩
  · cases h

theorem parseAttention_ok {j : Json} {a : ObservationAttention} (h : parseAttention cv j = .ok a) :
    (member j "engaged").bind (optional cv.laxFloat) = .ok a.engaged ∧
      (member j "ambient").bind (optional cv.laxFloat) = .ok a.ambient := by
  obtain ⟨engaged, hengaged, h⟩ := bind_ok h
  obtain ⟨ambient, hambient, h⟩ := bind_ok h
  split at h
  · cases h
    exact ⟨hengaged, hambient⟩
  · cases h

end Build

/-! ### The contract on a serialised observation -/

def BinsShaped (names : List String) (d : Dict String PyFloat) : Prop :=
  ∀ k x, d.get k = some x → k ∈ names ∧ ∃ q, x = .finite q ∧ 0 ≤ q ∧ q ≤ 1

theorem fraction_dump_iff (x : PyFloat) :
    fraction x.dump = true ↔ ∃ q, x = .finite q ∧ 0 ≤ q ∧ q ≤ 1 := by
  cases x with
  | finite q => simp [PyFloat.dump, fraction_iff]
  | nonfinite x => simp [PyFloat.dump, fraction_iff]

theorem fraction_dump_inUnit_iff {x : PyFloat} (h : x.inUnit = true) :
    fraction x.dump = true ↔ ∃ q, x = .finite q := by
  cases x with
  | finite q =>
    have hq : 0 ≤ q ∧ q ≤ 1 := by simpa [PyFloat.inUnit] using h
    simp [fraction_dump_iff, hq]
  | nonfinite x => simp [fraction_dump_iff]

theorem bins_dump_iff (names : List String) (d : Dict String PyFloat) :
    bins names (dumpBins d) = true ↔ BinsShaped names d := by
  simp only [bins, Schema.object_iff, dumpBins, Json.obj.injEq, exists_eq_left']
  refine ⟨fun hl => ?_, fun h => ?_⟩
  · obtain ⟨-, hnames, hvalues⟩ := hl
    intro k x hx
    have hmem := (Dict.get_eq_some_iff d k x).mp hx
    have hk : k ∈ names := by
      have h := hnames _ (List.mem_map_of_mem hmem)
      simpa using h
    have hfind : Dict.find k (d.entries.map fun e => (e.1, e.2.dump)) = some x.dump := by
      rw [Dict.find_map]
      exact congrArg _ hx
    have hv := hvalues _ (List.mem_map_of_mem hk) _ hfind
    exact ⟨hk, (fraction_dump_iff x).mp hv⟩
  · refine ⟨by simp, ?_, ?_⟩
    · intro m hm
      obtain ⟨e, he, rfl⟩ := List.mem_map.mp hm
      have hk := (h e.1 e.2 ((Dict.get_eq_some_iff d e.1 e.2).mpr he)).1
      simpa using hk
    · intro p hp v hv
      obtain ⟨k, -, rfl⟩ := List.mem_map.mp hp
      rw [Dict.find_map, Option.map_eq_some_iff] at hv
      obtain ⟨x, hx, rfl⟩ := hv
      exact (fraction_dump_iff x).mpr (h k x hx).2

/-- A schema that refuses `null` reads an optional field as one that is set. -/
theorem ofOption_iff {α : Type} {schema : Schema} {f : α → Json} (hnull : schema .null = false)
    (r : Option α) :
    schema (.ofOption f r) = true ↔ ∃ a, r = some a ∧ schema (f a) = true := by
  cases r with
  | none => simp [Json.ofOption, hnull]
  | some a => simp [Json.ofOption]

def ObservationDemographics.Shaped (d : ObservationDemographics) : Prop :=
  (∃ b, d.ageGroup = some b ∧ BinsShaped ageBins b) ∧
    (∃ b, d.gender = some b ∧ BinsShaped genderBins b) ∧
    (∃ b, d.attire = some b ∧ BinsShaped attireBins b) ∧
    (∃ n, d.dwellEstimateMs = some n ∧ True) ∧ ∃ b, d.suppressed = some b ∧ True

theorem demographics_dump_iff (d : ObservationDemographics) :
    demographics d.dump = true ↔ d.Shaped := by
  have hbins : ∀ names (r : Option (Dict String PyFloat)),
      bins names (.ofOption dumpBins r) = true ↔ ∃ b, r = some b ∧ BinsShaped names b := by
    intro names r
    rw [ofOption_iff (by simp [bins, Schema.object])]
    simp only [bins_dump_iff]
  have hdwell : count (.ofOption Json.int d.dwellEstimateMs) = true ↔
      ∃ n, d.dwellEstimateMs = some n ∧ True := by
    rw [ofOption_iff (by simp [count, Schema.all, Schema.integer])]
    refine exists_congr fun n => and_congr_right fun hn => ?_
    have hnonneg := d.dwell_nonneg n hn
    exact iff_true_intro (count_iff.mpr ⟨n.toNat, by rw [Int.toNat_of_nonneg hnonneg]⟩)
  have hsuppressed : Schema.boolean (.ofOption Json.bool d.suppressed) = true ↔
      ∃ b, d.suppressed = some b ∧ True := by
    rw [ofOption_iff (by simp [Schema.boolean])]
    simp [Schema.boolean]
  rw [ObservationDemographics.Shaped, ← hbins, ← hbins, ← hbins, ← hdwell, ← hsuppressed]
  refine (Schema.object_fields_iff []
    [⟨"age_group", bins ageBins, some (.ofOption dumpBins d.ageGroup)⟩,
      ⟨"gender", bins genderBins, some (.ofOption dumpBins d.gender)⟩,
      ⟨"attire", bins attireBins, some (.ofOption dumpBins d.attire)⟩,
      ⟨"dwell_estimate_ms", count, some (.ofOption Json.int d.dwellEstimateMs)⟩,
      ⟨"suppressed", Schema.boolean, some (.ofOption Json.bool d.suppressed)⟩]
    (by simp) (by simp)).trans ?_
  simp

def ObservationAttention.Shaped (a : ObservationAttention) : Prop :=
  (∃ x, a.engaged = some x ∧ ∃ q, x = .finite q) ∧ ∃ x, a.ambient = some x ∧
    ∃ q, x = .finite q

theorem attention_dump_iff (a : ObservationAttention) : attention a.dump = true ↔ a.Shaped := by
  have hfield : ∀ r : Option PyFloat, (∀ x ∈ r, x.inUnit = true) →
      (fraction (.ofOption PyFloat.dump r) = true ↔ ∃ x, r = some x ∧
        ∃ q, x = .finite q) := by
    intro r hr
    rw [ofOption_iff (by simp [fraction, Schema.all, Schema.number])]
    exact exists_congr fun x => and_congr_right fun hx => fraction_dump_inUnit_iff (hr x hx)
  rw [ObservationAttention.Shaped, ← hfield _ a.engaged_inUnit, ← hfield _ a.ambient_inUnit]
  simp [attention, bins, Schema.object, ObservationAttention.dump, Dict.find]

theorem quality_dump_iff (q : Quality) :
    quality q.dump = true ↔ 0 ≤ q.framesProcessed ∧ 0 ≤ q.framesDropped := by
  have hdump : q.dump = .obj ([⟨"frames_processed", count, some (.int q.framesProcessed)⟩,
      ⟨"frames_dropped", count, some (.int q.framesDropped)⟩,
      ⟨"pipeline_degraded", Schema.boolean, q.pipelineDegraded.map Json.bool⟩].filterMap
        Schema.Field.member) := by
    cases hd : q.pipelineDegraded with
    | none => simp [Quality.dump, Schema.Field.member, hd]
    | some b => simp [Quality.dump, Schema.Field.member, hd]
  rw [hdump, ← count_int_iff, ← count_int_iff]
  refine (Schema.object_fields_iff ["frames_processed", "frames_dropped"] _
    (by simp) (by simp)).trans ?_
  cases q.pipelineDegraded <;> simp [Schema.boolean]

theorem counts_dump_iff (c : ObservationCounts) :
    counts c.dump = true ↔ ∃ q, c.confidence = .finite q := by
  rw [← fraction_dump_inUnit_iff c.confidence_inUnit]
  refine (Schema.object_fields_iff ["present", "confidence"]
    [⟨"present", count, some (.int c.present)⟩,
      ⟨"confidence", fraction, some c.confidence.dump⟩] (by simp) (by simp)).trans ?_
  simp [(count_int_iff c.present).mpr c.present_nonneg]

theorem privacy_dump (p : ObservationPrivacy) : privacy p.dump = true := by
  obtain ⟨hi, hu, he⟩ := p.all_false
  refine (Schema.object_fields_iff privacyFlags
    [⟨"contains_images", Schema.constBool false, some (.bool p.containsImages)⟩,
      ⟨"contains_frame_urls", Schema.constBool false, some (.bool p.containsFrameUrls)⟩,
      ⟨"contains_face_embeddings", Schema.constBool false,
        some (.bool p.containsFaceEmbeddings)⟩] (by simp) (by simp [privacyFlags])).mpr ?_
  simp [Schema.constBool, hi, hu, he]

def ObservationContext.Matches (c : ObservationContext) : Prop :=
  ∀ id ∈ c.ids, idPattern id = true

theorem scopedId_str {id : String} (hpattern : idPattern id = true) (hne : 1 ≤ id.length) :
    scopedId (.str id) = true ↔ id.length ≤ 128 := by
  have hid := identifier_str_iff id
  simp only [scopedId, Schema.all_iff, List.forall_mem_cons, hid, Schema.pattern, hpattern, hne,
    true_and, List.not_mem_nil, false_implies, implies_true, and_true]

structure CvObservation.Shaped (o : CvObservation) : Prop where
  ids : ∀ id ∈ o.context.ids, id.length ≤ 128
  confidence : ∃ q, o.counts.confidence = .finite q
  demographics : ∃ d, o.demographics = some d ∧ d.Shaped
  attention : ∃ a, o.attention = some a ∧ a.Shaped
  quality : 0 ≤ o.quality.framesProcessed ∧ 0 ≤ o.quality.framesDropped

theorem cvObservation_dump_iff {o : CvObservation} (hversion : o.schemaVersion = "1.0.0")
    (htype : o.messageType = "cv_observation") (hwindow : o.windowMs = 100)
    (hmatches : o.context.Matches) : cvObservation o.dump = true ↔ o.Shaped := by
  have hid : ∀ id ∈ o.context.ids, scopedId (.str id) = true ↔ id.length ≤ 128 :=
    fun id h => scopedId_str (hmatches id h) (o.ids_nonempty id h)
  have hdemographics :
    demographics (.ofOption ObservationDemographics.dump o.demographics) = true ↔
      ∃ d, o.demographics = some d ∧ d.Shaped := by
    rw [ofOption_iff (by simp [demographics, Schema.object])]
    simp only [demographics_dump_iff]
  have hattention : attention (.ofOption ObservationAttention.dump o.attention) = true ↔
      ∃ a, o.attention = some a ∧ a.Shaped := by
    rw [ofOption_iff (by simp [attention, bins, Schema.object])]
    simp only [attention_dump_iff]
  have hmessageId : identifier (.str o.stamp.messageId) = true :=
    identifier_uuid o.stamp.uuid_length
  have hwindowMs : Schema.all [Schema.integer, Schema.minimum 1, Schema.maximum 60000]
      (.int o.windowMs) = true := by
    rw [hwindow]
    decide +kernel
  refine (Schema.object_fields_iff
    ["schema_version", "message_type", "message_id", "produced_at", "tenant_id", "site_id",
      "camera_id", "pipeline_id", "frame_seq", "window_ms", "counts", "quality", "privacy"]
    [⟨"schema_version", Schema.constStr "1.0.0", some (.str o.schemaVersion)⟩,
      ⟨"message_type", Schema.constStr "cv_observation", some (.str o.messageType)⟩,
      ⟨"message_id", identifier, some (.str o.stamp.messageId)⟩,
      ⟨"produced_at", timestamp, some (.str o.stamp.producedAt)⟩,
      ⟨"tenant_id", scopedId, some (.str o.context.tenantId)⟩,
      ⟨"site_id", scopedId, some (.str o.context.siteId)⟩,
      ⟨"camera_id", scopedId, some (.str o.context.cameraId)⟩,
      ⟨"pipeline_id", scopedId, some (.str o.context.pipelineId)⟩,
      ⟨"frame_seq", count, some (.int o.frameSeq)⟩,
      ⟨"window_ms", Schema.all [Schema.integer, Schema.minimum 1, Schema.maximum 60000],
        some (.int o.windowMs)⟩,
      ⟨"counts", counts, some o.counts.dump⟩,
      ⟨"demographics", demographics,
        some (.ofOption ObservationDemographics.dump o.demographics)⟩,
      ⟨"attention", attention, some (.ofOption ObservationAttention.dump o.attention)⟩,
      ⟨"quality", quality, some o.quality.dump⟩, ⟨"privacy", privacy, some o.privacy.dump⟩]
    (by simp) (by simp)).trans ?_
  simp only [List.forall_mem_cons, Option.mem_some_iff, forall_eq', List.not_mem_nil,
    false_implies, implies_true, and_true, Schema.constStr_iff, hversion, htype,
    hmessageId, hwindowMs, (count_int_iff o.frameSeq).mpr o.frameSeq_nonneg, timestamp,
    Schema.string, hdemographics, hattention, counts_dump_iff, quality_dump_iff, privacy_dump,
    true_and]
  rw [hid _ (by simp [ObservationContext.ids]), hid _ (by simp [ObservationContext.ids]),
    hid _ (by simp [ObservationContext.ids]), hid _ (by simp [ObservationContext.ids])]
  refine ⟨fun hl => ?_, fun hr => ?_⟩
  · obtain ⟨htenant, hsite, hcamera, hpipeline, hconfidence, hd, ha, hq⟩ := hl
    exact ⟨by simp [ObservationContext.ids, htenant, hsite, hcamera, hpipeline], hconfidence, hd,
      ha, hq⟩
  · obtain ⟨hids, hconfidence, hd, ha, hq⟩ := hr
    have hall : o.context.tenantId.length ≤ 128 ∧ o.context.siteId.length ≤ 128 ∧
        o.context.cameraId.length ≤ 128 ∧ o.context.pipelineId.length ≤ 128 := by
      simpa [ObservationContext.ids] using hids
    exact ⟨hall.1, hall.2.1, hall.2.2.1, hall.2.2.2, hconfidence, hd, ha, hq⟩

/-! ### The contract on the raw metadata -/

def Supplies (j : Json) (key : String) : Prop := ∃ v, j.get? key = some v ∧ v ≠ .null

def SuppliesFinite (cv : Conversions) (j : Json) (key : String) : Prop :=
  ∃ v q, j.get? key = some v ∧ v ≠ .null ∧ cv.laxFloat v = some (.finite q)

def SuppliesBins (cv : Conversions) (names : List String) (j : Json) (key : String) : Prop :=
  ∃ ms, j.get? key = some (.obj ms) ∧ ∀ k v, Dict.find k ms = some v →
    k ∈ names ∧ ∃ q, cv.laxFloat v = some (.finite q) ∧ 0 ≤ q ∧ q ≤ 1

/-- Metadata with every optional block, every field of it, and nothing that the schema does not
declare or that has no JSON number. -/
structure MeetsContract (cv : Conversions) (raw : RawMeta) (context : ObservationContext) :
    Prop where
  ids : ∀ id ∈ context.ids, id.length ≤ 128
  confidence : ∃ q, floatOr cv raw "confidence_mean" 0 = .ok (.finite q)
  framesProcessed : ∃ n, intOr cv raw "frames_processed" 1 = .ok n ∧ 0 ≤ n
  framesDropped : ∃ n, intOr cv raw "frames_dropped" 0 = .ok n ∧ 0 ≤ n
  demographics : ∃ j, raw.get "demographics" = some j ∧
    SuppliesBins cv ageBins j "age_group" ∧
    SuppliesBins cv genderBins j "gender" ∧ SuppliesBins cv attireBins j "attire" ∧
      Supplies j "dwell_estimate_ms" ∧ Supplies j "suppressed"
  attention : ∃ j, raw.get "attention" = some j ∧ SuppliesFinite cv j "engaged" ∧
    SuppliesFinite cv j "ambient"

section Raw

variable {cv : Conversions} {stamp : Stamp} {raw : RawMeta} {context : ObservationContext}
  {o : CvObservation}

theorem supplies_iff {α : Type} {f : Json → Option α} {j : Json} {key : String} {r : Option α}
    (h : (member j key).bind (optional f) = .ok r) :
    (∃ a, r = some a ∧ True) ↔ Supplies j key := by
  obtain ⟨v, hv, hopt⟩ := bind_ok h
  rw [field_some_iff h]
  refine ⟨fun hl => ?_, fun hr => ?_⟩
  · obtain ⟨v, -, hv, hne, -, -⟩ := hl
    exact ⟨v, hv, hne⟩
  · obtain ⟨w, hw, hne⟩ := hr
    have hwv : v = w := by
      rw [pyGet_ok (mapError_ok hv), hw]
      rfl
    subst hwv
    rcases optional_ok hopt with ⟨hnull, -⟩ | ⟨-, a, ha, -⟩
    · exact absurd hnull hne
    · exact ⟨v, a, hw, hne, ha, trivial⟩

theorem suppliesFinite_iff {j : Json} {key : String} {r : Option PyFloat}
    (h : (member j key).bind (optional cv.laxFloat) = .ok r) :
    (∃ x, r = some x ∧ ∃ q, x = .finite q) ↔ SuppliesFinite cv j key := by
  rw [field_some_iff h]
  refine ⟨fun hl => ?_, fun hr => ?_⟩
  · obtain ⟨v, x, hv, hne, hx, q, rfl⟩ := hl
    exact ⟨v, q, hv, hne, hx⟩
  · obtain ⟨v, q, hv, hne, hq⟩ := hr
    exact ⟨v, .finite q, hv, hne, hq, q, rfl⟩

theorem laxBins_obj {v : Json} {d : Dict String PyFloat} (h : laxBins cv v = some d) :
    ∃ ms, v = .obj ms := by
  cases v with
  | obj ms => exact ⟨ms, rfl⟩
  | null => cases h
  | bool x => cases h
  | num q => cases h
  | nonfinite x => cases h
  | str s => cases h
  | arr xs => cases h

theorem laxBins_shaped {names : List String} {ms : List (String × Json)} {d : Dict String PyFloat}
    (h : laxBins cv (.obj ms) = some d) :
    BinsShaped names d ↔ ∀ k v, Dict.find k ms = some v →
      k ∈ names ∧ ∃ q, cv.laxFloat v = some (.finite q) ∧ 0 ≤ q ∧ q ≤ 1 := by
  refine ⟨fun hd => ?_, fun hms => ?_⟩
  · intro k v hv
    obtain ⟨x, hx, hget⟩ := Dict.traverse_get h ((Dict.get_ofList ms k).trans hv)
    obtain ⟨hk, q, rfl, hq⟩ := hd k x hget
    exact ⟨hk, q, hx, hq⟩
  · intro k x hx
    rw [Dict.get_traverse h, Dict.get_ofList, Option.bind_eq_some_iff] at hx
    obtain ⟨v, hv, hvx⟩ := hx
    obtain ⟨hk, q, hq, hrange⟩ := hms k v hv
    rw [hvx, Option.some.injEq] at hq
    exact ⟨hk, q, hq, hrange⟩

theorem suppliesBins_iff {names : List String} {j : Json} {key : String}
    {r : Option (Dict String PyFloat)}
    (h : (member j key).bind (optional (laxBins cv)) = .ok r) :
    (∃ b, r = some b ∧ BinsShaped names b) ↔ SuppliesBins cv names j key := by
  rw [field_some_iff h]
  refine ⟨fun hl => ?_, fun hr => ?_⟩
  · obtain ⟨v, b, hv, -, hb, hshaped⟩ := hl
    obtain ⟨ms, rfl⟩ := laxBins_obj hb
    exact ⟨ms, hv, (laxBins_shaped hb).mp hshaped⟩
  · obtain ⟨ms, hms, hvalues⟩ := hr
    obtain ⟨v, hv, hopt⟩ := bind_ok h
    have hvms : v = .obj ms := by
      rw [pyGet_ok (mapError_ok hv), hms]
      rfl
    subst hvms
    rcases optional_ok hopt with ⟨hnull, -⟩ | ⟨hne, b, hb, -⟩
    · cases hnull
    · exact ⟨_, b, hms, hne, hb, (laxBins_shaped hb).mpr hvalues⟩

theorem parsedDemographics_iff {j : Json} {d : ObservationDemographics}
    (h : parseDemographics cv j = .ok d) : d.Shaped ↔
      SuppliesBins cv ageBins j "age_group" ∧ SuppliesBins cv genderBins j "gender" ∧
        SuppliesBins cv attireBins j "attire" ∧ Supplies j "dwell_estimate_ms" ∧
          Supplies j "suppressed" := by
  have hp := parseDemographics_ok h
  rw [ObservationDemographics.Shaped, suppliesBins_iff hp.ageGroup, suppliesBins_iff hp.gender,
    suppliesBins_iff hp.attire, supplies_iff hp.dwell, supplies_iff hp.suppressed]

theorem parsedAttention_iff {j : Json} {a : ObservationAttention}
    (h : parseAttention cv j = .ok a) :
    a.Shaped ↔ SuppliesFinite cv j "engaged" ∧ SuppliesFinite cv j "ambient" := by
  obtain ⟨hengaged, hambient⟩ := parseAttention_ok h
  rw [ObservationAttention.Shaped, suppliesFinite_iff hengaged, suppliesFinite_iff hambient]

theorem shaped_iff (h : Built cv stamp raw context o) :
    o.Shaped ↔ MeetsContract cv raw context := by
  obtain ⟨-, hconfidence⟩ := buildCounts_ok h.counts
  obtain ⟨hprocessed, hdropped⟩ := buildQuality_ok h.quality
  have hd := block_iff h.demographics fun _ _ hj => parsedDemographics_iff hj
  have ha := block_iff h.attention fun _ _ hj => parsedAttention_iff hj
  refine ⟨fun hl => ?_, fun hr => ?_⟩
  · obtain ⟨hids, ⟨q, hq⟩, hdemographics, hattention, hquality⟩ := hl
    rw [h.context] at hids
    exact ⟨hids, ⟨q, hq ▸ hconfidence⟩, ⟨_, hprocessed, hquality.1⟩,
      ⟨_, hdropped, hquality.2⟩,
      hd.mp hdemographics, ha.mp hattention⟩
  · obtain ⟨hids, ⟨q, hq⟩, ⟨n, hn, hnonneg⟩, ⟨m, hm, hmnonneg⟩, hdemographics,
        hattention⟩ := hr
    rw [hconfidence, Except.ok.injEq] at hq
    rw [hprocessed, Except.ok.injEq] at hn
    rw [hdropped, Except.ok.injEq] at hm
    rw [← h.context] at hids
    exact ⟨hids, ⟨q, hq⟩, hd.mpr hdemographics, ha.mpr hattention, hn ▸ hnonneg,
      hm ▸ hmnonneg⟩

/-- The contract takes a built observation exactly where its metadata are complete. -/
theorem cvObservation_built_iff (h : buildObservation cv stamp raw context = .ok o)
    (hmatches : context.Matches) :
    cvObservation o.dump = true ↔ MeetsContract cv raw context := by
  have hbuilt := buildObservation_ok h
  rw [cvObservation_dump_iff hbuilt.schemaVersion hbuilt.messageType hbuilt.windowMs
    (hbuilt.context ▸ hmatches), shaped_iff hbuilt]

end Raw

end AdaptiveAdvertisement.InputCv
