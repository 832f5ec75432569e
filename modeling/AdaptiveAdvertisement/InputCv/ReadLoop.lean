import AdaptiveAdvertisement.InputCv.CameraMailbox

/-!
# Bad metadata in the read loop (`input_cv/main.py`)

The loop 181-213 over whatever a driver returns. For one dict it catches the privacy error of the
builder ("do not publish; do not crash the loop"); a dict that `int()`, `float()` or the model
classes refuse ends the service. Which dicts those are is said of the raw metadata.
-/

namespace AdaptiveAdvertisement.InputCv
open Library

/-! ### The loop -/

/-- A dict that the driver returns, with what its observation would draw. -/
structure Returned where
  stamp : Stamp
  raw : RawMeta

structure ReadLoop where
  published : List CvObservation := []
  failure : Option BuildError := none

def observationOf (cfg : CameraConfig) (r : Returned) : Option CvObservation :=
  (buildObservation cfg.conversions r.stamp r.raw cfg.context).toOption

def ReadLoop.onMetadata (cfg : CameraConfig) (l : ReadLoop) (r : Returned) : ReadLoop :=
  match l.failure with
  | some _ => l
  | none =>
    match buildObservation cfg.conversions r.stamp r.raw cfg.context with
    | .ok o => { l with published := l.published ++ [o] }
    | .error (.privacyViolation _) => l
    | .error e => { l with failure := some e }

def ReadLoop.onRead (cfg : CameraConfig) (l : ReadLoop) (metadataList : List Returned) : ReadLoop :=
  metadataList.foldl (ReadLoop.onMetadata cfg) l

def readLoop (cfg : CameraConfig) (reads : List (List Returned)) : ReadLoop :=
  reads.foldl (ReadLoop.onRead cfg) {}

/-- The loop is still running, and has published each dict that the builder accepts. -/
structure KeepsPublishing (cfg : CameraConfig) (reads : List (List Returned)) : Prop where
  running : (readLoop cfg reads).failure = none
  published : (readLoop cfg reads).published = reads.flatten.filterMap (observationOf cfg)

/-! ### Metadata that can be read -/

def Banned (raw : RawMeta) : Prop := ∃ k ∈ raw.keys, k ∈ bannedMetadataKeys

def IntReads (cv : Conversions) (raw : RawMeta) (key : String) (default : ℤ) (P : ℤ → Prop) :
    Prop :=
  ∃ n, pyInt cv ((raw.get key).getD (.int default)) = .ok n ∧ P n

/-- An optional member of a block is absent, null, or a value that pydantic takes. -/
def MemberReads {α : Type} (convert : Json → Option α) (P : α → Prop) (j : Json)
    (key : String) : Prop :=
  (j.get? key).getD .null = .null ∨ ∃ a, convert ((j.get? key).getD .null) = some a ∧ P a

structure DemographicsReads (cv : Conversions) (j : Json) : Prop where
  isDict : ∃ ms, j = .obj ms
  ageGroup : MemberReads (laxBins cv) (fun _ => True) j "age_group"
  gender : MemberReads (laxBins cv) (fun _ => True) j "gender"
  attire : MemberReads (laxBins cv) (fun _ => True) j "attire"
  dwell : MemberReads cv.laxInt (fun d => 0 ≤ d) j "dwell_estimate_ms"
  suppressed : MemberReads cv.laxBool (fun _ => True) j "suppressed"

structure AttentionReads (cv : Conversions) (j : Json) : Prop where
  isDict : ∃ ms, j = .obj ms
  engaged : MemberReads cv.laxFloat (fun x => x.inUnit = true) j "engaged"
  ambient : MemberReads cv.laxFloat (fun x => x.inUnit = true) j "ambient"

structure MetadataReads (cfg : CameraConfig) (raw : RawMeta) : Prop where
  ids : ∀ id ∈ cfg.context.ids, 1 ≤ id.length
  personCount : IntReads cfg.conversions raw "person_count" 0 fun n => 0 ≤ n
  confidence : ∃ x, pyFloat cfg.conversions
    ((raw.get "confidence_mean").getD (.num 0)) = .ok x ∧
    x.inUnit = true
  framesProcessed : IntReads cfg.conversions raw "frames_processed" 1 fun _ => True
  framesDropped : IntReads cfg.conversions raw "frames_dropped" 0 fun _ => True
  demographics : ∀ v, raw.get "demographics" = some v → DemographicsReads cfg.conversions v
  attention : ∀ v, raw.get "attention" = some v → AttentionReads cfg.conversions v
  frameSeq : IntReads cfg.conversions raw "frame_seq" 0 fun n => 0 ≤ n

/-! ### What the builder accepts -/

section Accepts

variable {cv : Conversions} {raw : RawMeta} {j : Json}

theorem mapError_ok_iff {ε ε' α : Type} {x : Except ε α} {f : ε → ε'} {a : α} :
    x.mapError f = .ok a ↔ x = .ok a := by
  refine ⟨mapError_ok, fun h => ?_⟩
  rw [h]
  rfl

theorem intOr_ok_iff {key : String} {default n : ℤ} :
    intOr cv raw key default = .ok n ↔ pyInt cv ((raw.get key).getD (.int default)) = .ok n :=
  mapError_ok_iff

theorem floatOr_ok_iff {key : String} {default : ℚ} {x : PyFloat} :
    floatOr cv raw key default = .ok x ↔ pyFloat cv ((raw.get key).getD (.num default)) = .ok x :=
  mapError_ok_iff

theorem optional_reads_iff {α : Type} {convert : Json → Option α} {P : α → Prop} {v : Json} :
    (∃ r, optional convert v = .ok r ∧ ∀ a ∈ r, P a) ↔
      v = .null ∨ ∃ a, convert v = some a ∧ P a := by
  refine ⟨fun h => ?_, fun h => ?_⟩
  · obtain ⟨r, hr, hP⟩ := h
    rcases optional_ok hr with ⟨rfl, -⟩ | ⟨-, a, ha, rfl⟩
    · exact Or.inl rfl
    · exact Or.inr ⟨a, ha, hP a rfl⟩
  · by_cases hnull : v = .null
    · subst hnull
      exact ⟨none, rfl, fun a ha => nomatch ha⟩
    · obtain ⟨a, ha, hP⟩ := h.resolve_left hnull
      refine ⟨some a, ?_, fun b hb => Option.some.inj hb ▸ hP⟩
      cases v with
      | null => exact absurd rfl hnull
      | _ => simp only [optional, ha]

theorem field_reads_iff {α : Type} {convert : Json → Option α} {P : α → Prop}
    {key : String} :
    (∃ r, (member j key).bind (optional convert) = .ok r ∧ ∀ a ∈ r, P a) ↔
      (∃ ms, j = .obj ms) ∧ MemberReads convert P j key := by
  cases j with
  | obj ms =>
    have hmember : (member (.obj ms) key).bind (optional convert) =
        optional convert (((Json.obj ms).get? key).getD .null) := rfl
    rw [hmember, optional_reads_iff]
    exact ⟨fun h => ⟨⟨ms, rfl⟩, h⟩, fun h => h.2⟩
  | _ => exact ⟨fun ⟨_, h, _⟩ => (nomatch h), fun h => nomatch h.1⟩

theorem field_some {α : Type} {convert : Json → Option α} {key : String} {r : Option α}
    (h : (member j key).bind (optional convert) = .ok r) :
    (∃ ms, j = .obj ms) ∧ MemberReads convert (fun _ => True) j key :=
  field_reads_iff.mp ⟨r, h, fun _ _ => trivial⟩

theorem parseDemographics_iff :
    (∃ d, parseDemographics cv j = .ok d) ↔ DemographicsReads cv j := by
  refine ⟨fun h => ?_, fun h => ?_⟩
  · obtain ⟨d, hd⟩ := h
    have hparsed := parseDemographics_ok hd
    have hdwell := field_reads_iff.mp ⟨_, hparsed.dwell, d.dwell_nonneg⟩
    exact ⟨hdwell.1, (field_some hparsed.ageGroup).2, (field_some hparsed.gender).2,
      (field_some hparsed.attire).2, hdwell.2, (field_some hparsed.suppressed).2⟩
  · obtain ⟨age, hage, -⟩ := field_reads_iff.mpr ⟨h.isDict, h.ageGroup⟩
    obtain ⟨gender, hgender, -⟩ := field_reads_iff.mpr ⟨h.isDict, h.gender⟩
    obtain ⟨attire, hattire, -⟩ := field_reads_iff.mpr ⟨h.isDict, h.attire⟩
    obtain ⟨dwell, hdwell, hnonneg⟩ := field_reads_iff.mpr ⟨h.isDict, h.dwell⟩
    obtain ⟨suppressed, hsuppressed, -⟩ := field_reads_iff.mpr ⟨h.isDict, h.suppressed⟩
    refine ⟨⟨age, gender, attire, dwell, suppressed, hnonneg⟩, ?_⟩
    simp only [parseDemographics, hage, hgender, hattire, hdwell, hsuppressed]
    exact dif_pos hnonneg

theorem parseAttention_iff : (∃ a, parseAttention cv j = .ok a) ↔ AttentionReads cv j := by
  refine ⟨fun h => ?_, fun h => ?_⟩
  · obtain ⟨a, ha⟩ := h
    obtain ⟨hengaged, hambient⟩ := parseAttention_ok ha
    have he := field_reads_iff.mp ⟨_, hengaged, a.engaged_inUnit⟩
    have hb := field_reads_iff.mp ⟨_, hambient, a.ambient_inUnit⟩
    exact ⟨he.1, he.2, hb.2⟩
  · obtain ⟨engaged, hengaged, hunit⟩ := field_reads_iff.mpr ⟨h.isDict, h.engaged⟩
    obtain ⟨ambient, hambient, hunit'⟩ := field_reads_iff.mpr ⟨h.isDict, h.ambient⟩
    refine ⟨⟨engaged, ambient, hunit, hunit'⟩, ?_⟩
    simp only [parseAttention, hengaged, hambient]
    exact dif_pos ⟨hunit, hunit'⟩

theorem block_reads_iff {α : Type} {parse : Json → Except BuildError α} {P : Json → Prop}
    {key : String} (h : ∀ {v}, (∃ a, parse v = .ok a) ↔ P v) :
    (∃ r, block parse raw key = .ok r) ↔ ∀ v, raw.get key = some v → P v := by
  unfold block
  cases hget : raw.get key with
  | none => simp
  | some v =>
    have hmap : (∃ r, (parse v).map some = .ok r) ↔ ∃ a, parse v = .ok a := by
      cases hparse : parse v with
      | error e => simp [Except.map]
      | ok a => simp [Except.map]
    simp [hmap, h]

theorem buildCounts_iff : (∃ c, buildCounts cv raw = .ok c) ↔
    IntReads cv raw "person_count" 0 (fun n => 0 ≤ n) ∧
      ∃ x, pyFloat cv ((raw.get "confidence_mean").getD (.num 0)) = .ok x ∧
        x.inUnit = true := by
  refine ⟨fun h => ?_, fun h => ?_⟩
  · obtain ⟨c, hc⟩ := h
    obtain ⟨hpresent, hconfidence⟩ := buildCounts_ok hc
    exact ⟨⟨_, intOr_ok_iff.mp hpresent, c.present_nonneg⟩,
      _, floatOr_ok_iff.mp hconfidence, c.confidence_inUnit⟩
  · obtain ⟨⟨n, hn, hnonneg⟩, x, hx, hunit⟩ := h
    have hpresent := intOr_ok_iff.mpr hn
    have hconfidence := floatOr_ok_iff.mpr hx
    refine ⟨⟨n, x, hnonneg, hunit⟩, ?_⟩
    simp only [buildCounts, hpresent, hconfidence]
    exact dif_pos ⟨hnonneg, hunit⟩

theorem buildQuality_iff : (∃ q, buildQuality cv raw = .ok q) ↔
    IntReads cv raw "frames_processed" 1 (fun _ => True) ∧
      IntReads cv raw "frames_dropped" 0 fun _ => True := by
  refine ⟨fun h => ?_, fun h => ?_⟩
  · obtain ⟨q, hq⟩ := h
    obtain ⟨hprocessed, hdropped⟩ := buildQuality_ok hq
    exact ⟨⟨_, intOr_ok_iff.mp hprocessed, trivial⟩, _, intOr_ok_iff.mp hdropped, trivial⟩
  · obtain ⟨⟨n, hn, -⟩, m, hm, -⟩ := h
    have hprocessed := intOr_ok_iff.mpr hn
    have hdropped := intOr_ok_iff.mpr hm
    exact ⟨_, by simp only [buildQuality, hprocessed, hdropped]; rfl⟩

theorem checkBannedKeys_ok (h : ¬ Banned raw) : checkBannedKeys raw = .ok () := by
  have hnone : (raw.keys.filter fun k => decide (k ∈ bannedMetadataKeys)) = [] := by
    refine List.filter_eq_nil_iff.mpr fun k hk hbanned => h ⟨k, hk, ?_⟩
    exact of_decide_eq_true hbanned
  simp [checkBannedKeys, hnone]

theorem checkBannedKeys_banned (h : Banned raw) :
    ∃ found, checkBannedKeys raw = .error (.privacyViolation found) := by
  obtain ⟨k, hk, hbanned⟩ := h
  have hmem : k ∈ raw.keys.filter fun k => decide (k ∈ bannedMetadataKeys) :=
    List.mem_filter.mpr ⟨hk, decide_eq_true hbanned⟩
  have hsome : (raw.keys.filter fun k => decide (k ∈ bannedMetadataKeys)).isEmpty = false := by
    cases hf : raw.keys.filter fun k => decide (k ∈ bannedMetadataKeys) with
    | nil => rw [hf] at hmem; cases hmem
    | cons a as => rfl
  exact ⟨_, by simp only [checkBannedKeys, hsome]; rfl⟩

/-! ### Which errors it raises -/

/-- Only the check of the banned keys raises the error that the loop catches. -/
def NoPrivacy {α : Type} (x : Except BuildError α) : Prop :=
  ∀ found, x ≠ .error (.privacyViolation found)

theorem NoPrivacy.bind {α β : Type} {x : Except BuildError α} {f : α → Except BuildError β}
    (hx : NoPrivacy x) (hf : ∀ a, NoPrivacy (f a)) : NoPrivacy (x.bind f) := by
  intro found h
  cases x with
  | error e => exact hx found (congrArg Except.error (Except.error.inj h))
  | ok a => exact hf a found h

theorem noPrivacy_uncaught {α : Type} (x : Except Raised α) :
    NoPrivacy (x.mapError BuildError.uncaught) := by
  intro found h
  cases x <;> cases h

theorem noPrivacy_dite {α : Type} {p : Prop} [Decidable p] {value : p → α} :
    NoPrivacy (if h : p then .ok (value h) else .error .validation : Except BuildError α) := by
  intro found h
  split at h <;> cases h

theorem noPrivacy_optional {α : Type} (convert : Json → Option α) (v : Json) :
    NoPrivacy (optional convert v) := by
  intro found h
  unfold optional at h
  split at h
  · cases h
  · split at h <;> cases h

theorem noPrivacy_field {α : Type} (convert : Json → Option α) (key : String) :
    NoPrivacy ((member j key).bind (optional convert)) :=
  (noPrivacy_uncaught _).bind (noPrivacy_optional convert)

theorem noPrivacy_parseDemographics : NoPrivacy (parseDemographics cv j) :=
  (noPrivacy_field _ _).bind fun _ => (noPrivacy_field _ _).bind fun _ =>
    (noPrivacy_field _ _).bind fun _ => (noPrivacy_field _ _).bind fun _ =>
      (noPrivacy_field _ _).bind fun _ => noPrivacy_dite

theorem noPrivacy_parseAttention : NoPrivacy (parseAttention cv j) :=
  (noPrivacy_field _ _).bind fun _ => (noPrivacy_field _ _).bind fun _ => noPrivacy_dite

theorem noPrivacy_block {α : Type} {parse : Json → Except BuildError α} {key : String}
    (h : ∀ v, NoPrivacy (parse v)) : NoPrivacy (block parse raw key) := by
  unfold block
  cases raw.get key with
  | none => exact fun _ hnone => nomatch hnone
  | some v =>
    intro found herror
    cases hparse : parse v with
    | error e =>
      have he : (.error e : Except BuildError (Option α)) = .error (.privacyViolation found) := by
        simpa [hparse, Except.map] using herror
      exact h v found (hparse.trans (congrArg Except.error (Except.error.inj he)))
    | ok a => simp [hparse, Except.map] at herror

theorem buildObservation_cases (cv : Conversions) (stamp : Stamp) (raw : RawMeta)
    (context : ObservationContext) :
    (Banned raw ∧ ∃ found, buildObservation cv stamp raw context =
        .error (.privacyViolation found)) ∨
      ¬ Banned raw ∧ NoPrivacy (buildObservation cv stamp raw context) := by
  by_cases hbanned : Banned raw
  · obtain ⟨found, hfound⟩ := checkBannedKeys_banned hbanned
    exact Or.inl ⟨hbanned, found, by rw [buildObservation, hfound]; rfl⟩
  · refine Or.inr ⟨hbanned, ?_⟩
    rw [buildObservation, checkBannedKeys_ok hbanned]
    have hcounts : NoPrivacy (buildCounts cv raw) :=
      (noPrivacy_uncaught _).bind fun _ => (noPrivacy_uncaught _).bind fun _ => noPrivacy_dite
    have hquality : NoPrivacy (buildQuality cv raw) :=
      (noPrivacy_uncaught _).bind fun _ => (noPrivacy_uncaught _).bind fun _ _ h => nomatch h
    exact hcounts.bind fun _ => hquality.bind fun _ =>
      (noPrivacy_block fun _ => noPrivacy_parseDemographics).bind fun _ =>
        (noPrivacy_block fun _ => noPrivacy_parseAttention).bind fun _ =>
          (noPrivacy_uncaught _).bind fun _ => noPrivacy_dite

end Accepts

/-! ### One dict, and all of them -/

section Loop

variable {cfg : CameraConfig} {l : ReadLoop} {r : Returned}

theorem buildObservation_iff (cfg : CameraConfig) (r : Returned) (h : ¬ Banned r.raw) :
    (∃ o, buildObservation cfg.conversions r.stamp r.raw cfg.context = .ok o) ↔
      MetadataReads cfg r.raw := by
  refine ⟨fun hok => ?_, fun hreads => ?_⟩
  · obtain ⟨o, ho⟩ := hok
    have hbuilt := buildObservation_ok ho
    obtain ⟨hperson, hconfidence⟩ := buildCounts_iff.mp ⟨_, hbuilt.counts⟩
    obtain ⟨hprocessed, hdropped⟩ := buildQuality_iff.mp ⟨_, hbuilt.quality⟩
    refine ⟨?_, hperson, hconfidence, hprocessed, hdropped,
      (block_reads_iff parseDemographics_iff).mp ⟨_, hbuilt.demographics⟩,
      (block_reads_iff parseAttention_iff).mp ⟨_, hbuilt.attention⟩,
      _, intOr_ok_iff.mp hbuilt.frameSeq, o.frameSeq_nonneg⟩
    rw [← hbuilt.context]
    exact o.ids_nonempty
  · obtain ⟨counts, hcounts⟩ := buildCounts_iff.mpr ⟨hreads.personCount, hreads.confidence⟩
    obtain ⟨quality, hquality⟩ :=
      buildQuality_iff.mpr ⟨hreads.framesProcessed, hreads.framesDropped⟩
    obtain ⟨demographics, hdemographics⟩ :=
      (block_reads_iff parseDemographics_iff).mpr hreads.demographics
    obtain ⟨attention, hattention⟩ := (block_reads_iff parseAttention_iff).mpr hreads.attention
    obtain ⟨frameSeq, hframeSeq, hnonneg⟩ := hreads.frameSeq
    have hframe := intOr_ok_iff.mpr hframeSeq
    refine ⟨{ stamp := r.stamp, context := cfg.context, frameSeq, counts, demographics, attention,
              quality, ids_nonempty := hreads.ids, frameSeq_nonneg := hnonneg }, ?_⟩
    simp only [buildObservation, checkBannedKeys_ok h, hcounts, hquality, hdemographics, hattention,
      hframe]
    exact dif_pos ⟨hreads.ids, hnonneg⟩

/-- Of a dict that is banned or reads well the running loop publishes what the builder makes of
it; any other ends the loop. -/
theorem onMetadata_running (cfg : CameraConfig) (r : Returned) (hrunning : l.failure = none) :
    ((l.onMetadata cfg r).failure = none ↔ Banned r.raw ∨ MetadataReads cfg r.raw) ∧
      ((l.onMetadata cfg r).failure = none →
        (l.onMetadata cfg r).published = l.published ++ (observationOf cfg r).toList) := by
  have hstep : l.onMetadata cfg r =
      match buildObservation cfg.conversions r.stamp r.raw cfg.context with
      | .ok o => { l with published := l.published ++ [o] }
      | .error (.privacyViolation _) => l
      | .error e => { l with failure := some e } := by
    rw [ReadLoop.onMetadata, hrunning]
  rw [hstep, observationOf]
  rcases buildObservation_cases cfg.conversions r.stamp r.raw cfg.context with
    ⟨hbanned, found, hbuild⟩ | ⟨hbanned, hno⟩
  · rw [hbuild]
    exact ⟨⟨fun _ => Or.inl hbanned, fun _ => hrunning⟩, fun _ => (List.append_nil _).symm⟩
  · have hiff := buildObservation_iff cfg r hbanned
    cases hbuild : buildObservation cfg.conversions r.stamp r.raw cfg.context with
    | ok o =>
      exact ⟨⟨fun _ => Or.inr (hiff.mp ⟨o, hbuild⟩), fun _ => hrunning⟩, fun _ => rfl⟩
    | error e =>
      have hrefused : ¬ (Banned r.raw ∨ MetadataReads cfg r.raw) := by
        intro hgood
        obtain ⟨o, ho⟩ := hiff.mpr (hgood.resolve_left hbanned)
        rw [ho] at hbuild
        cases hbuild
      cases e with
      | privacyViolation found => exact absurd hbuild (hno found)
      | uncaught e =>
        exact ⟨⟨fun h => (nomatch h), fun h => absurd h hrefused⟩, fun h => nomatch h⟩
      | validation =>
        exact ⟨⟨fun h => (nomatch h), fun h => absurd h hrefused⟩, fun h => nomatch h⟩

theorem foldl_failed {e : BuildError} (hfailed : l.failure = some e) (rs : List Returned) :
    (rs.foldl (ReadLoop.onMetadata cfg) l).failure = some e := by
  induction rs with
  | nil => exact hfailed
  | cons r rs ih =>
    have hstay : l.onMetadata cfg r = l := by rw [ReadLoop.onMetadata, hfailed]
    rw [List.foldl_cons, hstay]
    exact ih

/-- Over a list of dicts the loop runs on exactly where each is banned or reads well. -/
theorem foldl_running_iff (hrunning : l.failure = none) (rs : List Returned) :
    (rs.foldl (ReadLoop.onMetadata cfg) l).failure = none ↔
      ∀ r ∈ rs, Banned r.raw ∨ MetadataReads cfg r.raw := by
  induction rs generalizing l with
  | nil => simp [hrunning]
  | cons r rs ih =>
    have hgoes := (onMetadata_running cfg r hrunning).1
    rw [List.foldl_cons, List.forall_mem_cons]
    cases hnext : (l.onMetadata cfg r).failure with
    | none =>
      rw [ih hnext]
      exact ⟨fun h => ⟨hgoes.mp hnext, h⟩, fun h => h.2⟩
    | some e =>
      -- the dict has ended the loop, and nothing starts it again
      rw [foldl_failed hnext]
      refine ⟨fun h => (nomatch h), fun h => ?_⟩
      rw [hgoes.mpr h.1] at hnext
      cases hnext

theorem foldl_published (hrunning : l.failure = none) (rs : List Returned)
    (h : (rs.foldl (ReadLoop.onMetadata cfg) l).failure = none) :
    (rs.foldl (ReadLoop.onMetadata cfg) l).published =
      l.published ++ rs.filterMap (observationOf cfg) := by
  induction rs generalizing l with
  | nil => simp
  | cons r rs ih =>
    rw [List.foldl_cons] at h ⊢
    cases hnext : (l.onMetadata cfg r).failure with
    | none =>
      rw [ih hnext h, (onMetadata_running cfg r hrunning).2 hnext]
      cases ha : observationOf cfg r with
      | none => rw [List.filterMap_cons_none ha]; simp
      | some o => rw [List.filterMap_cons_some ha]; simp
    | some e =>
      rw [foldl_failed hnext] at h
      cases h

theorem readLoop_eq (cfg : CameraConfig) (reads : List (List Returned)) :
    readLoop cfg reads = reads.flatten.foldl (ReadLoop.onMetadata cfg) {} :=
  (List.foldl_flatten ..).symm

/-- The loop goes on over all that the driver returns, and publishes what the builder accepts,
exactly when each dict has a banned key or reads well throughout. -/
theorem keepsPublishing_iff (cfg : CameraConfig) (reads : List (List Returned)) :
    KeepsPublishing cfg reads ↔
      ∀ r ∈ reads.flatten, Banned r.raw ∨ MetadataReads cfg r.raw := by
  rw [← foldl_running_iff (l := {}) rfl, ← readLoop_eq]
  refine ⟨fun h => h.running, fun h => ⟨h, ?_⟩⟩
  rw [readLoop_eq] at h ⊢
  exact foldl_published (l := {}) rfl _ h

/-- A pass of the camera's loop is this loop on the one dict of the slot. -/
theorem readAndPublish_onMetadata {loop : CameraLoop} {c : Captured}
    (hopen : loop.pipelineOpen = true) (hslot : loop.latestMetadata = some c)
    (hreading : loop.phase = .reading) (stamp : Stamp) :
    let now := loop.readAndPublish cfg stamp
    let l : ReadLoop := ⟨loop.published.map Published.observation, none⟩
    now.published.map Published.observation =
        (l.onMetadata cfg ⟨stamp, c.sample.metadata⟩).published ∧
      (now.phase = .stopped ↔
        (l.onMetadata cfg ⟨stamp, c.sample.metadata⟩).failure ≠ none) := by
  simp only [CameraLoop.readAndPublish, hopen, hslot, if_true, ReadLoop.onMetadata]
  cases buildObservation cfg.conversions stamp c.sample.metadata cfg.context with
  | ok o => simp [CameraLoop.publish, hreading]
  | error e => cases e <;> simp [CameraLoop.stop, CameraLoop.closeDriver, hreading]

end Loop

/-! ### A tracked object without a detection -/

/-- The tracker reports a confidence of its own, -0.1, for an object it has carried on. -/
def carriedOn : Sample := ⟨some 1, [⟨0, .finite (-1 / 10)⟩]⟩

theorem carriedOn_stops : ¬ ∀ (cfg : CameraConfig) (reads : List (List Returned)),
    KeepsPublishing cfg reads := by
  intro h
  have hrunning := (h pilotCamera [[⟨pilotStamp, carriedOn.metadata⟩],
    [⟨pilotStamp, (onePerson 2).metadata⟩]]).running
  exact absurd hrunning (by decide +kernel)

end AdaptiveAdvertisement.InputCv
