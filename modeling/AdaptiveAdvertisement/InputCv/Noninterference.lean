import AdaptiveAdvertisement.InputCv.ObservationShape
import AdaptiveAdvertisement.Library.SameJson

/-!
# What a published observation reveals

Two raw metadata dictionaries that agree on the declared aggregate fields, and what is published
of each. The builder refuses banned keys at the top level (`builder.py:35-47`), and it hands the
dictionaries of bins on as they are (`builder.py:77-96`, `models.py:108-110`).
-/

namespace AdaptiveAdvertisement.InputCv
open Library Contracts

def RawMeta.json (raw : RawMeta) : Json := .obj raw.entries

def binBlocks : List (String × List String) :=
  [("age_group", ageBins), ("gender", genderBins), ("attire", attireBins)]

def declaredPaths : List (List String) :=
  [["person_count"], ["confidence_mean"], ["frames_processed"], ["frames_dropped"],
    ["pipeline_degraded"], ["frame_seq"], ["demographics", "dwell_estimate_ms"],
    ["demographics", "suppressed"], ["attention", "engaged"], ["attention", "ambient"]] ++
  binBlocks.flatMap fun b => b.2.map fun n => ["demographics", b.1, n]

def AgreeDeclared (raw raw' : RawMeta) : Prop :=
  ∀ path ∈ declaredPaths, raw.json.at? path = raw'.json.at? path

/-- The published JSON without the id and the time. -/
def CvObservation.unstamped (o : CvObservation) : Json :=
  match o.dump with
  | .obj ms => .obj (ms.filter fun m => decide (m.1 ∉ ["message_id", "produced_at"]))
  | v => v

def PublishedSame (o o' : CvObservation) : Prop := o.unstamped.Same o'.unstamped

/-- What is published for a bin of the raw metadata, declared or not. -/
def publishedBin (cv : Conversions) (raw : RawMeta) (block name : String) : Option Json :=
  ((raw.json.at? ["demographics", block, name]).bind cv.laxFloat).map PyFloat.dump

def Supplied (raw : RawMeta) (block : String) : Prop :=
  ∃ v, raw.json.at? ["demographics", block] = some v ∧ v ≠ .null

/-- The same blocks are there, and no other bin comes to something else. -/
structure Indistinct (cv : Conversions) (raw raw' : RawMeta) : Prop where
  demographics : (raw.get "demographics").isSome = (raw'.get "demographics").isSome
  attention : (raw.get "attention").isSome = (raw'.get "attention").isSome
  blocks : ∀ b ∈ binBlocks, Supplied raw b.1 ↔ Supplied raw' b.1
  bins : ∀ b ∈ binBlocks, ∀ name, name ∉ b.2 →
    publishedBin cv raw b.1 name = publishedBin cv raw' b.1 name

/-! ### Published values -/

section Dump

variable {o o' : CvObservation}

theorem dump_isObj (x : PyFloat) : x.dump.isObj = false := by
  cases x <;> rfl

theorem same_dumpBins_iff (b b' : Dict String PyFloat) : (dumpBins b).Same (dumpBins b') ↔
    ∀ name, (b.get name).map PyFloat.dump = (b'.get name).map PyFloat.dump := by
  unfold dumpBins
  rw [Json.same_obj_iff]
  refine forall_congr' fun name => ?_
  rw [Dict.find_map, Dict.find_map]
  change Option.Rel Json.Same ((b.get name).map _) ((b'.get name).map _) ↔ _
  cases b.get name with
  | none =>
    cases b'.get name with
    | none => exact ⟨fun _ => rfl, fun _ => .none⟩
    | some x' => exact ⟨fun h => (by cases h), fun h => (by cases h)⟩
  | some x =>
    cases b'.get name with
    | none => exact ⟨fun h => (by cases h), fun h => (by cases h)⟩
    | some x' =>
      refine ⟨fun h => ?_, fun h => .some (Json.same_of_eq (Option.some.inj h))⟩
      cases h with
      | some h => exact congrArg some ((Json.same_leaf_iff (dump_isObj x) (dump_isObj x')).mp h)

/-- The same bins are published in both, or neither has the block. -/
def SameBlock (x x' : Option (Dict String PyFloat)) : Prop :=
  Option.Rel (fun b b' => (dumpBins b).Same (dumpBins b')) x x'

theorem same_int_iff (x x' : Option ℤ) :
    (Json.ofOption Json.int x).Same (Json.ofOption Json.int x') ↔ x = x' := by
  have hleaf : ∀ y : Option ℤ, (Json.ofOption Json.int y).isObj = false := by
    intro y
    cases y <;> rfl
  rw [Json.same_leaf_iff (hleaf x) (hleaf x')]
  cases x <;> cases x' <;> simp [Json.ofOption, Json.int]

theorem same_bool_iff (x x' : Option Bool) :
    (Json.ofOption Json.bool x).Same (Json.ofOption Json.bool x') ↔ x = x' := by
  have hleaf : ∀ y : Option Bool, (Json.ofOption Json.bool y).isObj = false := by
    intro y
    cases y <;> rfl
  rw [Json.same_leaf_iff (hleaf x) (hleaf x')]
  cases x <;> cases x' <;> simp [Json.ofOption]

theorem same_demographics_iff (d d' : ObservationDemographics) : d.dump.Same d'.dump ↔
    (SameBlock d.ageGroup d'.ageGroup ∧ SameBlock d.gender d'.gender ∧
      SameBlock d.attire d'.attire) ∧
      d.dwellEstimateMs = d'.dwellEstimateMs ∧ d.suppressed = d'.suppressed := by
  unfold ObservationDemographics.dump
  simp (disch := simp) only [Json.same_obj_cons]
  rw [Json.same_ofOption_iff (fun _ => rfl), Json.same_ofOption_iff (fun _ => rfl),
    Json.same_ofOption_iff (fun _ => rfl), same_int_iff, same_bool_iff]
  have hnil : (Json.obj []).Same (.obj []) := Json.Same.refl _
  simp only [SameBlock, hnil, and_true, and_assoc]

theorem unstamped_eq (o : CvObservation) : o.unstamped =
    .obj [("schema_version", .str o.schemaVersion), ("message_type", .str o.messageType),
      ("tenant_id", .str o.context.tenantId), ("site_id", .str o.context.siteId),
      ("camera_id", .str o.context.cameraId), ("pipeline_id", .str o.context.pipelineId),
      ("frame_seq", .int o.frameSeq), ("window_ms", .int o.windowMs), ("counts", o.counts.dump),
      ("demographics", .ofOption ObservationDemographics.dump o.demographics),
      ("attention", .ofOption ObservationAttention.dump o.attention),
      ("quality", o.quality.dump), ("privacy", o.privacy.dump)] := by
  simp [CvObservation.unstamped, CvObservation.dump]

theorem privacy_dump_eq (p p' : ObservationPrivacy) : p.dump = p'.dump := by
  obtain ⟨himages, hurls, hembeddings⟩ := p.all_false
  obtain ⟨himages', hurls', hembeddings'⟩ := p'.all_false
  simp only [ObservationPrivacy.dump, himages, hurls, hembeddings, himages', hurls', hembeddings']

/-- What two observations of the same context, frame, counts and quality differ in. -/
theorem publishedSame_iff (hversion : o.schemaVersion = o'.schemaVersion)
    (htype : o.messageType = o'.messageType) (hwindow : o.windowMs = o'.windowMs)
    (hcontext : o.context = o'.context) (hframe : o.frameSeq = o'.frameSeq)
    (hcounts : o.counts = o'.counts) (hquality : o.quality = o'.quality) :
    PublishedSame o o' ↔
      Option.Rel (fun d d' => d.dump.Same d'.dump) o.demographics o'.demographics ∧
      Option.Rel (fun a a' => a.dump.Same a'.dump) o.attention o'.attention := by
  have hrefl : ∀ j : Json, j.Same j ↔ True := fun j => iff_true_intro (Json.Same.refl j)
  rw [PublishedSame, unstamped_eq, unstamped_eq, hversion, htype, hwindow, hcontext, hframe,
    hcounts, hquality, privacy_dump_eq o.privacy o'.privacy]
  simp (disch := simp) only [Json.same_obj_cons, hrefl, true_and, and_true]
  rw [Json.same_ofOption_iff (fun _ => rfl), Json.same_ofOption_iff (fun _ => rfl)]

end Dump

/-! ### Bins of the raw metadata -/

section Raw

variable {cv : Conversions} {raw raw' : RawMeta}

theorem at?_cons (raw : RawMeta) (key : String) (path : List String) :
    raw.json.at? (key :: path) = (raw.get key).bind (Json.at? path) := rfl

theorem at?_member {raw : RawMeta} {block : String} {v : Json} (hv : raw.get block = some v)
    (key : String) : raw.json.at? [block, key] = v.get? key := by
  rw [at?_cons, hv, Option.bind_some, Json.at?_singleton]

theorem at?_bin {raw : RawMeta} {block : String} {v : Json} (hv : raw.get block = some v)
    (key name : String) :
    raw.json.at? [block, key, name] = (v.get? key).bind fun w => w.get? name := by
  rw [at?_cons, hv, Option.bind_some]
  exact Option.bind_congr fun w _ => Json.at?_singleton w name

/-- A dictionary of bins as it is published of a parsed block. -/
theorem parsedBlock {j : Json} {key : String} {r : Option (Dict String PyFloat)}
    (h : (member j key).bind (optional (laxBins cv)) = .ok r) :
    (r.isSome = true ↔ ∃ v, j.get? key = some v ∧ v ≠ .null) ∧
      ∀ name, (r.bind fun b => b.get name) =
        ((j.get? key).bind fun v => v.get? name).bind cv.laxFloat := by
  obtain ⟨v, hv, hopt⟩ := bind_ok h
  have hget := pyGet_ok (mapError_ok hv)
  rcases optional_ok hopt with ⟨rfl, rfl⟩ | ⟨hne, b, hb, rfl⟩
  · refine ⟨⟨fun hs => (by cases hs), fun hs => ?_⟩, fun name => ?_⟩
    · obtain ⟨w, hw, hnull⟩ := hs
      rw [hw] at hget
      exact absurd hget.symm hnull
    · cases hj : j.get? key with
      | none => rfl
      | some w =>
        rw [hj] at hget
        have hw : w = .null := hget.symm
        rw [hw]
        rfl
  · have hsome : j.get? key = some v := by
      cases hj : j.get? key with
      | none => exact absurd (by rw [hget, hj]; rfl) hne
      | some w => rw [hget, hj]; rfl
    refine ⟨⟨fun _ => ⟨v, hsome, hne⟩, fun _ => rfl⟩, fun name => ?_⟩
    rw [hsome]
    obtain ⟨ms, rfl⟩ := laxBins_obj hb
    have hbins := Dict.get_traverse hb name
    rw [Dict.get_ofList] at hbins
    exact hbins

theorem field_congr {α : Type} {f : Json → Option α} {j j' : Json} {key : String}
    {r r' : Option α} (h : (member j key).bind (optional f) = .ok r)
    (h' : (member j' key).bind (optional f) = .ok r') (hsame : j.get? key = j'.get? key) :
    r = r' := by
  obtain ⟨v, hv, hopt⟩ := bind_ok h
  obtain ⟨v', hv', hopt'⟩ := bind_ok h'
  have hvalue : v = v' := by
    rw [pyGet_ok (mapError_ok hv), pyGet_ok (mapError_ok hv'), hsame]
  rw [hvalue, hopt'] at hopt
  exact (Except.ok.inj hopt).symm

theorem block_ok {α : Type} {parse : Json → Except BuildError α} {key : String} {r : Option α}
    (h : block parse raw key = .ok r) : (raw.get key = none ∧ r = none) ∨
      ∃ v a, raw.get key = some v ∧ parse v = .ok a ∧ r = some a := by
  unfold block at h
  cases hv : raw.get key with
  | none =>
    rw [hv] at h
    exact Or.inl ⟨rfl, (Except.ok.inj h).symm⟩
  | some v =>
    rw [hv] at h
    obtain ⟨a, ha, rfl⟩ := map_ok h
    exact Or.inr ⟨v, a, rfl, ha, rfl⟩

/-- Two readings of a block are related where both or neither have it, and `Q` says what that
comes to where both have it. -/
theorem block_rel_iff {α : Type} {R : α → α → Prop} {Q : Prop}
    {parse : Json → Except BuildError α} {key : String} {r r' : Option α}
    (h : block parse raw key = .ok r) (h' : block parse raw' key = .ok r')
    (hneither : raw.get key = none → raw'.get key = none → Q)
    (hboth : ∀ v v' a a', raw.get key = some v → raw'.get key = some v' → parse v = .ok a →
      parse v' = .ok a' → (R a a' ↔ Q)) :
    Option.Rel R r r' ↔ (raw.get key).isSome = (raw'.get key).isSome ∧ Q := by
  rcases block_ok h with ⟨hnone, rfl⟩ | ⟨v, a, hv, ha, rfl⟩ <;>
    rcases block_ok h' with ⟨hnone', rfl⟩ | ⟨v', a', hv', ha', rfl⟩
  · exact iff_of_true .none ⟨by rw [hnone, hnone'], hneither hnone hnone'⟩
  · refine iff_of_false (fun hr => (by cases hr)) fun hall => ?_
    rw [hnone, hv'] at hall
    cases hall.1
  · refine iff_of_false (fun hr => (by cases hr)) fun hall => ?_
    rw [hv, hnone'] at hall
    cases hall.1
  · have hiff := hboth v v' a a' hv hv' ha ha'
    refine ⟨fun hr => ⟨by rw [hv, hv']; rfl, ?_⟩, fun hall => .some (hiff.mpr hall.2)⟩
    cases hr with
    | some hr => exact hiff.mp hr

theorem sameBlock_iff (x x' : Option (Dict String PyFloat)) : SameBlock x x' ↔
    x.isSome = x'.isSome ∧ ∀ name, (x.bind fun b => b.get name).map PyFloat.dump =
      (x'.bind fun b => b.get name).map PyFloat.dump := by
  unfold SameBlock
  cases x with
  | none =>
    cases x' with
    | none => exact ⟨fun _ => ⟨rfl, fun _ => rfl⟩, fun _ => .none⟩
    | some b' => exact ⟨fun h => (by cases h), fun h => (by cases h.1)⟩
  | some b =>
    cases x' with
    | none => exact ⟨fun h => (by cases h), fun h => (by cases h.1)⟩
    | some b' =>
      refine ⟨fun h => ?_, fun h => .some ((same_dumpBins_iff b b').mpr h.2)⟩
      cases h with
      | some h => exact ⟨rfl, (same_dumpBins_iff b b').mp h⟩

section Agree

variable (hagree : AgreeDeclared raw raw')
include hagree

theorem agree_get {key : String} (h : [key] ∈ declaredPaths) : raw.get key = raw'.get key := by
  have hpath := hagree _ h
  rw [Json.at?_singleton, Json.at?_singleton] at hpath
  exact hpath

theorem agree_member {block key : String} {v v' : Json} (h : [block, key] ∈ declaredPaths)
    (hv : raw.get block = some v) (hv' : raw'.get block = some v') :
    v.get? key = v'.get? key := by
  rw [← at?_member hv, ← at?_member hv']
  exact hagree _ h

theorem agree_bin {b : String × List String} (hb : b ∈ binBlocks) {name : String}
    (hname : name ∈ b.2) : publishedBin cv raw b.1 name = publishedBin cv raw' b.1 name := by
  have hpath : ["demographics", b.1, name] ∈ declaredPaths :=
    List.mem_append_right _ (List.mem_flatMap.mpr ⟨b, hb, List.mem_map_of_mem hname⟩)
  rw [publishedBin, publishedBin, hagree _ hpath]

/-- A block of bins comes to the same in both where it is supplied in both or in neither and the
undeclared bins come to the same. -/
theorem sameBlock_agree {b : String × List String} (hb : b ∈ binBlocks) {v v' : Json}
    {r r' : Option (Dict String PyFloat)} (hv : raw.get "demographics" = some v)
    (hv' : raw'.get "demographics" = some v')
    (h : (member v b.1).bind (optional (laxBins cv)) = .ok r)
    (h' : (member v' b.1).bind (optional (laxBins cv)) = .ok r') :
    SameBlock r r' ↔ (Supplied raw b.1 ↔ Supplied raw' b.1) ∧
      ∀ name, name ∉ b.2 → publishedBin cv raw b.1 name = publishedBin cv raw' b.1 name := by
  obtain ⟨hsome, hbins⟩ := parsedBlock h
  obtain ⟨hsome', hbins'⟩ := parsedBlock h'
  have hpublished : ∀ name, publishedBin cv raw b.1 name =
      (r.bind fun d => d.get name).map PyFloat.dump := by
    intro name
    rw [publishedBin, at?_bin hv, hbins]
  have hpublished' : ∀ name, publishedBin cv raw' b.1 name =
      (r'.bind fun d => d.get name).map PyFloat.dump := by
    intro name
    rw [publishedBin, at?_bin hv', hbins']
  have hsupplied : Supplied raw b.1 ↔ r.isSome = true := by
    rw [hsome, Supplied, at?_member hv]
  have hsupplied' : Supplied raw' b.1 ↔ r'.isSome = true := by
    rw [hsome', Supplied, at?_member hv']
  rw [sameBlock_iff, hsupplied, hsupplied', Bool.eq_iff_iff]
  refine and_congr_right fun _ => ⟨fun hall name _ => ?_, fun hother name => ?_⟩
  · rw [hpublished, hpublished']
    exact hall name
  · rw [← hpublished, ← hpublished']
    by_cases hname : name ∈ b.2
    · exact agree_bin hagree hb hname
    · exact hother name hname

theorem demographics_same_iff {v v' : Json} {x x' : ObservationDemographics}
    (hv : raw.get "demographics" = some v) (hv' : raw'.get "demographics" = some v')
    (hx : parseDemographics cv v = .ok x) (hx' : parseDemographics cv v' = .ok x') :
    x.dump.Same x'.dump ↔ ∀ b ∈ binBlocks, (Supplied raw b.1 ↔ Supplied raw' b.1) ∧
      ∀ name, name ∉ b.2 → publishedBin cv raw b.1 name = publishedBin cv raw' b.1 name := by
  have hp := parseDemographics_ok hx
  have hp' := parseDemographics_ok hx'
  have hdwell : x.dwellEstimateMs = x'.dwellEstimateMs := field_congr hp.dwell hp'.dwell
    (agree_member hagree (by simp [declaredPaths]) hv hv')
  have hsuppressed : x.suppressed = x'.suppressed := field_congr hp.suppressed hp'.suppressed
    (agree_member hagree (by simp [declaredPaths]) hv hv')
  rw [same_demographics_iff, iff_true_intro hdwell, iff_true_intro hsuppressed,
    sameBlock_agree hagree (b := ("age_group", ageBins)) (by simp [binBlocks]) hv hv'
      hp.ageGroup hp'.ageGroup,
    sameBlock_agree hagree (b := ("gender", genderBins)) (by simp [binBlocks]) hv hv'
      hp.gender hp'.gender,
    sameBlock_agree hagree (b := ("attire", attireBins)) (by simp [binBlocks]) hv hv'
      hp.attire hp'.attire]
  simp only [binBlocks, List.forall_mem_cons, List.not_mem_nil, false_implies, implies_true,
    and_true]

theorem demographics_agree {d d' : Option ObservationDemographics}
    (h : block (parseDemographics cv) raw "demographics" = .ok d)
    (h' : block (parseDemographics cv) raw' "demographics" = .ok d') :
    Option.Rel (fun x x' => x.dump.Same x'.dump) d d' ↔
      (raw.get "demographics").isSome = (raw'.get "demographics").isSome ∧
        ∀ b ∈ binBlocks, (Supplied raw b.1 ↔ Supplied raw' b.1) ∧
          ∀ name, name ∉ b.2 →
            publishedBin cv raw b.1 name = publishedBin cv raw' b.1 name := by
  refine block_rel_iff h h' (fun hnone hnone' b _ => ?_)
    fun v v' x x' hv hv' hx hx' => demographics_same_iff hagree hv hv' hx hx'
  have habsent : ∀ path, raw.json.at? ("demographics" :: path) =
      raw'.json.at? ("demographics" :: path) := by
    intro path
    rw [at?_cons, at?_cons, hnone, hnone']
  refine ⟨?_, fun name _ => ?_⟩
  · rw [Supplied, Supplied, habsent]
  · rw [publishedBin, publishedBin, habsent]

theorem attention_agree {a a' : Option ObservationAttention}
    (h : block (parseAttention cv) raw "attention" = .ok a)
    (h' : block (parseAttention cv) raw' "attention" = .ok a') :
    Option.Rel (fun x x' => x.dump.Same x'.dump) a a' ↔
      (raw.get "attention").isSome = (raw'.get "attention").isSome := by
  rw [block_rel_iff (Q := True) h h' (fun _ _ => trivial), and_true]
  intro v v' x x' hv hv' hx hx'
  obtain ⟨hengaged, hambient⟩ := parseAttention_ok hx
  obtain ⟨hengaged', hambient'⟩ := parseAttention_ok hx'
  have hfirst : x.engaged = x'.engaged := field_congr hengaged hengaged'
    (agree_member hagree (by simp [declaredPaths]) hv hv')
  have hsecond : x.ambient = x'.ambient := field_congr hambient hambient'
    (agree_member hagree (by simp [declaredPaths]) hv hv')
  have hdump : x.dump = x'.dump := by
    rw [ObservationAttention.dump, ObservationAttention.dump, hfirst, hsecond]
  exact iff_true_intro (Json.same_of_eq hdump)

end Agree

end Raw

/-! ### Two published observations -/

section Pair

variable {cv : Conversions} {raw raw' : RawMeta} {stamp stamp' : Stamp}
  {context : ObservationContext} {o o' : CvObservation}

/-- Metadata that agree on the declared fields can only differ in the two blocks. -/
theorem publishedSame_blocks_iff (hagree : AgreeDeclared raw raw')
    (h : buildObservation cv stamp raw context = .ok o)
    (h' : buildObservation cv stamp' raw' context = .ok o') :
    PublishedSame o o' ↔
      Option.Rel (fun d d' => d.dump.Same d'.dump) o.demographics o'.demographics ∧
      Option.Rel (fun a a' => a.dump.Same a'.dump) o.attention o'.attention := by
  have hb := buildObservation_ok h
  have hb' := buildObservation_ok h'
  have hget : ∀ key, [key] ∈ declaredPaths → raw.get key = raw'.get key :=
    fun _ hkey => agree_get hagree hkey
  have hframe : o.frameSeq = o'.frameSeq := by
    have hread := hb.frameSeq
    rw [intOr, hget "frame_seq" (by simp [declaredPaths])] at hread
    exact Except.ok.inj (hread.symm.trans hb'.frameSeq)
  have hcounts : o.counts = o'.counts := by
    have hread := hb.counts
    rw [buildCounts, intOr, floatOr, hget "person_count" (by simp [declaredPaths]),
      hget "confidence_mean" (by simp [declaredPaths])] at hread
    exact Except.ok.inj (hread.symm.trans hb'.counts)
  have hquality : o.quality = o'.quality := by
    have hread := hb.quality
    rw [buildQuality, intOr, intOr, hget "frames_processed" (by simp [declaredPaths]),
      hget "frames_dropped" (by simp [declaredPaths]),
      hget "pipeline_degraded" (by simp [declaredPaths])] at hread
    exact Except.ok.inj (hread.symm.trans hb'.quality)
  exact publishedSame_iff (hb.schemaVersion.trans hb'.schemaVersion.symm)
    (hb.messageType.trans hb'.messageType.symm) (hb.windowMs.trans hb'.windowMs.symm)
    (hb.context.trans hb'.context.symm) hframe hcounts hquality

/-- Of metadata that agree on the declared fields, the same is published exactly where they have
the same blocks and publish the same of every other bin. -/
theorem publishedSame_declared_iff (hagree : AgreeDeclared raw raw')
    (h : buildObservation cv stamp raw context = .ok o)
    (h' : buildObservation cv stamp' raw' context = .ok o') :
    PublishedSame o o' ↔ Indistinct cv raw raw' := by
  rw [publishedSame_blocks_iff hagree h h',
    demographics_agree hagree (buildObservation_ok h).demographics
      (buildObservation_ok h').demographics,
    attention_agree hagree (buildObservation_ok h).attention (buildObservation_ok h').attention]
  refine ⟨fun hl => ?_, fun hr => ?_⟩
  · obtain ⟨⟨hdemographics, hbins⟩, hattention⟩ := hl
    exact ⟨hdemographics, hattention, fun b hb => (hbins b hb).1, fun b hb => (hbins b hb).2⟩
  · exact ⟨⟨hr.demographics, fun b hb => ⟨hr.blocks b hb, hr.bins b hb⟩⟩, hr.attention⟩

end Pair

/-! ### An undeclared bin -/

def floatConversions : Conversions where
  parseInt := fun _ => none
  parseFloat := fun _ => none
  laxInt := Json.asInt?
  laxFloat := fun
    | .num q => some (.finite q)
    | _ => none
  laxBool := Json.asBool?

def deskContext : ObservationContext := ⟨"tenant-01", "site-01", "cam-02", "pipeline-01"⟩

def deskStamp : Stamp where
  messageId := "5c0e64f2-7d0b-4e9a-8a55-0f1d2c3b4a59"
  producedAt := "2026-01-01T00:00:00+00:00"
  uuid_length := by decide +kernel

/-- One adult, with `bins` in the same dictionary and `entries` beside the declared ones. -/
def adultMeta (bins entries : List (String × Json)) : RawMeta :=
  Dict.ofList ([("frame_seq", .int 7), ("person_count", .int 1),
    ("demographics", .obj [("age_group", .obj (("adult", .num 1) :: bins))])] ++ entries)

theorem operator_unpublished :
    ∃ o o', buildObservation floatConversions deskStamp (adultMeta [] []) deskContext = .ok o ∧
      buildObservation floatConversions deskStamp (adultMeta [] [("operator", .str "desk 2")])
        deskContext = .ok o' ∧ PublishedSame o o' := by
  obtain ⟨o, ho⟩ : ∃ o, buildObservation floatConversions deskStamp (adultMeta [] [])
      deskContext = .ok o := exists_of_isOk (by decide +kernel)
  obtain ⟨o', ho'⟩ : ∃ o, buildObservation floatConversions deskStamp
      (adultMeta [] [("operator", .str "desk 2")]) deskContext = .ok o :=
    exists_of_isOk (by decide +kernel)
  have hagree : AgreeDeclared (adultMeta [] []) (adultMeta [] [("operator", .str "desk 2")]) :=
    List.map_inj_left.mp rfl
  have hget : (adultMeta [] []).get "demographics" =
      (adultMeta [] [("operator", .str "desk 2")]).get "demographics" := rfl
  refine ⟨o, o', ho, ho', (publishedSame_declared_iff hagree ho ho').mpr
    ⟨by rw [hget], rfl, fun b _ => ?_, fun b _ name _ => ?_⟩⟩
  · rw [Supplied, Supplied, at?_cons, at?_cons, hget]
  · rw [publishedBin, publishedBin, at?_cons, at?_cons, hget]

theorem faceId_published : ∃ o o',
    buildObservation floatConversions deskStamp (adultMeta [] []) deskContext = .ok o ∧
    buildObservation floatConversions deskStamp
      (adultMeta [("face_id", .num 48211)] []) deskContext = .ok o' ∧
    AgreeDeclared (adultMeta [] []) (adultMeta [("face_id", .num 48211)] []) ∧
    ¬ PublishedSame o o' := by
  have hagree : AgreeDeclared (adultMeta [] []) (adultMeta [("face_id", .num 48211)] []) :=
    List.map_inj_left.mp rfl
  obtain ⟨o, ho⟩ : ∃ o, buildObservation floatConversions deskStamp (adultMeta [] [])
      deskContext = .ok o := exists_of_isOk (by decide +kernel)
  obtain ⟨o', ho'⟩ : ∃ o, buildObservation floatConversions deskStamp
      (adultMeta [("face_id", .num 48211)] []) deskContext = .ok o :=
    exists_of_isOk (by decide +kernel)
  refine ⟨o, o', ho, ho', hagree, fun hsame => ?_⟩
  have hbins := ((demographics_agree hagree (buildObservation_ok ho).demographics
    (buildObservation_ok ho').demographics).mp
      ((publishedSame_blocks_iff hagree ho ho').mp hsame).1).2
  have hface := (hbins ("age_group", ageBins) (by simp [binBlocks])).2 "face_id" (by decide)
  cases hface

end AdaptiveAdvertisement.InputCv
