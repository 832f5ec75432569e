import AdaptiveAdvertisement.Dashboard.AudienceSink

/-!
# What the audience sink lets through (`dashboard_api/audience_sink.py`)

`_parse_snapshot` 31-98 on any payload. The parts of a message are read one after the other, and
the first that is out of shape decides: some errors drop the message, the others leave the parser
and end the session of `run_audience_sink` 121-150.
-/

namespace AdaptiveAdvertisement.Dashboard
open Library Contracts
open DecisionOptimizer (memberOr)

/-! ### Faults -/

inductive Fault where
  | dropped
  | uncaught
  deriving DecidableEq

def faultOf {α : Type} : Except Raised α → Option Fault
  | .ok _ => none
  | .error e => some (if malformed e then .dropped else .uncaught)

def firstFault : List (Option Fault) → Option Fault
  | [] => none
  | c :: cs => c.or (firstFault cs)

theorem firstFault_none (cs : List (Option Fault)) : firstFault (none :: cs) = firstFault cs := rfl

theorem firstFault_append (cs cs' : List (Option Fault)) :
    firstFault (cs ++ cs') = (firstFault cs).or (firstFault cs') := by
  induction cs with
  | nil => rfl
  | cons c cs ih => rw [List.cons_append, firstFault, firstFault, ih, Option.or_assoc]

theorem faultOf_bind {α β : Type} {x : Except Raised α} {f : α → Except Raised β}
    {c : Option Fault} {cs : List (Option Fault)} (hx : faultOf x = c)
    (hf : ∀ a, x = .ok a → faultOf (f a) = firstFault cs) :
    faultOf (x >>= f) = firstFault (c :: cs) := by
  subst hx
  cases x with
  | error e => rfl
  | ok a => exact hf a rfl

section Parts

variable {τ : Type} (rt : SinkRuntime τ) (msg : Json)

/-- A part that is there is an object. -/
def objectFault (keys : List String) : Option Fault :=
  if (msg.at? keys).all Json.isObj then none else some .uncaught

/-- A part that is neither missing nor false is an object. -/
def blockFault (keys : List String) : Option Fault :=
  if (msg.at? keys).all fun v => !v.truthy || v.isObj then none else some .uncaught

def numberFault {α : Type} (read : Json → Except Raised α) (keys : List String) :
    Option Fault :=
  match msg.at? keys with
  | none => some .dropped
  | some v => faultOf (read v)

/-- What `demographics.get("suppressed", True)` gives. -/
def suppressedPart : Json := (msg.at? ["state", "demographics", "suppressed"]).getD (.bool true)

def binsFault (block : String) : Option Fault :=
  if (suppressedPart msg).truthy then none else blockFault msg ["state", "demographics", block]

def violates : Bool :=
  privacyFlags.any fun flag => ((msg.at? ["privacy", flag]).getD (.bool false)).truthy

def privacyFaults : List (Option Fault) := [objectFault msg [], objectFault msg ["privacy"]]

/-- The parts that are read behind the privacy gate, in their order. -/
def snapshotFaults : List (Option Fault) :=
  [if (msg.at? ["state", "presence"]).isSome then none else some .dropped,
    faultOf (rt.readTime ((msg.at? ["produced_at"]).getD (.str ""))),
    objectFault msg ["state", "demographics"],
    blockFault msg ["state", "attention"],
    numberFault msg (Number.toInt rt.texts) ["state", "presence", "count"],
    numberFault msg (Number.toFloat rt.texts) ["state", "presence", "confidence"],
    objectFault msg ["state", "stability"],
    objectFault msg ["source_quality"],
    binsFault msg "age_group", binsFault msg "gender", binsFault msg "attire",
    faultOf (readEngaged rt.texts ((msg.at? ["state", "attention", "engaged"]).getD .null))]

/-- All parts; the gate itself drops a message. -/
def messageFaults : List (Option Fault) :=
  privacyFaults msg ++ (if violates msg then some .dropped else none) :: snapshotFaults rt msg

end Parts

/-! ### Reading one part -/

section Reading

variable {j v : Json} {key : String}

theorem faultOf_memberOr (j : Json) (key : String) (default : Json) :
    faultOf (memberOr j key default) = if j.isObj then none else some .uncaught := by
  cases j <;> rfl

theorem faultOf_missing {α : Type} (h : j.get? key = none) (f : Json → Except Raised α) :
    faultOf (index j key >>= f) = some .dropped := by
  cases j with
  | obj ms =>
    have hfind : Dict.find key ms = none := h
    rw [index, hfind]
    rfl
  | null => rfl
  | bool b => rfl
  | num q => rfl
  | nonfinite x => rfl
  | str s => rfl
  | arr xs => rfl

theorem releasedBins_of_isObj (h : j.isObj = true) (suppressed : Json) (key : String) :
    releasedBins j suppressed key =
      .ok (if suppressed.truthy then .obj [] else (j.get? key).getD (.obj [])) := by
  unfold releasedBins
  split_ifs
  · rfl
  · exact memberOr_of_isObj h key _

theorem faultOf_binColumns (j : Json) (name : String) (names : List String) :
    faultOf (binColumns (name :: names) j) =
      if !j.truthy || j.isObj then none else some .uncaught := by
  split_ifs with h
  · rw [binColumns_eq h]
    rfl
  · rw [Bool.or_eq_true, not_or, Bool.not_eq_true', Bool.not_eq_false, Bool.not_eq_true] at h
    obtain ⟨htruthy, hobj⟩ := h
    have hfirst : binColumn j name = .error .attributeError := by
      rw [binColumn, if_pos htruthy, memberOr_of_not_isObj hobj]
      rfl
    rw [binColumns, List.mapM_cons, hfirst]
    rfl

end Reading

/-! ### The faults of a message are those of its parts -/

section Snapshot

variable {τ α : Type} {rt : SinkRuntime τ} {msg j v : Json} {key : String}

theorem faultOf_index (read : Json → Except Raised α) (j : Json) (key : String) :
    faultOf (index j key >>= read) = numberFault j read [key] := by
  rw [numberFault, Json.at?_singleton]
  cases h : j.get? key with
  | none => exact faultOf_missing h read
  | some v =>
    rw [index_of_get? h]
    rfl

theorem at?_getD (j : Json) (key name : String) :
    j.at? [key, name] = ((j.get? key).getD (.obj [])).get? name := by
  cases h : j.get? key with
  | none => simp [Json.at?, h, Dict.find]
  | some v => rw [Json.at?_of_get? h, Json.at?_singleton, Option.getD_some]

theorem faultOf_objectMember (j : Json) (key name : String) (default : Json) :
    faultOf (memberOr ((j.get? key).getD (.obj [])) name default) = objectFault j [key] := by
  rw [faultOf_memberOr, objectFault, Json.at?_singleton]
  cases j.get? key <;> rfl

/-- `x or {}`. -/
theorem faultOf_blockMember (j : Json) (key name : String) (default : Json) :
    faultOf (memberOr (if ((j.get? key).getD .null).truthy then (j.get? key).getD .null
      else .obj []) name default) = blockFault j [key] := by
  rw [faultOf_memberOr, blockFault, Json.at?_singleton]
  cases j.get? key with
  | none => rfl
  | some v => cases htruthy : v.truthy <;> simp [htruthy, Json.isObj]

theorem blockMember_value (j : Json) (key name : String) :
    (if ((j.get? key).getD .null).truthy then (j.get? key).getD .null else .obj []).get? name =
      j.at? [key, name] := by
  cases h : j.get? key with
  | none => simp [Json.at?, h, Dict.find, Json.truthy]
  | some v =>
    rw [Json.at?_of_get? h, Json.at?_singleton, Option.getD_some]
    cases htruthy : v.truthy with
    | true => rfl
    | false => exact (Json.get?_of_falsy htruthy name).symm

theorem faultOf_bins (hsuppressed : j.truthy = (suppressedPart msg).truthy)
    (hblock : msg.at? ["state", "demographics", key] = v.get? key) (name : String)
    (names : List String) :
    faultOf (binColumns (name :: names)
      (if j.truthy then .obj [] else (v.get? key).getD (.obj []))) = binsFault msg key := by
  rw [faultOf_binColumns, binsFault, ← hsuppressed]
  cases j.truthy with
  | true => rfl
  | false =>
    rw [blockFault, hblock]
    cases v.get? key <;> rfl

theorem faultOf_read {s presence : Json} (hobj : msg.isObj = true)
    (hstate : msg.get? "state" = some s) (hpresence : s.get? "presence" = some presence) :
    faultOf (rt.readSnapshot msg) = firstFault (snapshotFaults rt msg) := by
  have hs := Json.isObj_of_get? hpresence
  have hhere : (if (msg.at? ["state", "presence"]).isSome then none else some Fault.dropped) =
      none := by
    rw [Json.at?_of_get? hstate, Json.at?_singleton, hpresence]
    rfl
  unfold SinkRuntime.readSnapshot snapshotFaults
  rw [index_of_get? hstate, ok_bind, index_of_get? hpresence, ok_bind, memberOr_of_isObj hs,
    ok_bind, memberOr_of_isObj hobj, ok_bind, memberOr_of_isObj hs, hhere, firstFault_none]
  refine faultOf_bind ?_ fun sampledAt _ => ?_
  · rw [memberOr_of_isObj hobj, Json.at?_singleton]
    rfl
  rw [ok_bind]
  have hdemographics : ∀ name, msg.at? ["state", "demographics", name] =
      ((s.get? "demographics").getD (.obj [])).get? name := by
    intro name
    rw [Json.at?_of_get? hstate, at?_getD]
  refine faultOf_bind ?_ fun suppressed hsuppressed => ?_
  · rw [faultOf_objectMember, objectFault, objectFault, Json.at?_of_get? hstate]
  obtain ⟨hblock, hvalue⟩ := memberOr_ok hsuppressed
  have hpart : suppressed = suppressedPart msg := by rw [suppressedPart, hdemographics, hvalue]
  have hbins : ∀ key name names, faultOf (binColumns (name :: names) (if suppressed.truthy then
      .obj [] else (((s.get? "demographics").getD (.obj [])).get? key).getD (.obj []))) =
      binsFault msg key :=
    fun key name names => faultOf_bins (by rw [hpart]) (hdemographics key) name names
  rw [releasedBins_of_isObj hblock, ok_bind, releasedBins_of_isObj hblock, ok_bind,
    releasedBins_of_isObj hblock, ok_bind, memberOr_of_isObj hs, ok_bind]
  refine faultOf_bind ?_ fun engaged hengaged => ?_
  · rw [faultOf_blockMember, blockFault, blockFault, Json.at?_of_get? hstate]
  refine faultOf_bind ?_ fun count _ => ?_
  · refine (faultOf_index _ _ _).trans ?_
    rw [numberFault, numberFault, Json.at?_of_get? hstate, Json.at?_of_get? hpresence]
  refine faultOf_bind ?_ fun confidence _ => ?_
  · refine (faultOf_index _ _ _).trans ?_
    rw [numberFault, numberFault, Json.at?_of_get? hstate, Json.at?_of_get? hpresence]
  refine faultOf_bind ?_ fun stable _ => ?_
  · rw [faultOf_objectMember, objectFault, objectFault, Json.at?_of_get? hstate]
  refine faultOf_bind ?_ fun degraded _ => ?_
  · rw [faultOf_objectMember]
  refine faultOf_bind (hbins "age_group" _ _) fun ages _ => ?_
  refine faultOf_bind (hbins "gender" _ _) fun genders _ => ?_
  refine faultOf_bind (hbins "attire" _ _) fun attires _ => ?_
  refine faultOf_bind ?_ fun attentionEngaged _ => rfl
  rw [(memberOr_ok hengaged).2, blockMember_value, Json.at?_of_get? hstate]

theorem faultOf_readSnapshot (hobj : msg.isObj = true) :
    faultOf (rt.readSnapshot msg) = firstFault (snapshotFaults rt msg) := by
  cases hpresence : msg.at? ["state", "presence"] with
  | some presence =>
    obtain ⟨s, hstate, hrest⟩ := Option.bind_eq_some_iff.mp hpresence
    rw [Json.at?_singleton] at hrest
    exact faultOf_read hobj hstate hrest
  | none =>
    have hdropped : firstFault (snapshotFaults rt msg) = some .dropped := by
      rw [snapshotFaults, hpresence]
      rfl
    rw [hdropped]
    unfold SinkRuntime.readSnapshot
    cases hstate : msg.get? "state" with
    | none => exact faultOf_missing hstate _
    | some s =>
      rw [Json.at?_of_get? hstate, Json.at?_singleton] at hpresence
      rw [index_of_get? hstate, ok_bind]
      exact faultOf_missing hpresence _

theorem privacy_cases (msg : Json) :
    (firstFault (privacyFaults msg) = some .uncaught ∧ ∃ e, privacyViolated msg = .error e) ∨
      firstFault (privacyFaults msg) = none ∧ msg.isObj = true ∧
        privacyViolated msg = .ok (violates msg) := by
  have hwhole : objectFault msg [] = if msg.isObj then none else some .uncaught := rfl
  have hpart : objectFault msg ["privacy"] =
      if ((msg.get? "privacy").getD (.obj [])).isObj then none else some .uncaught := by
    rw [objectFault, Json.at?_singleton]
    cases msg.get? "privacy" <;> rfl
  rw [privacyFaults, hwhole, hpart]
  unfold privacyViolated
  cases hobj : msg.isObj with
  | false => exact Or.inl ⟨rfl, _, by rw [memberOr_of_not_isObj hobj]; rfl⟩
  | true =>
    rw [memberOr_of_isObj hobj, ok_bind]
    have hflag : ∀ flag, ((msg.at? ["privacy", flag]).getD (.bool false)) =
        (((msg.get? "privacy").getD (.obj [])).get? flag).getD (.bool false) := by
      intro flag
      rw [at?_getD]
    generalize (msg.get? "privacy").getD (.obj []) = block at hflag ⊢
    cases hblock : block.isObj with
    | false => exact Or.inl ⟨rfl, _, by rw [memberOr_of_not_isObj hblock]; rfl⟩
    | true =>
      refine Or.inr ⟨rfl, rfl, ?_⟩
      rw [memberOr_of_isObj hblock, ok_bind, memberOr_of_isObj hblock, ok_bind,
        memberOr_of_isObj hblock, ok_bind]
      simp only [violates, privacyFlags, List.any_cons, List.any_nil, hflag, Bool.or_false,
        Bool.or_assoc]
      rfl

/-- What becomes of a message is decided by its first fault. -/
theorem parse_message {raw : τ} (h : rt.loads raw = .value msg) :
    (firstFault (messageFaults rt msg) = some .uncaught ∧
      ∃ e, rt.parseSnapshot raw = .error e) ∨
    (firstFault (messageFaults rt msg) = some .dropped ∧ rt.parseSnapshot raw = .ok none) ∨
    (firstFault (messageFaults rt msg) = none ∧ violates msg = false ∧
      ∃ row, rt.readSnapshot msg = .ok row ∧ rt.parseSnapshot raw = .ok (some row)) := by
  rw [messageFaults, firstFault_append, SinkRuntime.parseSnapshot, h]
  rcases privacy_cases msg with ⟨hfault, e, he⟩ | ⟨hfault, hobj, hviolated⟩
  · refine Or.inl ⟨by rw [hfault]; rfl, e, ?_⟩
    simp only [he]
  · rw [hfault, Option.none_or, firstFault]
    simp only [hviolated]
    cases hviolates : violates msg with
    | true => exact Or.inr (Or.inl ⟨rfl, rfl⟩)
    | false =>
      have hread : faultOf (rt.readSnapshot msg) = firstFault (snapshotFaults rt msg) :=
        faultOf_readSnapshot hobj
      rw [← hread]
      cases hrow : rt.readSnapshot msg with
      | ok row => exact Or.inr (Or.inr ⟨rfl, rfl, row, rfl, rfl⟩)
      | error e =>
        cases hmalformed : malformed e with
        | true => exact Or.inr (Or.inl ⟨by simp [faultOf, hmalformed], by simp [hmalformed]⟩)
        | false => exact Or.inl ⟨by simp [faultOf, hmalformed], e, by simp [hmalformed]⟩

end Snapshot

/-! ### The columns of a row -/

section Columns

variable {τ : Type} {rt : SinkRuntime τ} {msg : Json} {row : AudienceSnapshot}

def binBlocks : List (String × List String) :=
  [("age_group", ageBins), ("gender", genderBins), ("attire", attireBins)]

def AudienceSnapshot.columns (row : AudienceSnapshot) : List (String × Json) :=
  row.ageGroup ++ row.gender ++ row.attire

/-- What the message holds for one bin. -/
def binPart (msg : Json) (block name : String) : Json :=
  (msg.at? ["state", "demographics", block, name]).getD .null

def columnsOf (msg : Json) (block : String × List String) : List (String × Json) :=
  block.2.map fun name =>
    (name, if (suppressedPart msg).truthy then .null else binPart msg block.1 name)

theorem binColumn_ok {j : Json} {name : String} {c : String × Json}
    (h : binColumn j name = .ok c) : c = (name, (j.get? name).getD .null) := by
  unfold binColumn at h
  split_ifs at h with htruthy
  · obtain ⟨v, hv, rfl⟩ := map_ok h
    rw [(memberOr_ok hv).2]
  · rw [Json.get?_of_falsy (Bool.not_eq_true _ ▸ htruthy)]
    exact (Except.ok.inj h).symm

theorem binColumns_ok {j : Json} {names : List String} {cs : List (String × Json)}
    (h : binColumns names j = .ok cs) :
    cs = names.map fun name => (name, (j.get? name).getD .null) := by
  have hall := forall₂_of_mapM h
  clear h
  induction hall with
  | nil => rfl
  | cons hc _ ih => rw [binColumn_ok hc, ih, List.map_cons]

theorem released_columns {block suppressed : Json} {key : String} {names : List String}
    {cs : List (String × Json)} (hsuppressed : suppressed = suppressedPart msg)
    (hblock : ∀ name, msg.at? ["state", "demographics", key, name] =
      ((block.get? key).getD (.obj [])).get? name)
    (h : (releasedBins block suppressed key).bind (binColumns names) = .ok cs) :
    cs = columnsOf msg (key, names) := by
  obtain ⟨bins, hbins, hcs⟩ := bind_ok h
  rw [binColumns_ok hcs, columnsOf, ← hsuppressed]
  refine List.map_congr_left fun name _ => ?_
  unfold releasedBins at hbins
  cases htruthy : suppressed.truthy with
  | true =>
    rw [htruthy] at hbins
    obtain rfl := Except.ok.inj hbins
    rfl
  | false =>
    rw [htruthy] at hbins
    obtain rfl := (memberOr_ok hbins).2
    rw [binPart, hblock]
    rfl

theorem readSnapshot_columns (h : rt.readSnapshot msg = .ok row) :
    row.columns = binBlocks.flatMap (columnsOf msg) := by
  obtain ⟨s, presence, stability, block, hread⟩ := readSnapshot_inv h
  have hstate := get?_of_index hread.state
  obtain ⟨-, rfl⟩ := memberOr_ok hread.demographics
  obtain ⟨-, hsuppressed⟩ := memberOr_ok hread.suppressed
  rw [← at?_getD, ← Json.at?_of_get? hstate] at hsuppressed
  have hblock : ∀ key name, msg.at? ["state", "demographics", key, name] =
      ((((s.get? "demographics").getD (.obj [])).get? key).getD (.obj [])).get? name := by
    intro key name
    rw [Json.at?_of_get? hstate]
    cases hdemographics : s.get? "demographics" with
    | none => simp [Json.at?, hdemographics, Dict.find]
    | some d => rw [Json.at?_of_get? hdemographics, at?_getD, Option.getD_some]
  have hages := released_columns hsuppressed (hblock "age_group") hread.ages
  have hgenders := released_columns hsuppressed (hblock "gender") hread.genders
  have hattires := released_columns hsuppressed (hblock "attire") hread.attires
  rw [AudienceSnapshot.columns, hages, hgenders, hattires]
  simp [binBlocks]

/-- Sixteen columns, all of them null exactly where demographics are withheld or hold no bin. -/
theorem columns_null_iff (h : rt.readSnapshot msg = .ok row) :
    (∀ c ∈ row.columns, c.2 = .null) ↔ (suppressedPart msg).truthy = true ∨
      ∀ block ∈ binBlocks, ∀ name ∈ block.2, binPart msg block.1 name = .null := by
  rw [readSnapshot_columns h]
  simp only [List.mem_flatMap, columnsOf, List.mem_map]
  cases hsuppressed : (suppressedPart msg).truthy with
  | true =>
    refine iff_of_true ?_ (Or.inl rfl)
    rintro c ⟨block, -, name, -, rfl⟩
    rfl
  | false =>
    refine ⟨fun hnull => Or.inr fun block hblock name hname => ?_, fun hnone => ?_⟩
    · exact hnull _ ⟨block, hblock, name, hname, rfl⟩
    · rintro c ⟨block, hblock, name, hname, rfl⟩
      exact hnone.resolve_left Bool.false_ne_true block hblock name hname

end Columns

/-! ### The law -/

section Law

variable {τ : Type} (rt : SinkRuntime τ)

/-- The flags of ICD-3 are all there, and all false. -/
def FlagsClear (msg : Json) : Prop :=
  ∀ flag ∈ privacyFlags, msg.at? ["privacy", flag] = some (.bool false)

def Released (msg : Json) : Prop :=
  msg.at? ["state", "demographics", "suppressed"] = some (.bool false)

/-- The parser raises nothing, makes rows of messages with clear flags only, and fills no bin
column unless demographics are released. -/
structure PrivacyKept (raw : τ) : Prop where
  total : ∃ result, rt.parseSnapshot raw = .ok result
  flags : ∀ msg row, rt.loads raw = .value msg → rt.parseSnapshot raw = .ok (some row) →
    FlagsClear msg
  bins : ∀ msg row, rt.loads raw = .value msg → rt.parseSnapshot raw = .ok (some row) →
    ¬ Released msg → ∀ c ∈ row.columns, c.2 = .null

/-- No part is out of shape: the flags are clear, and demographics are released, or withheld, or
hold no bin. -/
structure WellKept (msg : Json) : Prop where
  flags : FlagsClear msg
  bins : Released msg ∨ (suppressedPart msg).truthy = true ∨
    ∀ block ∈ binBlocks, ∀ name ∈ block.2, binPart msg block.1 name = .null

/-- The text is no JSON, or the first fault of the message drops it, or there is none and the
message is well kept. -/
def Handled (raw : τ) : Prop :=
  match rt.loads raw with
  | .decodeError => True
  | .unicodeError => True
  | .raised => False
  | .value msg => firstFault (messageFaults rt msg) = some .dropped ∨
      firstFault (messageFaults rt msg) = none ∧ WellKept msg

variable {rt} {raw : τ} {msg : Json}

theorem privacyKept_of_dropped (h : rt.parseSnapshot raw = .ok none) : PrivacyKept rt raw where
  total := ⟨none, h⟩
  flags msg row _ hrow := by
    rw [h] at hrow
    cases hrow
  bins msg row _ hrow := by
    rw [h] at hrow
    cases hrow

theorem not_privacyKept_of_error {e : Raised} (h : rt.parseSnapshot raw = .error e) :
    ¬ PrivacyKept rt raw := by
  intro hkept
  obtain ⟨result, hresult⟩ := hkept.total
  rw [h] at hresult
  cases hresult

/-- A message that makes a row. -/
theorem privacyKept_row_iff {row : AudienceSnapshot} (hload : rt.loads raw = .value msg)
    (hread : rt.readSnapshot msg = .ok row) (hparse : rt.parseSnapshot raw = .ok (some row)) :
    PrivacyKept rt raw ↔ WellKept msg := by
  have hnull := columns_null_iff hread
  refine ⟨fun h => ⟨h.flags msg row hload hparse, ?_⟩,
    fun h => ⟨⟨_, hparse⟩, ?_, ?_⟩⟩
  · by_cases hreleased : Released msg
    · exact Or.inl hreleased
    · exact Or.inr (hnull.mp (h.bins msg row hload hparse hreleased))
  · intro msg' row' hload' _
    obtain rfl := Loaded.value.inj (hload.symm.trans hload')
    exact h.flags
  · intro msg' row' hload' hparse' hreleased
    obtain rfl := Loaded.value.inj (hload.symm.trans hload')
    obtain rfl := Option.some.inj (Except.ok.inj (hparse.symm.trans hparse'))
    exact hnull.mpr (h.bins.resolve_left hreleased)

/-- The parser keeps what it promises of a payload exactly where the payload is handled. -/
theorem privacyKept_iff (rt : SinkRuntime τ) (raw : τ) :
    PrivacyKept rt raw ↔ Handled rt raw := by
  unfold Handled
  cases hload : rt.loads raw with
  | decodeError =>
    exact iff_of_true (privacyKept_of_dropped (by rw [SinkRuntime.parseSnapshot, hload])) trivial
  | unicodeError =>
    exact iff_of_true (privacyKept_of_dropped (by rw [SinkRuntime.parseSnapshot, hload])) trivial
  | raised =>
    have herror : rt.parseSnapshot raw = .error .loadError := by
      rw [SinkRuntime.parseSnapshot, hload]
    exact iff_of_false (not_privacyKept_of_error herror) id
  | value msg =>
    rcases parse_message hload with ⟨hfault, e, herror⟩ | ⟨hfault, hnone⟩ |
      ⟨hfault, -, row, hread, hparse⟩
    · exact iff_of_false (not_privacyKept_of_error herror) (by simp [hfault])
    · exact iff_of_true (privacyKept_of_dropped hnone) (Or.inl hfault)
    · rw [privacyKept_row_iff hload hread hparse]
      simp [hfault]

end Law

/-! ### The sink -/

section Sink

variable {τ : Type} (rt : SinkRuntime τ)

/-- The rows, and how often the session was lost to an error of the parser. -/
structure SinkSession where
  rows : List AudienceSnapshot := []
  lost : ℕ := 0

/-- A payload of the session, and whether its row can be committed. -/
structure Reception (τ : Type) where
  payload : τ
  committed : Bool

def SinkSession.receive (st : SinkSession) (m : Reception τ) : SinkSession :=
  match rt.parseSnapshot m.payload with
  | .error _ => { st with lost := st.lost + 1 }
  | .ok none => st
  | .ok (some row) => if m.committed then { st with rows := st.rows ++ [row] } else st

def runAudienceSink (st : SinkSession) (ms : List (Reception τ)) : SinkSession :=
  ms.foldl (SinkSession.receive rt) st

/-- A row that a payload of the list may be read as. -/
def RowFrom (ms : List (Reception τ)) (row : AudienceSnapshot) : Prop :=
  ∃ m ∈ ms, ∃ msg, rt.loads m.payload = .value msg ∧ FlagsClear msg ∧
    (¬ Released msg → ∀ c ∈ row.columns, c.2 = .null)

variable {rt} {m : Reception τ} {ms : List (Reception τ)}

theorem parsed_loaded {raw : τ} {row : AudienceSnapshot}
    (h : rt.parseSnapshot raw = .ok (some row)) : ∃ msg, rt.loads raw = .value msg := by
  cases hload : rt.loads raw with
  | value msg => exact ⟨msg, rfl⟩
  | decodeError => simp [SinkRuntime.parseSnapshot, hload] at h
  | unicodeError => simp [SinkRuntime.parseSnapshot, hload] at h
  | raised => simp [SinkRuntime.parseSnapshot, hload] at h

theorem privacyKept_of_handled {raw : τ} (h : Handled rt raw) : PrivacyKept rt raw := by
  unfold Handled at h
  cases hload : rt.loads raw with
  | decodeError => exact privacyKept_of_dropped (by rw [SinkRuntime.parseSnapshot, hload])
  | unicodeError => exact privacyKept_of_dropped (by rw [SinkRuntime.parseSnapshot, hload])
  | raised => simp only [hload] at h
  | value msg =>
    simp only [hload] at h
    rcases parse_message hload with
      ⟨hfault, -⟩ | ⟨-, hnone⟩ | ⟨hfault, -, row, hread, hparse⟩
    · simp [hfault] at h
    · exact privacyKept_of_dropped hnone
    · exact (privacyKept_row_iff hload hread hparse).mpr (by simpa [hfault] using h)

theorem receive_handled (st : SinkSession) (h : Handled rt m.payload) :
    (st.receive rt m).lost = st.lost ∧
      ∀ row ∈ (st.receive rt m).rows, row ∈ st.rows ∨ RowFrom rt [m] row := by
  obtain ⟨⟨result, hresult⟩, hflags, hbins⟩ := privacyKept_of_handled h
  unfold SinkSession.receive
  rw [hresult]
  cases result with
  | none => exact ⟨rfl, fun row hrow => Or.inl hrow⟩
  | some new =>
    obtain ⟨msg, hload⟩ := parsed_loaded hresult
    dsimp only
    split_ifs with hcommitted
    · refine ⟨rfl, fun row hrow => (List.mem_append.mp hrow).imp_right fun hnew => ?_⟩
      obtain rfl := List.mem_singleton.mp hnew
      exact ⟨m, List.mem_singleton_self m, msg, hload, hflags msg _ hload hresult,
        hbins msg _ hload hresult⟩
    · exact ⟨rfl, fun row hrow => Or.inl hrow⟩

/-- Of payloads that are all handled no session is lost, and every row that the sink writes keeps
the promises. -/
theorem runAudienceSink_handled (st : SinkSession) (h : ∀ m ∈ ms, Handled rt m.payload) :
    (runAudienceSink rt st ms).lost = st.lost ∧
      ∀ row ∈ (runAudienceSink rt st ms).rows, row ∈ st.rows ∨ RowFrom rt ms row := by
  induction ms generalizing st with
  | nil => exact ⟨rfl, fun row hrow => Or.inl hrow⟩
  | cons m ms ih =>
    obtain ⟨hm, hms⟩ := List.forall_mem_cons.mp h
    obtain ⟨hlost, hrows⟩ := ih (st.receive rt m) hms
    obtain ⟨hlost', hrows'⟩ := receive_handled st hm
    refine ⟨hlost.trans hlost', fun row hrow => ?_⟩
    rcases hrows row hrow with hold | ⟨m', hm', hfrom⟩
    · rcases hrows' row hold with hfirst | ⟨m', hm', hfrom⟩
      · exact Or.inl hfirst
      · exact Or.inr ⟨m', List.mem_cons.mpr (Or.inl (List.mem_singleton.mp hm')), hfrom⟩
    · exact Or.inr ⟨m', List.mem_cons_of_mem m hm', hfrom⟩

end Sink

/-! ### Payloads that are not handled -/

def plainSink : SinkRuntime Json where
  toCodec := jsonCodec
  texts := ⟨fun _ => none, fun _ => none⟩
  fromisoformat s := if s = "2026-01-01T00:00:00+00:00" then some 1767225600 else none

def snapshotJson (privacy demographics : Json) : Json :=
  .obj [("produced_at", .str "2026-01-01T00:00:00Z"), ("privacy", privacy),
    ("state", .obj [("presence", .obj [("count", .int 2), ("confidence", .num (9 / 10))]),
      ("stability", .obj [("state_stable", .bool true), ("freeze_decision", .bool false)]),
      ("demographics", demographics)])]

def clearFlags : Json := .obj (privacyFlags.map fun flag => (flag, .bool false))

def unflagged : Json := snapshotJson (.obj []) (.obj [("suppressed", .bool true)])

/-- The flag of the demographics is `null`. -/
def undecided : Json :=
  snapshotJson clearFlags
    (.obj [("suppressed", .null), ("age_group", .obj [("child", .num (9 / 10))])])

theorem row_of_faultless (msg : Json) (h : firstFault (messageFaults plainSink msg) = none) :
    ∃ row, plainSink.readSnapshot msg = .ok row ∧
      plainSink.parseSnapshot msg = .ok (some row) := by
  have hload : plainSink.loads msg = .value msg := rfl
  rcases parse_message hload with ⟨hfault, -⟩ | ⟨hfault, -⟩ | ⟨-, -, hrow⟩
  · rw [h] at hfault
    cases hfault
  · rw [h] at hfault
    cases hfault
  · exact hrow

/-- An array is not caught, a message without flags makes a row, and `null` releases the bins. -/
theorem promises_broken :
    (¬ ∀ raw, ∃ result, plainSink.parseSnapshot raw = .ok result) ∧
    (¬ ∀ msg row, plainSink.parseSnapshot msg = .ok (some row) → FlagsClear msg) ∧
    ¬ ∀ msg row, plainSink.parseSnapshot msg = .ok (some row) → ¬ Released msg →
      ∀ c ∈ row.columns, c.2 = .null := by
  refine ⟨fun h => ?_, fun h => ?_, fun h => ?_⟩
  · obtain ⟨result, hresult⟩ := h (.arr [])
    have herror : plainSink.parseSnapshot (.arr []) = .error .attributeError := rfl
    rw [herror] at hresult
    cases hresult
  · obtain ⟨row, -, hparse⟩ := row_of_faultless unflagged (by decide +kernel)
    have hflag := h unflagged row hparse "contains_images" (by decide)
    cases hflag
  · obtain ⟨row, hread, hparse⟩ := row_of_faultless undecided (by decide +kernel)
    have hreleased : ¬ Released undecided := by
      intro h
      cases h
    rcases (columns_null_iff hread).mp (h undecided row hparse hreleased) with htruthy | hnone
    · cases htruthy
    · have hchild := hnone ("age_group", ageBins) (by simp [binBlocks]) "child" (by decide)
      cases hchild

end AdaptiveAdvertisement.Dashboard
