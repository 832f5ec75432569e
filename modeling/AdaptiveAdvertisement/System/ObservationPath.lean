import AdaptiveAdvertisement.InputCv.ObservationShape
import AdaptiveAdvertisement.AudienceState.ObservationConsumer
import AdaptiveAdvertisement.AudienceState.DemographicsRelease

/-!
# From raw metadata to the observation window

The bytes that input-cv publishes for a built observation, taken by the consumer of
audience-state. The serialiser writes an absent block as `null`, which the contract refuses.
-/

namespace AdaptiveAdvertisement.System
open Library Contracts InputCv AudienceState ObservationConsumer

variable {τ : Type}

def presentOf (data : Json) : Option Json := (data.get? "counts").bind fun c => c.get? "present"

def confidenceOf (data : Json) : Option Json :=
  (data.get? "counts").bind fun c => c.get? "confidence"

/-- The consumer accepts the published text, and the window gains exactly one observation, with
the count and the confidence that were built. -/
def Arrives (cd : Codec τ) (c : ObservationConsumer) (o : CvObservation) (t : AddClock) : Prop :=
  (c.process cd (o.toJsonBytes cd) t).2 = .ok true ∧
    ∃ stored q, (c.process cd (o.toJsonBytes cd) t).1.window.observations =
        (c.window.prune t.prune).observations ++ [stored] ∧
      presentOf stored.data.1 = some (.int o.counts.present) ∧
      o.counts.confidence = .finite q ∧ confidenceOf stored.data.1 = some (.num q)

theorem get?_messageId (o : CvObservation) :
    o.dump.get? "message_id" = some (.str o.stamp.messageId) := by
  simp [CvObservation.dump, Dict.find]

theorem get?_counts (o : CvObservation) : o.dump.get? "counts" = some o.counts.dump := by
  simp [CvObservation.dump, Dict.find]

theorem presentOf_dump (o : CvObservation) : presentOf o.dump = some (.int o.counts.present) := by
  rw [presentOf, get?_counts]
  simp [ObservationCounts.dump, Dict.find]

theorem confidenceOf_dump (o : CvObservation) :
    confidenceOf o.dump = some o.counts.confidence.dump := by
  rw [confidenceOf, get?_counts]
  simp [ObservationCounts.dump, Dict.find]

section Path

variable {cv : Conversions} {stamp : Stamp} {raw : RawMeta} {context : ObservationContext}
  {o : CvObservation}

theorem arrives_iff_valid (cd : Codec τ) {c : ObservationConsumer} (o : CvObservation)
    (t : AddClock) (hfresh : c.inbox.seenIds.contains o.stamp.messageId = false) :
    Arrives cd c o t ↔ cvObservation o.dump = true := by
  have hload : cd.loads (o.toJsonBytes cd) = .value o.dump := cd.loads_dumps o.dump
  cases hvalid : cvObservation o.dump with
  | false => simp [Arrives, process_invalid hload hvalid]
  | true =>
    have hcounts : counts o.counts.dump = true :=
      Schema.object_property hvalid (k := "counts") (by simp) (get?_counts o)
    obtain ⟨q, hq⟩ := (counts_dump_iff o.counts).mp hcounts
    have hstep := process_fresh (t := t) hload hvalid (get?_messageId o) hfresh
    rw [Arrives, hstep]
    refine iff_of_true
      ⟨rfl, ⟨⟨o.dump, hvalid⟩, t.received⟩, q, rfl, presentOf_dump o, hq, ?_⟩ rfl
    rw [confidenceOf_dump, hq]
    rfl

/-- For every metadata that build, and every consumer that has not seen the message: the
observation arrives exactly where the metadata meet the contract. -/
theorem published_arrives_iff (cd : Codec τ) (c : ObservationConsumer) (t : AddClock)
    (hmatches : context.Matches) (hbuild : buildObservation cv stamp raw context = .ok o)
    (hfresh : c.inbox.seenIds.contains stamp.messageId = false) :
    Arrives cd c o t ↔ MeetsContract cv raw context := by
  have hstamp := (buildObservation_ok hbuild).stamp
  rw [arrives_iff_valid cd o t (hstamp ▸ hfresh), cvObservation_built_iff hbuild hmatches]

theorem published_dropped (cd : Codec τ) (c : ObservationConsumer) (t : AddClock)
    (hmatches : context.Matches) (hbuild : buildObservation cv stamp raw context = .ok o)
    (hlacks : ¬ MeetsContract cv raw context) :
    c.process cd (o.toJsonBytes cd) t = ({ c with inbox := c.inbox.reject }, .ok false) := by
  rw [← cvObservation_built_iff hbuild hmatches, Bool.not_eq_true] at hlacks
  exact process_invalid (cd.loads_dumps o.dump) hlacks

end Path

def plainConversions : Conversions where
  parseInt := fun _ => none
  parseFloat := fun _ => none
  laxInt := Json.asInt?
  laxFloat := fun
    | .num q => some (.finite q)
    | .nonfinite x => some (.nonfinite x)
    | .bool b => some (.finite (if b then 1 else 0))
    | _ => none
  laxBool := Json.asBool?

def firstStamp : Stamp where
  messageId := "0b9e0b7c-54a1-4d6c-9f0e-3a2b1c4d5e6f"
  producedAt := "2026-01-01T00:00:00+00:00"
  uuid_length := commandId_length

def lobbyContext : ObservationContext := ⟨"tenant-01", "site-01", "cam-01", "pipeline-01"⟩

def emptyWindow : ObservationWindow where
  config := defaultConfig

theorem lobbyContext_matches : lobbyContext.Matches := by
  intro id hid
  simp only [lobbyContext, ObservationContext.ids, List.mem_cons, List.not_mem_nil, or_false] at hid
  rcases hid with rfl | rfl | rfl | rfl <;> decide +kernel

def nullDriverMeta : RawMeta :=
  Dict.ofList [("frame_seq", .int 0), ("person_count", .int 1), ("confidence_mean", .num (17 / 20)),
    ("frames_processed", .int 10), ("frames_dropped", .int 0)]

/-- They build, and the consumer drops what is published. -/
theorem nullDriver_dropped : lobbyContext.Matches ∧
    ∃ o, buildObservation plainConversions firstStamp nullDriverMeta lobbyContext = .ok o ∧
      ¬ Arrives jsonCodec { window := emptyWindow } o ⟨0, 0⟩ := by
  obtain ⟨o, ho⟩ := exists_of_isOk
    (x := buildObservation plainConversions firstStamp nullDriverMeta lobbyContext)
    (by decide +kernel)
  refine ⟨lobbyContext_matches, o, ho, ?_⟩
  intro h
  rw [arrives_iff_valid jsonCodec o ⟨0, 0⟩ rfl,
    cvObservation_built_iff ho lobbyContext_matches] at h
  obtain ⟨j, hj, -⟩ := h.demographics
  have hnone : nullDriverMeta.get "demographics" = none := by
    rw [nullDriverMeta, Dict.get_ofList]
    simp [Dict.find]
  rw [hnone] at hj
  cases hj

def fullMeta : RawMeta :=
  Dict.ofList [("frame_seq", .int 7), ("person_count", .int 2), ("confidence_mean", .num (9 / 10)),
    ("demographics", .obj [("age_group", .obj [("adult", .num 1)]), ("gender", .obj []),
      ("attire", .obj []), ("dwell_estimate_ms", .int 4000), ("suppressed", .bool false)]),
    ("attention", .obj [("engaged", .num (1 / 2)), ("ambient", .num (1 / 2))])]

theorem fullMeta_meets : MeetsContract plainConversions fullMeta lobbyContext where
  ids := by decide +kernel
  confidence := ⟨9 / 10, by decide +kernel⟩
  framesProcessed := ⟨1, by decide +kernel⟩
  framesDropped := ⟨0, by decide +kernel⟩
  demographics := by
    refine ⟨_, rfl, ⟨_, rfl, ?_⟩, ⟨_, rfl, ?_⟩, ⟨_, rfl, ?_⟩, ⟨_, rfl, nofun⟩,
      ⟨_, rfl, nofun⟩⟩
    · intro k v hv
      simp only [Dict.find] at hv
      split at hv
      next hk =>
        cases hv
        subst hk
        exact ⟨by decide +kernel, 1, rfl, by decide +kernel, by decide +kernel⟩
      next => cases hv
    · intro k v hv
      cases hv
    · intro k v hv
      cases hv
  attention := ⟨_, rfl, ⟨_, 1 / 2, rfl, by simp, rfl⟩, ⟨_, 1 / 2, rfl, by simp, rfl⟩⟩

theorem fullMeta_arrives :
    ∃ o, buildObservation plainConversions firstStamp fullMeta lobbyContext = .ok o ∧
      Arrives jsonCodec { window := emptyWindow } o ⟨0, 0⟩ := by
  obtain ⟨o, ho⟩ := exists_of_isOk
    (x := buildObservation plainConversions firstStamp fullMeta lobbyContext) (by decide +kernel)
  exact ⟨o, ho, (published_arrives_iff jsonCodec { window := emptyWindow } ⟨0, 0⟩
    lobbyContext_matches ho rfl).mpr fullMeta_meets⟩

end AdaptiveAdvertisement.System
