import AdaptiveAdvertisement.InputCv.ObservationShape
import AdaptiveAdvertisement.Library.Machine
import AdaptiveAdvertisement.Library.Number

/-!
# The camera's mailbox (`pipeline/deepstream_driver.py`, `input_cv/main.py`)

The callback of the pipeline leaves the metadata of the newest sample in a slot, from which the
main loop reads and publishes. Nothing empties the slot. A sample is delivered only while the
pipeline is open. What is published is kept with the sample it came from, the opening after which
that was captured, and the one during which it was published.

Source lines: `_on_new_sample` 127-170, `read_metadata` 172-175, `close` 177-186, `open` 73-104;
the loop `main.py:157-213`.
-/

namespace AdaptiveAdvertisement.InputCv
open Library

/-! ### Samples -/

structure DetectedObject where
  classId : ℤ
  confidence : Number

structure Sample where
  frameNumber : Option ℕ
  objects : List DetectedObject

namespace Sample

variable (s : Sample)

def frameSeq : ℕ := s.frameNumber.getD 0

/-- The objects of class 0. -/
def persons : List DetectedObject := s.objects.filter fun o => decide (o.classId = 0)

def confidenceMean : Number :=
  if 0 < s.persons.length then Number.mean (s.persons.map DetectedObject.confidence)
  else .finite 0

def metadata : RawMeta :=
  .ofList [("frame_seq", .int s.frameSeq), ("person_count", .int s.persons.length),
    ("confidence_mean", s.confidenceMean.toJson), ("frames_processed", .int 1),
    ("frames_dropped", .int 0)]

end Sample

/-- `index` counts the samples of all sessions, `session` the openings. -/
structure Captured where
  index : ℕ
  session : ℕ
  sample : Sample

structure Published where
  sample : ℕ
  captured : ℕ
  during : ℕ
  observation : CvObservation

/-! ### The driver and the loop -/

inductive LoopPhase where
  | opening
  | reading
  | stopped
  deriving DecidableEq

/-- `latestMetadata` is the only entry of the list that the driver keeps. -/
structure CameraLoop where
  phase : LoopPhase := .opening
  pipelineOpen : Bool := false
  latestMetadata : Option Captured := none
  delivered : ℕ := 0
  session : ℕ := 0
  published : List Published := []

inductive OpenOutcome where
  | opened
  | deviceAbsent
  | failed

/-- A sample whose metadata could not be extracted is `none`. -/
inductive CameraStep where
  | newSample (s : Option Sample)
  | tryOpen (o : OpenOutcome)
  | iterate (stamp : Stamp)
  | close
  | shutdown

structure CameraConfig where
  conversions : Conversions
  context : ObservationContext
  reopenEnabled : Bool

namespace CameraLoop

variable (cfg : CameraConfig) (l : CameraLoop)

def onNewSample (s : Sample) : CameraLoop :=
  if l.pipelineOpen then
    { l with
      latestMetadata := some ⟨l.delivered, l.session, s⟩
      delivered := l.delivered + 1 }
  else l

/-- `driver.close()`. -/
def closeDriver : CameraLoop := { l with pipelineOpen := false }

/-- The loop ends, by `return` or by an exception that nothing catches. -/
def stop : CameraLoop := { l.closeDriver with phase := .stopped }

def openDriver : OpenOutcome → CameraLoop
  | .opened => { l with phase := .reading, pipelineOpen := true, session := l.session + 1 }
  | .deviceAbsent => if cfg.reopenEnabled then l else l.stop
  | .failed => l.stop

def publish (c : Captured) (o : CvObservation) : CameraLoop :=
  { l with published := l.published ++ [⟨c.index, c.session, l.session, o⟩] }

/-- One pass of the read loop. -/
def readAndPublish (stamp : Stamp) : CameraLoop :=
  if l.pipelineOpen then
    match l.latestMetadata with
    | none => l
    | some c =>
      match buildObservation cfg.conversions stamp c.sample.metadata cfg.context with
      | .ok o => l.publish c o
      | .error (.privacyViolation _) => l
      | .error _ => l.stop
  -- `PipelineReadError`
  else if cfg.reopenEnabled then { l.closeDriver with phase := .opening }
  else l.stop

end CameraLoop

def camera (cfg : CameraConfig) : Machine CameraLoop CameraStep Unit where
  init := {}
  step := fun l i =>
    match i with
    | .newSample s => (s.elim l l.onNewSample, ())
    | .tryOpen o => (if l.phase = .opening then l.openDriver cfg o else l, ())
    | .iterate stamp => (if l.phase = .reading then l.readAndPublish cfg stamp else l, ())
    | .close => (l.closeDriver, ())
    | .shutdown => (l.stop, ())

/-! ### The laws -/

/-- Every sample at most once, in the order of the frames within a session, and from none that
was captured before. -/
structure PublishesOnce (log : List Published) : Prop where
  once : (log.map Published.sample).Nodup
  increasing : log.Pairwise fun p q =>
    p.during = q.during → p.observation.frameSeq < q.observation.frameSeq
  current : ∀ p ∈ log, p.captured = p.during

section Laws

variable (cfg : CameraConfig)

def StaysOnce (l : CameraLoop) (i : CameraStep) : Prop :=
  PublishesOnce ((camera cfg).next l i).published

/-- A slot that is read and gives an observation holds a sample of this session that is not
published yet. -/
def ReadsFresh (l : CameraLoop) : CameraStep → Prop
  | .iterate stamp => l.phase = .reading → l.pipelineOpen = true → ∀ c ∈ l.latestMetadata,
    (buildObservation cfg.conversions stamp c.sample.metadata cfg.context).toOption.isSome =
      true →
      c.session = l.session ∧ c.index ∉ l.published.map Published.sample
  | _ => True

instance (l : CameraLoop) (i : CameraStep) : Decidable (ReadsFresh cfg l i) :=
  match i with
  | .iterate _ => inferInstanceAs (Decidable (_ → _ → ∀ c ∈ l.latestMetadata, _ → _))
  | .newSample _ => isTrue trivial
  | .tryOpen _ => isTrue trivial
  | .close => isTrue trivial
  | .shutdown => isTrue trivial

/-- The pipeline numbers the frames of a session increasingly; the slot holds the last one. -/
def FramesIncrease (l : CameraLoop) : CameraStep → Prop
  | .newSample (some s) => l.pipelineOpen = true → ∀ c ∈ l.latestMetadata,
    c.session = l.session → c.sample.frameSeq < s.frameSeq
  | _ => True

instance (l : CameraLoop) (i : CameraStep) : Decidable (FramesIncrease l i) :=
  match i with
  | .newSample (some _) => inferInstanceAs (Decidable (_ → ∀ c ∈ l.latestMetadata, _ → _))
  | .newSample none => isTrue trivial
  | .tryOpen _ => isTrue trivial
  | .iterate _ => isTrue trivial
  | .close => isTrue trivial
  | .shutdown => isTrue trivial

/-- What was published came from the slot or from an earlier sample. -/
structure Behind (c : Captured) (p : Published) : Prop where
  session : p.captured ≤ c.session
  frame : p.captured = c.session →
    p.sample = c.index ∨ p.observation.frameSeq < c.sample.frameSeq
  index : p.sample ≤ c.index
  same : p.sample = c.index → p.observation.frameSeq = c.sample.frameSeq

structure MailboxInv (l : CameraLoop) : Prop where
  once : PublishesOnce l.published
  slot : ∀ c ∈ l.latestMetadata, c.index < l.delivered ∧ c.session ≤ l.session
  behind : ∀ p ∈ l.published, ∃ c, l.latestMetadata = some c ∧ Behind c p

/-! ### One step -/

variable {cfg} {l : CameraLoop}

theorem published_frameSeq {stamp : Stamp} {s : Sample} {o : CvObservation}
    (h : buildObservation cfg.conversions stamp s.metadata cfg.context = .ok o) :
    o.frameSeq = s.frameSeq := by
  have hframe := (buildObservation_ok h).frameSeq
  have hget : s.metadata.get "frame_seq" = some (.int s.frameSeq) := rfl
  have htruncate : truncate ((s.frameSeq : ℤ) : ℚ) = s.frameSeq := by simp [truncate]
  rw [intOr, hget] at hframe
  simp only [Option.getD_some, Json.int, pyInt, htruncate, Except.mapError,
    Except.ok.injEq] at hframe
  exact hframe.symm

variable (cfg) in
/-- A pass of the loop publishes what it reads in the slot, or nothing. -/
theorem readAndPublish_cases (l : CameraLoop) (stamp : Stamp) :
    (∃ c o, l.pipelineOpen = true ∧ l.latestMetadata = some c ∧
      buildObservation cfg.conversions stamp c.sample.metadata cfg.context = .ok o ∧
      l.readAndPublish cfg stamp = l.publish c o) ∨
    ((l.readAndPublish cfg stamp).published = l.published ∧
      (l.readAndPublish cfg stamp).latestMetadata = l.latestMetadata ∧
      (l.readAndPublish cfg stamp).delivered = l.delivered ∧
      (l.readAndPublish cfg stamp).session = l.session ∧
      (l.pipelineOpen = true → ∀ c ∈ l.latestMetadata, (buildObservation cfg.conversions stamp
        c.sample.metadata cfg.context).toOption.isSome = false)) := by
  unfold CameraLoop.readAndPublish
  cases hopen : l.pipelineOpen with
  | false =>
    refine Or.inr ?_
    simp only [Bool.false_eq_true, if_false]
    split_ifs <;> exact ⟨rfl, rfl, rfl, rfl, fun h => by cases h⟩
  | true =>
    cases hslot : l.latestMetadata with
    | none => exact Or.inr ⟨rfl, hslot, rfl, rfl, fun _ c hc => by cases hc⟩
    | some c =>
      cases hbuild : buildObservation cfg.conversions stamp c.sample.metadata cfg.context with
      | ok o => exact Or.inl ⟨c, o, rfl, rfl, hbuild, by simp only [if_true, hbuild]⟩
      | error e =>
        have hnone : ∀ c' ∈ some c, (buildObservation cfg.conversions stamp c'.sample.metadata
            cfg.context).toOption.isSome = false := by
          intro c' hc'
          obtain rfl := Option.some.inj hc'
          rw [hbuild]
          rfl
        refine Or.inr ?_
        simp only [if_true, hbuild]
        cases e <;> exact ⟨rfl, hslot, rfl, rfl, fun _ => hnone⟩

theorem readsFresh_of_staysOnce {i : CameraStep} (h : StaysOnce cfg l i) : ReadsFresh cfg l i := by
  cases i with
  | iterate stamp =>
    intro hphase hopen c hc hbuilt
    unfold StaysOnce Machine.next camera at h
    simp only [hphase, if_true] at h
    rcases readAndPublish_cases cfg l stamp with
      ⟨c', o, -, hslot, -, hpublish⟩ | ⟨-, -, -, -, hnone⟩
    · obtain rfl : c = c' := Option.some.inj (hc.symm.trans hslot)
      rw [hpublish] at h
      obtain ⟨honce, -, hcurrent⟩ := h
      simp only [CameraLoop.publish, List.map_append, List.map_cons, List.map_nil] at honce hcurrent
      have hsession := hcurrent _ (List.mem_append_right _ List.mem_cons_self)
      refine ⟨hsession, fun hmem => ?_⟩
      exact (List.nodup_append.mp honce).2.2 _ hmem _ List.mem_cons_self rfl
    · rw [hnone hopen c hc] at hbuilt
      cases hbuilt
  | newSample s => trivial
  | tryOpen o => trivial
  | close => trivial
  | shutdown => trivial

theorem MailboxInv.kept {l' : CameraLoop} (h : MailboxInv l)
    (hpublished : l'.published = l.published) (hslot : l'.latestMetadata = l.latestMetadata)
    (hdelivered : l'.delivered = l.delivered) (hsession : l.session ≤ l'.session) :
    MailboxInv l' := by
  refine ⟨?_, fun c hc => ?_, ?_⟩
  · rw [hpublished]
    exact h.once
  · rw [hslot] at hc
    obtain ⟨hindex, hle⟩ := h.slot c hc
    rw [hdelivered]
    exact ⟨hindex, hle.trans hsession⟩
  · rw [hpublished, hslot]
    exact h.behind

theorem MailboxInv.newSample {s : Sample} (h : MailboxInv l)
    (hframes : FramesIncrease l (.newSample (some s))) : MailboxInv (l.onNewSample s) := by
  unfold CameraLoop.onNewSample
  split_ifs with hopen
  · refine ⟨h.once, fun c hc => ?_, fun p hp => ⟨_, rfl, ?_⟩⟩
    · obtain rfl := Option.some.inj hc
      exact ⟨Nat.lt_succ_self l.delivered, le_rfl⟩
    · obtain ⟨c, hc, hbehind⟩ := h.behind p hp
      obtain ⟨hindex, hsession⟩ := h.slot c hc
      have hle := hbehind.session
      have hold := hbehind.index
      refine ⟨hle.trans hsession, fun hsame => Or.inr ?_, ?_, fun heq => ?_⟩
      · -- the sample of the slot is of this session too, and the new frame comes after it
        have hcsession : c.session = l.session := by
          have hs : p.captured = l.session := hsame
          omega
        have hlater := hframes hopen c hc hcsession
        rcases hbehind.frame (hsame.trans hcsession.symm) with hsample | hless
        · have hframe := hbehind.same hsample
          show p.observation.frameSeq < (s.frameSeq : ℤ)
          omega
        · show p.observation.frameSeq < (s.frameSeq : ℤ)
          omega
      · show p.sample ≤ l.delivered
        omega
      · have hs : p.sample = l.delivered := heq
        omega
  · exact h

theorem MailboxInv.publish {c : Captured} {o : CvObservation} (h : MailboxInv l)
    (hslot : l.latestMetadata = some c) (hframe : o.frameSeq = c.sample.frameSeq)
    (hsession : c.session = l.session) (hnew : c.index ∉ l.published.map Published.sample) :
    MailboxInv (l.publish c o) := by
  have hbefore : ∀ p ∈ l.published, Behind c p := by
    intro p hp
    obtain ⟨c', hc', hbehind⟩ := h.behind p hp
    obtain rfl := Option.some.inj (hslot.symm.trans hc')
    exact hbehind
  refine ⟨⟨?_, ?_, fun p hp => ?_⟩, h.slot, fun p hp => ⟨c, hslot, ?_⟩⟩
  · simp only [CameraLoop.publish, List.map_append, List.map_cons, List.map_nil]
    refine List.nodup_append.mpr ⟨h.once.once, List.nodup_singleton _, fun a ha b hb hab => ?_⟩
    rw [List.mem_singleton.mp hb] at hab
    exact hnew (hab ▸ ha)
  · refine List.pairwise_append.mpr ⟨h.once.increasing, List.pairwise_singleton _ _, ?_⟩
    intro p hp q hq hduring
    rw [List.mem_singleton.mp hq] at hduring ⊢
    have hcurrent := h.once.current p hp
    have hcaptured : p.captured = c.session := (hcurrent.trans hduring).trans hsession.symm
    rcases (hbefore p hp).frame hcaptured with hsample | hless
    · exact absurd (hsample ▸ List.mem_map_of_mem hp) hnew
    · rw [hframe]
      exact hless
  · rcases List.mem_append.mp hp with hp | hp
    · exact h.once.current p hp
    · rw [List.mem_singleton.mp hp]
      exact hsession
  · rcases List.mem_append.mp hp with hp | hp
    · exact hbefore p hp
    · rw [List.mem_singleton.mp hp]
      exact ⟨le_rfl, fun _ => Or.inl rfl, le_rfl, fun _ => hframe⟩

theorem mailboxInv_next {i : CameraStep} (h : MailboxInv l) (hframes : FramesIncrease l i)
    (hfresh : ReadsFresh cfg l i) : MailboxInv ((camera cfg).next l i) := by
  unfold Machine.next camera
  cases i with
  | newSample s =>
    cases s with
    | none => exact h
    | some s => exact h.newSample hframes
  | tryOpen o =>
    dsimp only
    split_ifs
    · cases o with
      | opened => exact h.kept rfl rfl rfl (Nat.le_succ _)
      | deviceAbsent =>
        unfold CameraLoop.openDriver
        split_ifs
        · exact h
        · exact h.kept rfl rfl rfl le_rfl
      | failed => exact h.kept rfl rfl rfl le_rfl
    · exact h
  | iterate stamp =>
    dsimp only
    split_ifs with hphase
    · rcases readAndPublish_cases cfg l stamp with
        ⟨c, o, hopen, hslot, hbuild, hpublish⟩ |
          ⟨hpublished, hslot, hdelivered, hsession, -⟩
      · have hbuilt : (buildObservation cfg.conversions stamp c.sample.metadata
            cfg.context).toOption.isSome = true := by
          rw [hbuild]
          rfl
        obtain ⟨hcsession, hnew⟩ := hfresh hphase hopen c hslot hbuilt
        rw [hpublish]
        exact h.publish hslot (published_frameSeq hbuild) hcsession hnew
      · exact h.kept hpublished hslot hdelivered hsession.ge
    · exact h
  | close => exact h.kept rfl rfl rfl le_rfl
  | shutdown => exact h.kept rfl rfl rfl le_rfl

/-! ### Whole runs -/

theorem init_mailboxInv : MailboxInv (camera cfg).init where
  once := ⟨List.nodup_nil, List.Pairwise.nil, fun _ hp => by cases hp⟩
  slot := fun _ hc => by cases hc
  behind := fun _ hp => by cases hp

variable (cfg)

/-- A camera publishes every sample at most once, in order and in its session, exactly where the
loop never reads a slot whose sample it has published or that is left of an earlier session. -/
theorem publishesOnce_iff {is : List CameraStep}
    (hframes : (camera cfg).EachStep FramesIncrease (camera cfg).init is) :
    (camera cfg).EachStep (StaysOnce cfg) (camera cfg).init is ↔
      (camera cfg).EachStep (ReadsFresh cfg) (camera cfg).init is :=
  Machine.eachStep_iff_of_inv_under (I := MailboxInv)
    (fun _ _ h hf hfresh => mailboxInv_next h hf hfresh)
    (fun _ _ h hf => ⟨readsFresh_of_staysOnce,
      fun hfresh => (mailboxInv_next h hf hfresh).once⟩)
    init_mailboxInv hframes

end Laws

/-! ### A loop that is faster than the camera -/

def pilotCamera : CameraConfig where
  conversions := ⟨fun _ => none, fun _ => none, fun _ => none, fun _ => none, fun _ => none⟩
  context := ⟨"default-tenant", "site-01", "cam-01", "pipeline-01"⟩
  reopenEnabled := true

def pilotStamp : Stamp :=
  ⟨"4f3a9c1e-2b7d-4e60-8a55-1c2d3e4f5a6b", "2026-01-01T00:00:05.000Z",
    Contracts.pilotId_length⟩

def onePerson (frame : ℕ) : Sample := ⟨some frame, [⟨0, .finite (9 / 10)⟩]⟩

def oncePerSample : List CameraStep :=
  [.tryOpen .opened, .newSample (some (onePerson 1)), .iterate pilotStamp,
    .newSample (some (onePerson 2)), .iterate pilotStamp]

theorem oncePerSample_stays : (camera pilotCamera).EachStep (StaysOnce pilotCamera)
    (camera pilotCamera).init oncePerSample := by
  have hframes : (camera pilotCamera).EachStep FramesIncrease (camera pilotCamera).init
      oncePerSample := by decide +kernel
  exact (publishesOnce_iff pilotCamera hframes).mpr (by decide +kernel)

/-- The camera delivers one sample, and the loop passes twice. -/
def stalledCamera : List CameraStep :=
  [.tryOpen .opened, .newSample (some (onePerson 1)), .iterate pilotStamp, .iterate pilotStamp]

theorem stalledCamera_repeats : ¬ ∀ (cfg : CameraConfig) (is : List CameraStep),
    (camera cfg).EachStep FramesIncrease (camera cfg).init is →
      (camera cfg).EachStep (StaysOnce cfg) (camera cfg).init is := by
  intro h
  obtain ⟨-, -, -, hlast, -⟩ := h pilotCamera stalledCamera (by decide +kernel)
  exact absurd hlast.once (by decide +kernel)

end AdaptiveAdvertisement.InputCv
