import AdaptiveAdvertisement.InputCv.ReadLoop
import AdaptiveAdvertisement.Library.Backoff

/-!
# The supervision loop of the camera (`input_cv/main.py:157-215`)

The loop over any pipeline driver: it opens the device, reads and publishes until a read fails,
and waits before every new attempt (`recovery/backoff.py`), while the health tracker
(`health/tracker.py`) keeps what operators and the supervisor see. Nothing calls `mark_reopening`
or `mark_failed`. The short sleep after an empty read is left out.
-/

namespace AdaptiveAdvertisement.InputCv
open Library

/-! ### The health tracker -/

inductive PipelineState where
  | starting
  | running
  | reopening
  | failed
  deriving DecidableEq

structure HealthTracker where
  devicePresent : Bool := false
  lastFrameTs : Option ℚ := none
  lastPipelineStartTs : Option ℚ := none
  reopenCount : ℕ := 0
  pipelineState : PipelineState := .starting

namespace HealthTracker

variable (h : HealthTracker)

def markDevicePresent : HealthTracker := { h with devicePresent := true }

def markDeviceAbsent : HealthTracker := { h with devicePresent := false }

def markPipelineRunning (now : ℚ) : HealthTracker :=
  { h with pipelineState := .running, lastPipelineStartTs := some now }

def recordFrame (now : ℚ) : HealthTracker := { h with lastFrameTs := some now }

def incrementReopen : HealthTracker :=
  { h with reopenCount := h.reopenCount + 1, pipelineState := .reopening }

end HealthTracker

/-! ### The reopen loop -/

def nextBackoffSeconds (attempt initialMs maxMs : ℕ) : ℚ :=
  min ((initialMs : ℚ) * 2 ^ attempt) maxMs / 1000

/-- The bounds are those of the configuration's schema, which does not compare the two. -/
structure SupervisionConfig extends CameraConfig where
  initialBackoffMs : ℕ
  maxBackoffMs : ℕ
  initial_bounds : 100 ≤ initialBackoffMs ∧ initialBackoffMs ≤ 60000
  max_bounds : 100 ≤ maxBackoffMs ∧ maxBackoffMs ≤ 600000

namespace SupervisionConfig

variable (cfg : SupervisionConfig)

def delay (attempt : ℕ) : ℚ := nextBackoffSeconds attempt cfg.initialBackoffMs cfg.maxBackoffMs

/-- The sleeps of an outage with so many failed attempts. -/
def sleepsOf (attempts : ℕ) : List ℚ := (List.range attempts).map cfg.delay

def backoff : Backoff := ⟨cfg.initialBackoffMs / 1000, cfg.maxBackoffMs / 1000⟩

theorem delay_eq_wait (attempt : ℕ) : cfg.delay attempt = cfg.backoff.wait attempt := by
  rw [delay, nextBackoffSeconds, Backoff.wait, backoff, ← min_div_div_right (by norm_num)]
  ring_nf

theorem delay_le (attempt : ℕ) : cfg.delay attempt ≤ cfg.maxBackoffMs / 1000 := by
  rw [delay_eq_wait]
  exact Backoff.wait_le_max attempt

/-- No sleep is shorter than a tenth of a second. -/
theorem le_delay (attempt : ℕ) : 1 / 10 ≤ cfg.delay attempt := by
  have hpow : (1 : ℚ) ≤ 2 ^ attempt := one_le_pow₀ (by norm_num)
  have hinitial : (100 : ℚ) ≤ cfg.initialBackoffMs := by exact_mod_cast cfg.initial_bounds.1
  have hmax : (100 : ℚ) ≤ cfg.maxBackoffMs := by exact_mod_cast cfg.max_bounds.1
  have hmin :
      (100 : ℚ) ≤ min ((cfg.initialBackoffMs : ℚ) * 2 ^ attempt) cfg.maxBackoffMs := by
    refine le_min ?_ hmax
    nlinarith
  rw [delay, nextBackoffSeconds]
  linarith

theorem sleepsOf_succ (attempts : ℕ) :
    cfg.sleepsOf (attempts + 1) = cfg.sleepsOf attempts ++ [cfg.delay attempts] := by
  simp [sleepsOf, List.range_succ]

end SupervisionConfig

/-! ### The loop -/

/-- `reads` and `opens` keep the history of the driver; `attempt` counts within an outage. -/
structure Supervision where
  phase : LoopPhase := .opening
  health : HealthTracker := {}
  attempt : ℕ := 0
  sleeps : List ℚ := []
  opens : ℕ := 0
  reads : List (List Returned) := []
  published : List CvObservation := []

/-- What the driver answers to `open` and to `read_metadata`, and the signal to stop. -/
inductive Turn where
  | opened (now : ℚ)
  | deviceNotFound
  | openFailed
  | metadata (now : ℚ) (metadataList : List Returned)
  | pipelineReadError
  | readFailed
  | signal

namespace Supervision

variable (cfg : SupervisionConfig) (s : Supervision)

def waitAndRecord : Supervision :=
  { s with
    health := s.health.incrementReopen
    sleeps := s.sleeps ++ [cfg.delay s.attempt]
    attempt := s.attempt + 1 }

def stop : Supervision := { s with phase := .stopped }

/-- Both handlers: of a missing device and of a failed read. -/
def onDeviceLost : Supervision :=
  let s := { s with health := s.health.markDeviceAbsent, phase := .opening }
  if cfg.reopenEnabled then s.waitAndRecord cfg else s.stop

def onOpened (now : ℚ) : Supervision :=
  { s with
    phase := .reading
    health := s.health.markDevicePresent.markPipelineRunning now
    attempt := 0
    opens := s.opens + 1 }

def onRead (now : ℚ) (metadataList : List Returned) : Supervision :=
  let l := ReadLoop.onRead cfg.toCameraConfig ⟨s.published, none⟩ metadataList
  { s with
    phase := if l.failure.isNone then .reading else .stopped
    health := s.health.recordFrame now
    reads := s.reads ++ [metadataList]
    published := l.published }

def step : Turn → Supervision
  | .opened now => if s.phase = .opening then s.onOpened now else s
  | .deviceNotFound => if s.phase = .opening then s.onDeviceLost cfg else s
  | .openFailed => if s.phase = .opening then s.stop else s
  | .metadata now metadataList => if s.phase = .reading then s.onRead cfg now metadataList else s
  | .pipelineReadError => if s.phase = .reading then s.onDeviceLost cfg else s
  | .readFailed => if s.phase = .reading then s.stop else s
  | .signal => s.stop

end Supervision

def supervising (cfg : SupervisionConfig) : Machine Supervision Turn Unit :=
  ⟨{}, fun s t => (s.step cfg t, ())⟩

/-! ### What operators can rely on -/

/-- While the service runs, its health tells where the loop stands; every count is a sleep; the
sleeps are those of one outage for each opening and of the present one, and each outage after the
first opening has one at least; and what it has published is what the read loop makes of all that
the driver returned. -/
structure Supervised (cfg : SupervisionConfig) (s : Supervision) : Prop where
  device : s.phase ≠ .stopped → (s.health.devicePresent = true ↔ s.phase = .reading)
  running : s.phase = .reading → s.health.pipelineState = .running
  opening : s.phase = .opening →
    s.health.pipelineState = if s.sleeps = [] then .starting else .reopening
  count : s.health.reopenCount = s.sleeps.length
  outages : ∃ past : List ℕ, past.length = s.opens ∧
    s.sleeps = (past ++ [s.attempt]).flatMap cfg.sleepsOf ∧ ∀ n ∈ past.tail, 1 ≤ n
  settled : s.phase = .reading → s.attempt = 0
  waiting : s.phase = .opening → 0 < s.opens → 1 ≤ s.attempt
  published : s.published = (readLoop cfg.toCameraConfig s.reads).published
  reading : s.phase ≠ .stopped → (readLoop cfg.toCameraConfig s.reads).failure = none

section Step

variable {cfg : SupervisionConfig} {s : Supervision}

theorem supervised_init : Supervised cfg {} where
  device := by simp
  running := by simp
  opening := by simp
  count := rfl
  outages := ⟨[], rfl, rfl, by simp⟩
  settled := by simp
  waiting := by simp
  published := rfl
  reading := fun _ => rfl

theorem Supervised.stop (h : Supervised cfg s) : Supervised cfg s.stop where
  device := fun hphase => absurd rfl hphase
  running := by simp [Supervision.stop]
  opening := by simp [Supervision.stop]
  count := h.count
  outages := h.outages
  settled := by simp [Supervision.stop]
  waiting := by simp [Supervision.stop]
  published := h.published
  reading := fun hphase => absurd rfl hphase

theorem Supervised.onOpened (h : Supervised cfg s) (hphase : s.phase = .opening) (now : ℚ) :
    Supervised cfg (s.onOpened now) where
  device := by simp [Supervision.onOpened, HealthTracker.markPipelineRunning,
    HealthTracker.markDevicePresent]
  running := fun _ => rfl
  opening := by simp [Supervision.onOpened]
  count := h.count
  outages := by
    obtain ⟨past, hlength, hsleeps, hmany⟩ := h.outages
    refine ⟨past ++ [s.attempt], by simp [Supervision.onOpened, hlength], ?_, ?_⟩
    · simpa [Supervision.onOpened, SupervisionConfig.sleepsOf] using hsleeps
    · -- the outage that ends here is the first, or it has had a sleep
      intro n hn
      cases past with
      | nil => simp at hn
      | cons m past =>
        rcases List.mem_append.mp hn with hpast | hlast
        · exact hmany n hpast
        · rw [List.mem_singleton.mp hlast]
          exact h.waiting hphase (by rw [← hlength]; exact Nat.succ_pos _)
  settled := fun _ => rfl
  waiting := by simp [Supervision.onOpened]
  published := h.published
  reading := fun _ => h.reading (by simp [hphase])

theorem Supervised.onDeviceLost (h : Supervised cfg s) (hphase : s.phase ≠ .stopped) :
    Supervised cfg (s.onDeviceLost cfg) := by
  unfold Supervision.onDeviceLost
  split_ifs
  · refine ⟨fun _ => ?_, ?_, fun _ => ?_, ?_, ?_, ?_, fun _ _ => Nat.le_add_left 1 _,
      h.published,
      fun _ => h.reading hphase⟩
    · simp [Supervision.waitAndRecord, HealthTracker.incrementReopen,
        HealthTracker.markDeviceAbsent]
    · simp [Supervision.waitAndRecord]
    · simp [Supervision.waitAndRecord, HealthTracker.incrementReopen]
    · simp [Supervision.waitAndRecord, HealthTracker.incrementReopen,
        HealthTracker.markDeviceAbsent, h.count]
    · obtain ⟨past, hlength, hsleeps, hmany⟩ := h.outages
      refine ⟨past, hlength, ?_, hmany⟩
      simp [Supervision.waitAndRecord, hsleeps, SupervisionConfig.sleepsOf_succ]
    · simp [Supervision.waitAndRecord]
  · refine ⟨fun hstopped => absurd rfl hstopped, ?_, ?_, h.count, h.outages, ?_, ?_, h.published,
      fun hstopped => absurd rfl hstopped⟩ <;> simp [Supervision.stop]

theorem Supervised.onRead (h : Supervised cfg s) (hphase : s.phase = .reading) (now : ℚ)
    (metadataList : List Returned) : Supervised cfg (s.onRead cfg now metadataList) := by
  have hrunning := h.reading (by simp [hphase])
  have hloop : (⟨s.published, none⟩ : ReadLoop) = readLoop cfg.toCameraConfig s.reads := by
    rw [h.published, ← hrunning]
  have hnext : ReadLoop.onRead cfg.toCameraConfig ⟨s.published, none⟩ metadataList =
      readLoop cfg.toCameraConfig (s.reads ++ [metadataList]) := by
    rw [hloop, readLoop, readLoop, List.foldl_append]
    rfl
  unfold Supervision.onRead
  rw [hnext]
  cases hfailure : (readLoop cfg.toCameraConfig (s.reads ++ [metadataList])).failure with
  | none =>
    have hdevice : s.health.devicePresent = true :=
      (h.device (by simp [hphase])).mpr hphase
    simp only [hfailure, Option.isNone_none, if_true]
    refine ⟨fun _ => iff_of_true hdevice rfl, fun _ => h.running hphase, ?_, h.count, h.outages,
      fun _ => h.settled hphase, ?_, rfl, fun _ => hfailure⟩ <;> simp
  | some e =>
    simp only [hfailure, Option.isNone_some, Bool.false_eq_true, if_false]
    refine ⟨?_, ?_, ?_, h.count, h.outages, ?_, ?_, rfl, ?_⟩ <;> simp

theorem Supervised.ite {p : Prop} [Decidable p] {s' : Supervision} (h : Supervised cfg s)
    (h' : p → Supervised cfg s') : Supervised cfg (if p then s' else s) := by
  split_ifs with hp
  · exact h' hp
  · exact h

theorem Supervised.step (h : Supervised cfg s) (t : Turn) : Supervised cfg (s.step cfg t) := by
  cases t with
  | opened now => exact h.ite fun hphase => h.onOpened hphase now
  | deviceNotFound => exact h.ite fun hphase => h.onDeviceLost (by simp [hphase])
  | openFailed => exact h.ite fun _ => h.stop
  | metadata now metadataList => exact h.ite fun hphase => h.onRead hphase now metadataList
  | pipelineReadError => exact h.ite fun hphase => h.onDeviceLost (by simp [hphase])
  | readFailed => exact h.ite fun _ => h.stop
  | signal => exact h.stop

end Step

theorem Supervised.paced {cfg : SupervisionConfig} {s : Supervision} (h : Supervised cfg s) :
    ∀ d ∈ s.sleeps, 1 / 10 ≤ d ∧ d ≤ cfg.maxBackoffMs / 1000 := by
  obtain ⟨past, -, hsleeps, -⟩ := h.outages
  intro d hd
  rw [hsleeps] at hd
  obtain ⟨attempts, -, hof⟩ := List.mem_flatMap.mp hd
  obtain ⟨attempt, -, rfl⟩ := List.mem_map.mp hof
  exact ⟨cfg.le_delay attempt, cfg.delay_le attempt⟩

/-! ### When it ends -/

/-- The turn ends the service: the signal, a failure that is not caught, a lost device without
reopening, or a dict that the builder refuses for more than a banned key. -/
inductive Ends (cfg : SupervisionConfig) (s : Supervision) : Turn → Prop
  | signal : Ends cfg s .signal
  | deviceNotFound (hphase : s.phase = .opening) (hreopen : cfg.reopenEnabled = false) :
    Ends cfg s .deviceNotFound
  | openFailed (hphase : s.phase = .opening) : Ends cfg s .openFailed
  | pipelineReadError (hphase : s.phase = .reading) (hreopen : cfg.reopenEnabled = false) :
    Ends cfg s .pipelineReadError
  | readFailed (hphase : s.phase = .reading) : Ends cfg s .readFailed
  | refused (hphase : s.phase = .reading) (now : ℚ) (metadataList : List Returned) (r : Returned)
    (hr : r ∈ metadataList) (hbanned : ¬ Banned r.raw)
    (hreads : ¬ MetadataReads cfg.toCameraConfig r.raw) : Ends cfg s (.metadata now metadataList)

section Ending

variable {cfg : SupervisionConfig} {s : Supervision}

theorem onDeviceLost_phase (cfg : SupervisionConfig) (s : Supervision) :
    (s.onDeviceLost cfg).phase = if cfg.reopenEnabled then .opening else .stopped := by
  unfold Supervision.onDeviceLost
  split_ifs <;> rfl

theorem onDeviceLost_stopped_iff :
    (s.onDeviceLost cfg).phase = .stopped ↔ cfg.reopenEnabled = false := by
  rw [onDeviceLost_phase]
  cases cfg.reopenEnabled <;> simp

theorem onRead_stopped_iff (now : ℚ) (metadataList : List Returned) :
    (s.onRead cfg now metadataList).phase = .stopped ↔
      ∃ r ∈ metadataList, ¬ Banned r.raw ∧ ¬ MetadataReads cfg.toCameraConfig r.raw := by
  have hruns : (ReadLoop.onRead cfg.toCameraConfig ⟨s.published, none⟩ metadataList).failure =
      none ↔ ∀ r ∈ metadataList, Banned r.raw ∨ MetadataReads cfg.toCameraConfig r.raw :=
    foldl_running_iff rfl metadataList
  have hphase : (s.onRead cfg now metadataList).phase = .stopped ↔
      (ReadLoop.onRead cfg.toCameraConfig ⟨s.published, none⟩ metadataList).failure ≠
        none := by
    simp only [Supervision.onRead]
    cases (ReadLoop.onRead cfg.toCameraConfig ⟨s.published, none⟩ metadataList).failure with
    | none => simp
    | some e => simp
  rw [hphase, Ne, hruns]
  push Not
  rfl

theorem ends_deviceNotFound_iff :
    Ends cfg s .deviceNotFound ↔ s.phase = .opening ∧ cfg.reopenEnabled = false := by
  refine ⟨fun h => ?_, fun h => .deviceNotFound h.1 h.2⟩
  cases h with
  | deviceNotFound hphase hreopen => exact ⟨hphase, hreopen⟩

theorem ends_pipelineReadError_iff :
    Ends cfg s .pipelineReadError ↔ s.phase = .reading ∧ cfg.reopenEnabled = false := by
  refine ⟨fun h => ?_, fun h => .pipelineReadError h.1 h.2⟩
  cases h with
  | pipelineReadError hphase hreopen => exact ⟨hphase, hreopen⟩

theorem ends_metadata_iff {now : ℚ} {metadataList : List Returned} :
    Ends cfg s (.metadata now metadataList) ↔ s.phase = .reading ∧
      ∃ r ∈ metadataList, ¬ Banned r.raw ∧ ¬ MetadataReads cfg.toCameraConfig r.raw := by
  refine ⟨fun h => ?_, fun h => ?_⟩
  · cases h with
    | refused hphase now metadataList r hr hbanned hreads =>
      exact ⟨hphase, r, hr, hbanned, hreads⟩
  · obtain ⟨hphase, r, hr, hbanned, hreads⟩ := h
    exact .refused hphase now metadataList r hr hbanned hreads

theorem ends_openFailed_iff : Ends cfg s .openFailed ↔ s.phase = .opening := by
  refine ⟨fun h => ?_, .openFailed⟩
  cases h with
  | openFailed hphase => exact hphase

theorem ends_readFailed_iff : Ends cfg s .readFailed ↔ s.phase = .reading := by
  refine ⟨fun h => ?_, .readFailed⟩
  cases h with
  | readFailed hphase => exact hphase

/-- A turn leaves the loop stopped exactly where it was so or the turn ends it. -/
theorem step_stopped_iff (t : Turn) :
    (s.step cfg t).phase = .stopped ↔ s.phase = .stopped ∨ Ends cfg s t := by
  cases t with
  | opened now =>
    have hends : ¬ Ends cfg s (.opened now) := fun h => nomatch h
    rw [Supervision.step]
    split_ifs with hphase
    · simp [Supervision.onOpened, hphase, hends]
    · simp [hends]
  | deviceNotFound =>
    rw [ends_deviceNotFound_iff, Supervision.step]
    split_ifs with hphase
    · simp [onDeviceLost_stopped_iff, hphase]
    · simp [hphase]
  | openFailed =>
    rw [ends_openFailed_iff, Supervision.step]
    split_ifs with hphase
    · simp [Supervision.stop, hphase]
    · simp [hphase]
  | metadata now metadataList =>
    rw [ends_metadata_iff, Supervision.step]
    split_ifs with hphase
    · simp [onRead_stopped_iff, hphase]
    · simp [hphase]
  | pipelineReadError =>
    rw [ends_pipelineReadError_iff, Supervision.step]
    split_ifs with hphase
    · simp [onDeviceLost_stopped_iff, hphase]
    · simp [hphase]
  | readFailed =>
    rw [ends_readFailed_iff, Supervision.step]
    split_ifs with hphase
    · simp [Supervision.stop, hphase]
    · simp [hphase]
  | signal => exact iff_of_true rfl (Or.inr .signal)

/-- The loop runs exactly as long as no turn ends it. -/
theorem run_running_iff (turns : List Turn) :
    ((supervising cfg).run s turns).phase ≠ .stopped ↔
      s.phase ≠ .stopped ∧ (supervising cfg).EachStep (fun s t => ¬ Ends cfg s t) s turns := by
  induction turns generalizing s with
  | nil => simp
  | cons t turns ih =>
    rw [Machine.run_cons, ih, Machine.eachStep_cons, ← and_assoc]
    refine and_congr_left fun _ => ?_
    rw [← not_or]
    exact not_congr (step_stopped_iff t)

theorem run_stopped_iff (cfg : SupervisionConfig) (turns : List Turn) :
    ((supervising cfg).run {} turns).phase = .stopped ↔
      ∃ pre t post, turns = pre ++ t :: post ∧
      Ends cfg ((supervising cfg).run {} pre) t := by
  have hruns : ((supervising cfg).run {} turns).phase ≠ .stopped ↔
      ({} : Supervision).phase ≠ .stopped ∧
        (supervising cfg).EachStep (fun s t => ¬ Ends cfg s t) {} turns := run_running_iff turns
  rw [Machine.eachStep_iff_cut] at hruns
  rw [← not_iff_not, ← Ne, hruns]
  push Not
  exact ⟨fun h => h.2, fun h => ⟨by simp, h⟩⟩

end Ending

/-- What operators can rely on holds in every state that the service reaches, no sleep leaves the
bounds of the configuration, and the service has stopped exactly where a turn has ended it. -/
theorem supervision_reports (cfg : SupervisionConfig) (turns : List Turn) :
    Supervised cfg ((supervising cfg).run {} turns) ∧
      (∀ d ∈ ((supervising cfg).run {} turns).sleeps,
        1 / 10 ≤ d ∧ d ≤ cfg.maxBackoffMs / 1000) ∧
      (((supervising cfg).run {} turns).phase = .stopped ↔
        ∃ pre t post, turns = pre ++ t :: post ∧
          Ends cfg ((supervising cfg).run {} pre) t) := by
  have h : Supervised cfg ((supervising cfg).run {} turns) :=
    Machine.run_inv (M := supervising cfg) (fun _ t h => h.step t) supervised_init turns
  exact ⟨h, h.paced, run_stopped_iff cfg turns⟩

/-! ### The camera is one such driver -/

/-- How the loop over the camera's pipeline stands beside the loop over any driver. -/
structure Stands (l : CameraLoop) (s : Supervision) : Prop where
  phase : l.phase = s.phase
  published : l.published.map Published.observation = s.published

section Camera

variable {cfg : SupervisionConfig} {l : CameraLoop} {s : Supervision}

theorem onDeviceLost_published (cfg : SupervisionConfig) (s : Supervision) :
    (s.onDeviceLost cfg).published = s.published := by
  unfold Supervision.onDeviceLost
  split_ifs <;> rfl

theorem readAndPublish_closed (cfg : CameraConfig) (stamp : Stamp)
    (hopen : l.pipelineOpen = false) : l.readAndPublish cfg stamp =
      if cfg.reopenEnabled then { l.closeDriver with phase := .opening } else l.stop := by
  simp [CameraLoop.readAndPublish, hopen]

theorem readAndPublish_phase (cfg : CameraConfig) (stamp : Stamp) (hopen : l.pipelineOpen = true) :
    (l.readAndPublish cfg stamp).phase = l.phase ∨
      (l.readAndPublish cfg stamp).phase = .stopped := by
  unfold CameraLoop.readAndPublish
  simp only [hopen, if_true]
  cases l.latestMetadata with
  | none => exact Or.inl rfl
  | some c =>
    dsimp only
    cases buildObservation cfg.conversions stamp c.sample.metadata cfg.context with
    | ok o => exact Or.inl rfl
    | error e =>
      cases e with
      | privacyViolation found => exact Or.inl rfl
      | uncaught e => exact Or.inr rfl
      | validation => exact Or.inr rfl

/-- A pass over the slot is a read that returns what the slot holds. -/
theorem Stands.readAndPublish (h : Stands l s) (hphase : l.phase = .reading) (stamp : Stamp)
    (now : ℚ) : ∃ t, Stands (l.readAndPublish cfg.toCameraConfig stamp) (s.step cfg t) := by
  have hreading : s.phase = .reading := h.phase.symm.trans hphase
  cases hopen : l.pipelineOpen with
  | false =>
    refine ⟨.pipelineReadError, ?_, ?_⟩
    · rw [readAndPublish_closed _ _ hopen]
      simp only [Supervision.step, hreading, if_true, onDeviceLost_phase]
      split_ifs <;> rfl
    · rw [readAndPublish_closed _ _ hopen]
      simp only [Supervision.step, hreading, if_true, onDeviceLost_published, ← h.published]
      split_ifs <;> rfl
  | true =>
    cases hslot : l.latestMetadata with
    | none =>
      refine ⟨.metadata now [], ?_, ?_⟩
      · simp [Supervision.step, hreading, CameraLoop.readAndPublish, hopen, hslot,
          Supervision.onRead, ReadLoop.onRead, hphase]
      · simp [Supervision.step, hreading, CameraLoop.readAndPublish, hopen, hslot,
          Supervision.onRead, ReadLoop.onRead, h.published]
    | some c =>
      obtain ⟨hpublished, hstopped⟩ :=
        @readAndPublish_onMetadata cfg.toCameraConfig l c hopen hslot hphase stamp
      rw [h.published] at hpublished hstopped
      have hnext : s.step cfg (.metadata now [⟨stamp, c.sample.metadata⟩]) =
          s.onRead cfg now [⟨stamp, c.sample.metadata⟩] := if_pos hreading
      refine ⟨.metadata now [⟨stamp, c.sample.metadata⟩], ?_,
        hpublished.trans (by rw [hnext]; rfl)⟩
      rw [hnext]
      show _ = if Option.isNone _ then LoopPhase.reading else LoopPhase.stopped
      rcases readAndPublish_phase cfg.toCameraConfig stamp hopen with hkept | hended
      · have hfailure : (ReadLoop.onMetadata cfg.toCameraConfig ⟨s.published, none⟩
            ⟨stamp, c.sample.metadata⟩).failure = none := by
          by_contra hfailed
          have hcontra := hstopped.mpr hfailed
          rw [hkept, hphase] at hcontra
          cases hcontra
        rw [hkept, hphase, ReadLoop.onRead, List.foldl_cons, List.foldl_nil, hfailure]
        rfl
      · obtain ⟨e, he⟩ := Option.ne_none_iff_exists'.mp (hstopped.mp hended)
        rw [hended, ReadLoop.onRead, List.foldl_cons, List.foldl_nil, he]
        rfl

/-- Whatever the pipeline does between the passes, the loop over any driver can follow. -/
theorem Stands.next (h : Stands l s) (i : CameraStep) (now : ℚ) :
    ∃ turns, Stands ((camera cfg.toCameraConfig).next l i) ((supervising cfg).run s turns) := by
  cases i with
  | newSample sample =>
    refine ⟨[], ?_⟩
    cases sample with
    | none => exact h
    | some sample =>
      show Stands (l.onNewSample sample) s
      unfold CameraLoop.onNewSample
      split_ifs
      · exact ⟨h.phase, h.published⟩
      · exact h
  | tryOpen o =>
    show ∃ turns, Stands (if l.phase = .opening then l.openDriver cfg.toCameraConfig o else l) _
    split_ifs with hphase
    · have hopening : s.phase = .opening := h.phase.symm.trans hphase
      cases o with
      | opened =>
        refine ⟨[.opened now], ?_⟩
        show Stands _ (if s.phase = .opening then s.onOpened now else s)
        rw [if_pos hopening]
        exact ⟨rfl, h.published⟩
      | deviceAbsent =>
        refine ⟨[.deviceNotFound], ?_⟩
        show Stands _ (if s.phase = .opening then s.onDeviceLost cfg else s)
        rw [if_pos hopening]
        refine ⟨?_, ?_⟩
        · rw [onDeviceLost_phase, CameraLoop.openDriver]
          split_ifs
          · exact hphase
          · rfl
        · rw [onDeviceLost_published, CameraLoop.openDriver, ← h.published]
          split_ifs <;> rfl
      | failed =>
        refine ⟨[.openFailed], ?_⟩
        show Stands _ (if s.phase = .opening then s.stop else s)
        rw [if_pos hopening]
        exact ⟨rfl, h.published⟩
    · exact ⟨[], h⟩
  | iterate stamp =>
    show ∃ turns, Stands (if l.phase = .reading then l.readAndPublish cfg.toCameraConfig stamp
      else l) _
    split_ifs with hphase
    · obtain ⟨t, ht⟩ := h.readAndPublish hphase stamp now
      exact ⟨[t], ht⟩
    · exact ⟨[], h⟩
  | close => exact ⟨[], h.phase, h.published⟩
  | shutdown => exact ⟨[.signal], rfl, h.published⟩

/-- Every run of the camera is a run of the loop: what it publishes is published under
supervision. -/
theorem camera_supervised (cfg : SupervisionConfig) (is : List CameraStep) (now : ℚ) :
    ∃ turns, Stands ((camera cfg.toCameraConfig).run {} is) ((supervising cfg).run {} turns) := by
  induction is using List.reverseRecOn with
  | nil => exact ⟨[], rfl, rfl⟩
  | append_singleton is i ih =>
    obtain ⟨turns, hstands⟩ := ih
    obtain ⟨more, hnext⟩ := hstands.next i now
    refine ⟨turns ++ more, ?_⟩
    rw [Machine.run_snoc, Machine.run_append]
    exact hnext

end Camera

end AdaptiveAdvertisement.InputCv
