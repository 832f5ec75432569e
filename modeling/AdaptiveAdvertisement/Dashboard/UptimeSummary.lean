import AdaptiveAdvertisement.Dashboard.ManifestRouter
import AdaptiveAdvertisement.Library.Number

/-!
# Uptime and the SLO verdict (`dashboard_api/uptime_sink.py`, `routers/analytics.py`)

The sink appends one row a probe, and the summary counts the rows of a window and compares their
percentage with the target after rounding it to two decimals. Percentages are rationals, rounded
where the source rounds.

Source lines: `run_uptime_sink` 22-77, `get_uptime_summary` 246-283.
-/

namespace AdaptiveAdvertisement.Dashboard
open Library

structure UptimeEvent where
  sampledAt : ℚ
  playerStatus : String
  overallStatus : String

inductive ProbeOutcome where
  | answered (status : ℕ)
  | failed
  deriving DecidableEq

structure ProbeCycle where
  sampledAt : ℚ
  outcome : ProbeOutcome
  committed : Bool

def uptimeEvent (sampledAt : ℚ) : ProbeOutcome → UptimeEvent
  | .answered status =>
    if status = 200 then ⟨sampledAt, "healthy", "healthy"⟩
    else ⟨sampledAt, "unhealthy", "degraded"⟩
  | .failed => ⟨sampledAt, "unreachable", "critical"⟩

/-- A row that cannot be committed is logged and lost. -/
def uptimeCycle (events : List UptimeEvent) (c : ProbeCycle) : List UptimeEvent :=
  if c.committed then events ++ [uptimeEvent c.sampledAt c.outcome] else events

def runUptimeSink (events : List UptimeEvent) (cycles : List ProbeCycle) : List UptimeEvent :=
  cycles.foldl uptimeCycle events

structure UptimeSummaryOut where
  windowDescription : String
  sampledAt : ℚ
  totalProbes : ℕ
  healthyProbes : ℕ
  uptimePct : Option Number
  sloTargetPct : ℚ
  sloMet : Option Bool

def sloTargetPct : ℚ := 995 / 10

def uptimeWindow (events : List UptimeEvent) (now : ℚ) (hours : ℤ) : List UptimeEvent :=
  events.filter fun r => decide (now - hours * 3600 ≤ r.sampledAt)

def healthyProbes (rows : List UptimeEvent) : ℕ :=
  rows.countP fun r => r.playerStatus == "healthy"

def uptimePct (rows : List UptimeEvent) : Number :=
  (Number.finite (healthyProbes rows / rows.length * 100)).roundTo 2

def getUptimeSummary (events : List UptimeEvent) (now : ℚ) (hours : ℤ) :
    Except HttpError UptimeSummaryOut :=
  if hours < 1 ∨ 720 < hours then .error unprocessable
  else
    let rows := uptimeWindow events now hours
    let description := "rolling " ++ toString hours ++ "h"
    .ok (if rows.isEmpty then ⟨description, now, 0, 0, none, sloTargetPct, none⟩
      else ⟨description, now, rows.length, healthyProbes rows, some (uptimePct rows),
        sloTargetPct, some (!(uptimePct rows).below sloTargetPct)⟩)

/-! ### The verdict -/

def availability (rows : List UptimeEvent) : ℚ := healthyProbes rows / rows.length

/-- The verdict on a window is that of the exact availability. -/
def VerdictExact (events : List UptimeEvent) (now : ℚ) (hours : ℤ) : Prop :=
  ∃ out, getUptimeSummary events now hours = .ok out ∧
    (out.sloMet = some true ↔ 995 / 1000 ≤ availability (uptimeWindow events now hours))

/-- Under the target, and at 99.495 per cent or above. -/
def RoundsToTarget (healthy total : ℕ) : Prop :=
  99495 * total ≤ 100000 * healthy ∧ 1000 * healthy < 995 * total

theorem uptimePct_below_iff {rows : List UptimeEvent} (hne : rows ≠ []) :
    (uptimePct rows).below sloTargetPct = true ↔
      100000 * healthyProbes rows < 99495 * rows.length := by
  have hlen : (0 : ℚ) < rows.length := by exact_mod_cast List.length_pos_iff.mpr hne
  have hceil : ⌈sloTargetPct * 10 ^ 2⌉ = 9950 := by norm_num [sloTargetPct]
  rw [uptimePct, Number.roundTo_below_iff, hceil]
  have hscale : (healthyProbes rows : ℚ) / rows.length * 100 * 10 ^ 2 =
      100000 * healthyProbes rows / rows.length / 10 := by ring
  have hodd : ¬ (9950 : ℤ) % 2 = 1 := by decide
  rw [hscale]
  simp only [hodd, and_false, or_false]
  rw [div_lt_iff₀ (by norm_num), div_lt_iff₀ hlen]
  norm_num
  exact_mod_cast Iff.rfl

theorem availability_iff {rows : List UptimeEvent} (hne : rows ≠ []) :
    995 / 1000 ≤ availability rows ↔ 995 * rows.length ≤ 1000 * healthyProbes rows := by
  have hlen : (0 : ℚ) < rows.length := by exact_mod_cast List.length_pos_iff.mpr hne
  rw [availability, div_le_div_iff₀ (by norm_num) hlen, mul_comm _ (1000 : ℚ)]
  exact_mod_cast Iff.rfl

theorem getUptimeSummary_verdict {events : List UptimeEvent} {now : ℚ} {hours : ℤ}
    (hhours : 1 ≤ hours ∧ hours ≤ 720) (hne : uptimeWindow events now hours ≠ []) :
    ∃ out, getUptimeSummary events now hours = .ok out ∧
      out.sloMet = some (!(uptimePct (uptimeWindow events now hours)).below sloTargetPct) := by
  have hin : ¬ (hours < 1 ∨ 720 < hours) := by omega
  have hrows : (uptimeWindow events now hours).isEmpty = false := by simpa using hne
  exact ⟨_, by rw [getUptimeSummary, if_neg hin], by simp [hrows]⟩

/-- A non-empty window is judged exactly, unless its availability is under the target by no more
than the rounding adds. -/
theorem verdictExact_iff (events : List UptimeEvent) (now : ℚ) (hours : ℤ)
    (hhours : 1 ≤ hours ∧ hours ≤ 720) (hne : uptimeWindow events now hours ≠ []) :
    VerdictExact events now hours ↔
      ¬ RoundsToTarget (healthyProbes (uptimeWindow events now hours))
        (uptimeWindow events now hours).length := by
  obtain ⟨out, hout, hmet⟩ := getUptimeSummary_verdict hhours hne
  have hverdict : out.sloMet = some true ↔
      ¬ 100000 * healthyProbes (uptimeWindow events now hours) <
        99495 * (uptimeWindow events now hours).length := by
    rw [hmet, ← uptimePct_below_iff hne]
    simp
  have hexact := availability_iff hne
  rw [RoundsToTarget]
  refine ⟨fun h => ?_, fun h => ⟨out, hout, ?_⟩⟩
  · obtain ⟨out', hout', hiff⟩ := h
    obtain rfl := Except.ok.inj (hout.symm.trans hout')
    have hsame := hverdict.symm.trans (hiff.trans hexact)
    omega
  · rw [hverdict, hexact]
    omega

/-- Rounding never turns a target met into one missed. -/
theorem verdict_of_met {events : List UptimeEvent} {now : ℚ} {hours : ℤ}
    (hhours : 1 ≤ hours ∧ hours ≤ 720) (hne : uptimeWindow events now hours ≠ [])
    (hmet : 995 / 1000 ≤ availability (uptimeWindow events now hours)) :
    ∃ out, getUptimeSummary events now hours = .ok out ∧ out.sloMet = some true := by
  obtain ⟨out, hout, hverdict⟩ := getUptimeSummary_verdict hhours hne
  have hcounts := (availability_iff hne).mp hmet
  have hnot := mt (uptimePct_below_iff hne).mp (by omega)
  rw [Bool.not_eq_true] at hnot
  exact ⟨out, hout, by rw [hverdict, hnot]; rfl⟩

/-- Fewer than 199 probes leave no room between 99.495 and 99.5 per cent. -/
theorem roundsToTarget_total {healthy total : ℕ} (h : RoundsToTarget healthy total) :
    199 ≤ total := by
  obtain ⟨hlow, hhigh⟩ := h
  obtain ⟨missed, rfl⟩ : ∃ missed, total = healthy + missed := ⟨total - healthy, by omega⟩
  have hmissed : 1 ≤ missed := by omega
  omega

/-- One probe a minute, of which the first are not answered. -/
def minuteProbes (failed total : ℕ) : List UptimeEvent :=
  runUptimeSink [] <| (List.range total).map fun n =>
    ⟨60 * n, if n < failed then .failed else .answered 200, true⟩

theorem dayProbes_exact : VerdictExact (minuteProbes 1 10) 600 24 :=
  (verdictExact_iff _ _ _ (by decide) (by decide +kernel)).mpr
    fun h => absurd (roundsToTarget_total h) (by decide +kernel)

/-- Of 199 probes one fails: 99.4975 per cent, judged as 99.5. -/
theorem dayProbes_inexact : ¬ ∀ (events : List UptimeEvent) (now : ℚ) (hours : ℤ),
    1 ≤ hours ∧ hours ≤ 720 → uptimeWindow events now hours ≠ [] →
      VerdictExact events now hours := by
  intro h
  obtain ⟨out, hout, hiff⟩ := h (minuteProbes 1 199) 11940 24 (by decide) (by decide +kernel)
  have hmet : (getUptimeSummary (minuteProbes 1 199) 11940 24).map UptimeSummaryOut.sloMet =
      .ok (some true) := by decide +kernel
  have havailable :
      ¬ 995 / 1000 ≤ availability (uptimeWindow (minuteProbes 1 199) 11940 24) := by
    decide +kernel
  rw [hout] at hmet
  exact havailable (hiff.mp (Except.ok.inj hmet))

end AdaptiveAdvertisement.Dashboard
