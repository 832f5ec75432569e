import AdaptiveAdvertisement.Dashboard.FailingRequests
import AdaptiveAdvertisement.Dashboard.SnapshotParser

/-!
# The audience of the last hour (`dashboard_api/routers/analytics.py:53-110`)

The snapshots of the hour are counted, their counts and their attention averaged, and the age bins
of those whose demographics are not suppressed. The database gives the rows in an order of its own.
-/

namespace AdaptiveAdvertisement.Dashboard
open Library Contracts
open DecisionOptimizer (memberOr)

/-- How the database answers the query for the rows since an instant. -/
structure SinceQuery where
  rows : ℚ → List AudienceSnapshot → List AudienceSnapshot
  perm : ∀ since table, (rows since table).Perm
    (table.filter fun r => decide (since ≤ r.sampledAt))

structure AnalyticsSummaryOut where
  windowDescription : String
  sampledAt : ℚ
  totalObservations : ℕ
  avgCountPerWindow : Option Number
  peakCount : Option ℤ
  ageDistribution : Option (List (String × Number))
  avgAttentionEngaged : Option Number
  dataAvailable : Bool

/-- `r.age_group_… or 0.0` -/
def AudienceSnapshot.ageOrZero (r : AudienceSnapshot) (name : String) : Number :=
  ((Dict.find name r.ageGroup).bind Json.asNumber?).getD (.finite 0)

def demoRows (rows : List AudienceSnapshot) : List AudienceSnapshot :=
  rows.filter fun r => !r.demographicsSuppressed.truthy

def ageMeans (rows : List AudienceSnapshot) : List (String × Number) :=
  ageBins.map fun name => (name, Number.mean (rows.map fun r => r.ageOrZero name))

def ageDistribution (rows : List AudienceSnapshot) : Option (List (String × Number)) :=
  if (demoRows rows).isEmpty then none
  else if (ageMeans (demoRows rows)).any fun b => (Number.finite 0).lt b.2 then
    some (ageMeans (demoRows rows))
  else none

def avgAttentionEngaged (rows : List AudienceSnapshot) : Option Number :=
  let attnValues := rows.filterMap AudienceSnapshot.attentionEngaged
  if attnValues.isEmpty then none else some ((Number.mean attnValues).roundTo 4)

def avgCount (rows : List AudienceSnapshot) : Number :=
  Number.mean (rows.map fun r => .finite r.presenceCount)

def AnalyticsSummaryOut.numbers (out : AnalyticsSummaryOut) : List Number :=
  out.avgCountPerWindow.toList ++ (out.ageDistribution.getD []).map Prod.snd ++
    out.avgAttentionEngaged.toList

/-- A number that is not finite may fail to render. -/
def AnalyticsSummaryOut.rendered (renders : Number → Bool) (out : AnalyticsSummaryOut) :
    Except HttpError AnalyticsSummaryOut :=
  if out.numbers.all renders then .ok out else .error serverError

def summarize (now : ℚ) (rows : List AudienceSnapshot) : AnalyticsSummaryOut :=
  if rows.isEmpty then
    { windowDescription := "rolling 1 hour"
      sampledAt := now
      totalObservations := 0
      avgCountPerWindow := none
      peakCount := none
      ageDistribution := none
      avgAttentionEngaged := none
      dataAvailable := false }
  else
    { windowDescription := "rolling 1 hour"
      sampledAt := now
      totalObservations := rows.length
      avgCountPerWindow := some ((avgCount rows).roundTo 2)
      peakCount := (rows.map AudienceSnapshot.presenceCount).max?
      ageDistribution := ageDistribution rows
      avgAttentionEngaged := avgAttentionEngaged rows
      dataAvailable := true }

/-- The rows that the query asks for. -/
def lastHour (now : ℚ) (table : List AudienceSnapshot) : List AudienceSnapshot :=
  table.filter fun r => decide (now - 3600 ≤ r.sampledAt)

def getAnalyticsSummary (renders : Number → Bool) (query : SinceQuery) (now : ℚ)
    (table : List AudienceSnapshot) : Except HttpError AnalyticsSummaryOut :=
  (summarize now (query.rows (now - 3600) table)).rendered renders

/-! ### The law -/

/-- Counts are not negative, and what is there of the fractions is one, or a nan. -/
structure RowWithin (r : AudienceSnapshot) : Prop where
  count : 0 ≤ r.presenceCount
  ages : ∀ name, (r.ageOrZero name).Within 0 1
  attention : ∀ x, r.attentionEngaged = some x → x.Within 0 1

def RowFinite (r : AudienceSnapshot) : Prop :=
  (∀ name, (r.ageOrZero name).isFinite = true) ∧
    ∀ x, r.attentionEngaged = some x → x.isFinite = true

/-- What the summary tells of the rows of its hour: a bin is shown with the others where a row that
is not suppressed has someone in one of them. -/
structure Summarizes (hour : List AudienceSnapshot) (out : AnalyticsSummaryOut) : Prop where
  total : out.totalObservations = hour.length
  available : out.dataAvailable = true ↔ hour ≠ []
  peak : ∀ n, out.peakCount = some n ↔
    (∃ r ∈ hour, r.presenceCount = n) ∧ ∀ r ∈ hour, r.presenceCount ≤ n
  average : ∀ x, out.avgCountPerWindow = some x →
    ∃ q n, x = .finite q ∧ out.peakCount = some n ∧ 0 ≤ q ∧ q ≤ n
  shown : out.ageDistribution.isSome = true ↔ ∃ name ∈ ageBins,
    (∀ r ∈ demoRows hour, (r.ageOrZero name).isFinite = true) ∧
      ∃ r ∈ demoRows hour, (Number.finite 0).lt (r.ageOrZero name) = true
  ages : ∀ bins, out.ageDistribution = some bins →
    bins.map Prod.fst = ageBins ∧ ∀ b ∈ bins, b.2.Within 0 1
  attention : ∀ x, out.avgAttentionEngaged = some x → x.Within 0 1

section Law

variable {rows hour : List AudienceSnapshot} {r : AudienceSnapshot}

theorem mem_demoRows :
    r ∈ demoRows rows ↔ r ∈ rows ∧ r.demographicsSuppressed.truthy = false := by
  rw [demoRows, List.mem_filter, Bool.not_eq_true']

theorem Summarizes.perm {out : AnalyticsSummaryOut} (h : Summarizes rows out)
    (hperm : rows.Perm hour) : Summarizes hour out := by
  have hdemo : ∀ r, r ∈ demoRows hour ↔ r ∈ demoRows rows := fun r => by
    rw [mem_demoRows, mem_demoRows, hperm.mem_iff]
  refine ⟨h.total.trans hperm.length_eq, h.available.trans ?_, fun n => ?_, h.average, ?_, h.ages,
    h.attention⟩
  · exact not_congr
      ⟨fun hnil => (hnil ▸ hperm).symm.eq_nil, fun hnil => (hnil ▸ hperm).eq_nil⟩
  · simp only [h.peak n, hperm.mem_iff]
  · simp only [h.shown, hdemo]

theorem max_count (rows : List AudienceSnapshot) (n : ℤ) :
    (rows.map AudienceSnapshot.presenceCount).max? = some n ↔
      (∃ r ∈ rows, r.presenceCount = n) ∧ ∀ r ∈ rows, r.presenceCount ≤ n := by
  simp [List.max?_eq_some_iff]

/-- The average of the counts is no more than the peak. -/
theorem avgCount_le (hne : rows ≠ []) (h : ∀ r ∈ rows, RowWithin r) :
    ∃ q n, (avgCount rows).roundTo 2 = .finite q ∧
      (rows.map AudienceSnapshot.presenceCount).max? = some n ∧ 0 ≤ q ∧ q ≤ n := by
  obtain ⟨n, hn⟩ := Option.ne_none_iff_exists'.mp
    (fun hnone : (rows.map AudienceSnapshot.presenceCount).max? = none =>
      hne (List.map_eq_nil_iff.mp (List.max?_eq_none_iff.mp hnone)))
  obtain ⟨-, hle⟩ := (max_count rows n).mp hn
  have hterms : ∀ x ∈ rows.map fun r => Number.finite r.presenceCount,
      x.Within (0 : ℤ) n ∧ x.isFinite = true := by
    intro x hx
    obtain ⟨r, hr, rfl⟩ := List.mem_map.mp hx
    exact ⟨⟨by exact_mod_cast (h r hr).count, by exact_mod_cast hle r hr⟩, rfl⟩
  have hwithin := Number.roundTo_within 0 n 2
    (Number.mean_within (by simpa using hne) fun x hx => (hterms x hx).1)
  have hfinite : (avgCount rows).isFinite = true := by
    rw [avgCount, Number.isFinite_mean]
    exact List.all_eq_true.mpr fun x hx => (hterms x hx).2
  rw [← avgCount] at hwithin
  cases havg : avgCount rows with
  | nonfinite y =>
    rw [havg] at hfinite
    cases hfinite
  | finite q =>
    rw [havg] at hwithin
    exact ⟨_, n, rfl, hn, by exact_mod_cast hwithin.1, hwithin.2⟩

theorem ageOrZero_within (h : ∀ r ∈ rows, RowWithin r) (name : String) :
    ∀ x ∈ (demoRows rows).map fun r => r.ageOrZero name, x.Within 0 1 := by
  intro x hx
  obtain ⟨r, hr, rfl⟩ := List.mem_map.mp hx
  exact (h r (mem_demoRows.mp hr).1).ages name

theorem ageDistribution_isSome (h : ∀ r ∈ rows, RowWithin r) :
    (ageDistribution rows).isSome = true ↔ ∃ name ∈ ageBins,
      (∀ r ∈ demoRows rows, (r.ageOrZero name).isFinite = true) ∧
        ∃ r ∈ demoRows rows, (Number.finite 0).lt (r.ageOrZero name) = true := by
  have hany : ((ageMeans (demoRows rows)).any fun b => (Number.finite 0).lt b.2) = true ↔
      ∃ name ∈ ageBins, (∀ r ∈ demoRows rows, (r.ageOrZero name).isFinite = true) ∧
        ∃ r ∈ demoRows rows, (Number.finite 0).lt (r.ageOrZero name) = true := by
    rw [ageMeans, List.any_map, List.any_eq_true]
    refine exists_congr fun name => and_congr_right fun _ => ?_
    refine (mean_pos_iff (ageOrZero_within h name)).trans ?_
    rw [List.forall_mem_map]
    simp only [List.mem_map, exists_exists_and_eq_and]
  rw [← hany]
  unfold ageDistribution
  split_ifs with hempty hpos
  · refine iff_of_false Bool.false_ne_true fun hpos => ?_
    obtain ⟨name, -, -, r, hr, -⟩ := hany.mp hpos
    rw [List.isEmpty_iff.mp hempty] at hr
    exact List.not_mem_nil hr
  · exact iff_of_true rfl hpos
  · exact iff_of_false Bool.false_ne_true hpos

theorem ageDistribution_eq {bins : List (String × Number)} (h : ageDistribution rows = some bins) :
    demoRows rows ≠ [] ∧ bins = ageMeans (demoRows rows) := by
  unfold ageDistribution at h
  split_ifs at h with hempty hpos
  exact ⟨fun hnil => hempty (by rw [hnil]; rfl), (Option.some.inj h).symm⟩

theorem ageDistribution_within (h : ∀ r ∈ rows, RowWithin r) {bins : List (String × Number)}
    (hbins : ageDistribution rows = some bins) :
    bins.map Prod.fst = ageBins ∧ ∀ b ∈ bins, b.2.Within 0 1 := by
  obtain ⟨hne, rfl⟩ := ageDistribution_eq hbins
  refine ⟨?_, fun b hb => ?_⟩
  · rw [ageMeans, List.map_map]
    exact List.map_id' _
  · obtain ⟨name, -, rfl⟩ := List.mem_map.mp hb
    exact Number.mean_within (by simpa using hne) (ageOrZero_within h name)

theorem avgAttentionEngaged_within (h : ∀ r ∈ rows, RowWithin r) :
    ∀ x, avgAttentionEngaged rows = some x → x.Within 0 1 := by
  intro x hx
  unfold avgAttentionEngaged at hx
  dsimp only at hx
  split_ifs at hx with hempty
  rw [← Option.some.inj hx]
  refine Number.roundTo_within 0 1 4 (Number.mean_within ?_ fun y hy => ?_)
  · intro hnil
    exact hempty (by rw [hnil]; rfl)
  · obtain ⟨r, hr, hvalue⟩ := List.mem_filterMap.mp hy
    exact_mod_cast (h r hr).attention y hvalue

theorem summarize_summarizes (now : ℚ) (h : ∀ r ∈ rows, RowWithin r) :
    Summarizes rows (summarize now rows) := by
  unfold summarize
  split_ifs with hempty
  · obtain rfl := List.isEmpty_iff.mp hempty
    constructor <;> simp [demoRows]
  · have hne : rows ≠ [] := fun hnil => hempty (by rw [hnil]; rfl)
    exact
      { total := rfl
        available := iff_of_true rfl hne
        peak := max_count rows
        average := by
          intro x hx
          rw [← Option.some.inj hx]
          exact avgCount_le hne h
        shown := ageDistribution_isSome h
        ages := fun _ => ageDistribution_within h
        attention := avgAttentionEngaged_within h }

theorem ageMeans_finite (hfinite : ∀ r ∈ rows, RowFinite r) :
    ∀ b ∈ ageMeans (demoRows rows), b.2.isFinite = true := by
  intro b hb
  obtain ⟨name, -, rfl⟩ := List.mem_map.mp hb
  rw [Number.isFinite_mean, List.all_eq_true]
  intro y hy
  obtain ⟨r, hr, rfl⟩ := List.mem_map.mp hy
  exact (hfinite r (mem_demoRows.mp hr).1).1 name

theorem avgAttentionEngaged_finite (hfinite : ∀ r ∈ rows, RowFinite r) :
    ∀ x, avgAttentionEngaged rows = some x → x.isFinite = true := by
  have hround : ∀ y : Number, (y.roundTo 4).isFinite = y.isFinite := by
    intro y
    cases y <;> rfl
  intro x hx
  unfold avgAttentionEngaged at hx
  dsimp only at hx
  split_ifs at hx
  rw [← Option.some.inj hx, hround, Number.isFinite_mean, List.all_eq_true]
  intro y hy
  obtain ⟨r, hr, hvalue⟩ := List.mem_filterMap.mp hy
  exact (hfinite r hr).2 y hvalue

/-- Without a nan in its hour the summary has none. -/
theorem summarize_finite (now : ℚ) (h : ∀ r ∈ rows, RowWithin r)
    (hfinite : ∀ r ∈ rows, RowFinite r) :
    ∀ x ∈ (summarize now rows).numbers, x.isFinite = true := by
  unfold summarize
  split_ifs with hempty
  · simp [AnalyticsSummaryOut.numbers]
  · have hne : rows ≠ [] := fun hnil => hempty (by rw [hnil]; rfl)
    intro x hx
    rcases List.mem_append.mp hx with hx | hattention
    · rcases List.mem_append.mp hx with haverage | hage
      · obtain ⟨q, n, hq, -⟩ := avgCount_le hne h
        rw [List.mem_singleton.mp haverage, hq]
        rfl
      · obtain ⟨b, hb, rfl⟩ := List.mem_map.mp hage
        cases hbins : ageDistribution rows with
        | none => simp [hbins] at hb
        | some bins =>
          obtain ⟨-, rfl⟩ := ageDistribution_eq hbins
          rw [hbins] at hb
          exact ageMeans_finite hfinite b hb
    · exact avgAttentionEngaged_finite hfinite x (Option.mem_toList.mp hattention)

/-- An answer tells of the rows of the hour, and none fails but for a nan. -/
theorem getAnalyticsSummary_summarizes (renders : Number → Bool) (query : SinceQuery) (now : ℚ)
    {table : List AudienceSnapshot} (h : ∀ r ∈ table, RowWithin r) :
    (∀ out, getAnalyticsSummary renders query now table = .ok out →
      Summarizes (lastHour now table) out) ∧
    ((∀ q, renders (.finite q) = true) → (∀ r ∈ lastHour now table, RowFinite r) →
      ∃ out, getAnalyticsSummary renders query now table = .ok out) := by
  have hperm : (query.rows (now - 3600) table).Perm (lastHour now table) :=
    query.perm (now - 3600) table
  have hrows : ∀ r ∈ query.rows (now - 3600) table, RowWithin r := fun r hr =>
    h r (List.mem_of_mem_filter (hperm.mem_iff.mp hr))
  unfold getAnalyticsSummary AnalyticsSummaryOut.rendered
  refine ⟨fun out hout => ?_, fun hrenders hfinite => ?_⟩
  · split_ifs at hout
    obtain rfl := Except.ok.inj hout
    exact (summarize_summarizes now hrows).perm hperm
  · refine ⟨_, if_pos (List.all_eq_true.mpr fun x hx => ?_)⟩
    have hx' := summarize_finite now hrows (fun r hr => hfinite r (hperm.mem_iff.mp hr)) x hx
    cases x with
    | finite q => exact hrenders q
    | nonfinite y => cases hx'

end Law

/-! ### Rows of valid signals -/

section Valid

variable {τ : Type} {rt : SinkRuntime τ} {msg : Json} {row : AudienceSnapshot}

theorem readSnapshot_engaged (h : rt.readSnapshot msg = .ok row) :
    ∃ state attention engaged, index msg "state" = .ok state ∧
      memberOr state "attention" .null = .ok attention ∧
      memberOr (if attention.truthy then attention else .obj []) "engaged" .null = .ok engaged ∧
      readEngaged rt.texts engaged = .ok row.attentionEngaged := by
  unfold SinkRuntime.readSnapshot at h
  obtain ⟨state, hstate, h⟩ := bind_ok h
  -- the parts between are not needed
  iterate 9 obtain ⟨_, -, h⟩ := bind_ok h
  obtain ⟨attention, hattention, h⟩ := bind_ok h
  obtain ⟨engaged, hengaged, h⟩ := bind_ok h
  iterate 7 obtain ⟨_, -, h⟩ := bind_ok h
  obtain ⟨x, hx, h⟩ := bind_ok h
  obtain rfl := Except.ok.inj h
  exact ⟨state, attention, engaged, hstate, hattention, hengaged, hx⟩

theorem readEngaged_within {texts : Number.Texts} {v : Json} {x : Number}
    (h : readEngaged texts v = .ok (some x)) (hv : fraction v = true ∨ v = .null) :
    x.Within 0 1 := by
  rcases hv with hfraction | rfl
  · obtain ⟨y, hy, hwithin⟩ := fraction_number hfraction
    obtain rfl := Number.asNumber?_eq_some hy
    have hread : (Number.toFloat texts y.toJson).map some = .ok (some x) := by
      cases y <;> exact h
    obtain ⟨z, hz, hzx⟩ := map_ok hread
    rw [Option.some.inj hzx, Number.eq_of_toFloat hz]
    exact hwithin
  · cases h

theorem engaged_within (hvalid : audienceStateSignal msg = true)
    (h : rt.readSnapshot msg = .ok row) {x : Number} (hx : row.attentionEngaged = some x) :
    x.Within 0 1 := by
  obtain ⟨state, attention, engaged, hstate, hattention, hengaged, hread⟩ :=
    readSnapshot_engaged h
  obtain ⟨state', hstate', hstateValid⟩ := signal_state hvalid
  obtain rfl := Except.ok.inj ((index_of_get? hstate').symm.trans hstate)
  obtain ⟨attention', hattention', hor⟩ := memberOr_object hstateValid
    "attention" Contracts.attention (by simp) .null
  obtain rfl := Except.ok.inj (hattention'.symm.trans hattention)
  have hblock : Contracts.attention
      (if attention'.truthy then attention' else .obj []) = true := by
    split_ifs with htruthy
    · rcases hor with hattentionValid | rfl
      · exact hattentionValid
      · cases htruthy
    · decide +kernel
  obtain ⟨engaged', hengaged', hfraction⟩ := memberOr_object hblock "engaged" fraction
    (List.mem_map_of_mem (f := fun n => (n, fraction)) (List.mem_cons_self (a := "engaged"))) .null
  obtain rfl := Except.ok.inj (hengaged'.symm.trans hengaged)
  exact readEngaged_within (hx ▸ hread) hfraction

theorem ages_within (hvalid : audienceStateSignal msg = true) (h : rt.readSnapshot msg = .ok row)
    (name : String) : (row.ageOrZero name).Within 0 1 := by
  obtain ⟨state, presence, stability, block, hread⟩ := readSnapshot_inv h
  obtain ⟨state', hstate', hstateValid⟩ := signal_state hvalid
  obtain rfl := Except.ok.inj ((index_of_get? hstate').symm.trans hread.state)
  obtain ⟨block', hblock', hor⟩ := memberOr_object hstateValid
    "demographics" Contracts.demographics (by simp) (.obj [])
  obtain rfl := Except.ok.inj (hblock'.symm.trans hread.demographics)
  have hblockValid : Contracts.demographics block' = true := by
    rcases hor with hdemographics | rfl
    · exact hdemographics
    · decide +kernel
  obtain ⟨ages, hages, hcolumns⟩ := bind_ok hread.ages
  have hagesValid : bins ageBins ages = true := by
    unfold releasedBins at hages
    split_ifs at hages
    · rw [← Except.ok.inj hages]
      decide +kernel
    · obtain ⟨ages', hages', hbins | rfl⟩ := memberOr_object hblockValid "age_group"
        (bins ageBins) (by simp) (.obj [])
      · rw [← Except.ok.inj (hages'.symm.trans hages)]
        exact hbins
      · rw [← Except.ok.inj (hages'.symm.trans hages)]
        decide +kernel
  unfold AudienceSnapshot.ageOrZero
  cases hx : (Dict.find name row.ageGroup).bind Json.asNumber? with
  | none => exact ⟨le_rfl, zero_le_one⟩
  | some x =>
    obtain ⟨v, hfind, hv⟩ := Option.bind_eq_some_iff.mp hx
    have hmem := Dict.find_eq_some_mem hfind
    rw [binColumns_ok hcolumns, List.mem_map] at hmem
    obtain ⟨name', -, hpair⟩ := hmem
    obtain ⟨rfl, rfl⟩ := Prod.mk.inj hpair
    cases hget : ages.get? name' with
    | none =>
      rw [hget] at hv
      cases hv
    | some w =>
      rw [hget, Option.getD_some] at hv
      exact bin_within ⟨ages, hagesValid⟩ (Option.bind_eq_some_iff.mpr ⟨w, hget, hv⟩)

theorem count_nonneg (hvalid : audienceStateSignal msg = true)
    (h : rt.readSnapshot msg = .ok row) : 0 ≤ row.presenceCount := by
  obtain ⟨state, presence, stability, block, hread⟩ := readSnapshot_inv h
  obtain ⟨state', hstate', hstateValid⟩ := signal_state hvalid
  obtain rfl := Except.ok.inj ((index_of_get? hstate').symm.trans hread.state)
  obtain ⟨presence', hpresence', hpresenceValid⟩ := Schema.object_required hstateValid
    (k := "presence") (s := Contracts.presence) (by simp) (by simp)
  obtain rfl := Except.ok.inj ((index_of_get? hpresence').symm.trans hread.present)
  obtain ⟨count, hcount, hcountValid⟩ :=
    Schema.object_required hpresenceValid (k := "count") (s := Contracts.count) (by simp) (by simp)
  obtain ⟨n, rfl⟩ := count_iff.mp hcountValid
  have hint := hread.count
  rw [index_of_get? hcount] at hint
  rw [← Except.ok.inj ((Number.toInt_int rt.texts n).symm.trans hint)]
  exact Int.natCast_nonneg n

theorem rowWithin_of_valid (hvalid : audienceStateSignal msg = true)
    (h : rt.parseSnapshot (rt.dumps msg) = .ok (some row)) : RowWithin row :=
  have hread := parseSnapshot_read h
  ⟨count_nonneg hvalid hread, ages_within hvalid hread, fun _ => engaged_within hvalid hread⟩

/-- Only a released block makes a row that is not suppressed. -/
theorem released_of_row (hvalid : audienceStateSignal msg = true)
    (h : rt.parseSnapshot (rt.dumps msg) = .ok (some row))
    (hshown : row.demographicsSuppressed.truthy = false) : Released msg := by
  obtain ⟨state, presence, stability, block, hread⟩ := readSnapshot_inv (parseSnapshot_read h)
  have hstate := get?_of_index hread.state
  obtain ⟨state', hstate', hstateValid⟩ := signal_state hvalid
  obtain rfl := Option.some.inj (hstate'.symm.trans hstate)
  obtain ⟨-, rfl⟩ := memberOr_ok hread.demographics
  obtain ⟨-, hsuppressed⟩ := memberOr_ok hread.suppressed
  rw [hsuppressed] at hshown
  cases hblock : state'.get? "demographics" with
  | none => simp [hblock, Json.truthy, Dict.find] at hshown
  | some block =>
    rw [hblock, Option.getD_some] at hshown
    have hblockValid : Contracts.demographics block = true :=
      Schema.object_property hstateValid (k := "demographics") (by simp) hblock
    cases hflag : block.get? "suppressed" with
    | none => simp [hflag, Json.truthy] at hshown
    | some v =>
      have hboolean : Schema.boolean v = true :=
        Schema.object_property hblockValid (k := "suppressed") (by simp) hflag
      rw [hflag, Option.getD_some] at hshown
      rw [Released, Json.at?_of_get? hstate, Json.at?_of_get? hblock, Json.at?_of_get? hflag]
      cases v <;> simp_all [Schema.boolean, Json.truthy, Json.at?]

end Valid

end AdaptiveAdvertisement.Dashboard
