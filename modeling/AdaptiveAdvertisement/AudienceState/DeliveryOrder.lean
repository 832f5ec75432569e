import AdaptiveAdvertisement.AudienceState.DemographicsRelease

/-!
# The order of delivery (`audience_state/observation_store.py`)

Observations that arrive at one instant, in any order. The state, the attention and the averages
of the demographics are sums, and do not see the order where these are exact; `dwell_estimate_ms`
is that of the observation delivered last (line 196), whatever its `frame_seq`.
-/

namespace AdaptiveAdvertisement.AudienceState
open Library Contracts

namespace ObservationWindow

def deliver (w : ObservationWindow) (t : ℚ) (os : List Observation) : ObservationWindow :=
  os.foldl (fun w o => w.add o ⟨t, t⟩) w

end ObservationWindow

/-! ### The law -/

structure SameBlocks (w w' : ObservationWindow) (now : ℚ) : Prop where
  state : (w.computeState now).2 = (w'.computeState now).2
  demographics : (w.computeDemographics now).2 = (w'.computeDemographics now).2
  attention : (w.computeAttention now).2 = (w'.computeAttention now).2

def OrderFree (w : ObservationWindow) (t now : ℚ) (os : List Observation) : Prop :=
  ∀ os', os'.Perm os → SameBlocks (w.deliver t os) (w.deliver t os') now

def dwellOf (o : Observation) : Option ℤ := o.demographics.bind dwellEstimateMs

/-- The window's demographics are complete and its mean confidence is not below the threshold. -/
def Releases (config : WindowConfig) (os : List Observation) : Prop :=
  (∀ o ∈ os, CarriesAll "age_group" ageBins o) ∧
    (meanConfidence config os).below config.confThreshold = false

/-- Where the window with them releases its demographics while they are in it, the observations
have one dwell estimate. -/
def OneDwell (w : ObservationWindow) (t now : ℚ) (os : List Observation) : Prop :=
  Releases w.config ((w.deliver t os).prune now).data →
    now - (w.config.windowMs : ℚ) / 1000 ≤ t → ∀ o ∈ os, ∀ o' ∈ os,
      dwellOf o = dwellOf o'

/-! ### What is in the window -/

section Deliver

variable {w : ObservationWindow} {t now : ℚ} {os : List Observation}

theorem deliver_config (w : ObservationWindow) (t : ℚ) (os : List Observation) :
    (w.deliver t os).config = w.config := by
  induction os generalizing w with
  | nil => rfl
  | cons o os ih => exact ih (w.add o ⟨t, t⟩)

theorem prune_add (w : ObservationWindow) (o : Observation) (t : ℚ) :
    ((w.add o ⟨t, t⟩).prune t).observations = (w.prune t).observations ++ [⟨o, t⟩] := by
  have hpos : (0 : ℚ) ≤ (w.config.windowMs : ℚ) / 1000 := by
    have hmin : (100 : ℚ) ≤ w.config.windowMs := by exact_mod_cast w.config.windowMs_min
    linarith
  have hin : t - (w.config.windowMs : ℚ) / 1000 ≤ t := by linarith
  have hadded : (w.add o ⟨t, t⟩).observations = (w.prune t).observations ++ [⟨o, t⟩] := rfl
  refine (List.filter_eq_self.mpr fun s hs => ?_).trans hadded
  rw [hadded, List.mem_append, List.mem_singleton] at hs
  rcases hs with hs | rfl
  · exact (List.mem_filter.mp hs).2
  · exact decide_eq_true hin

theorem deliver_observations (hne : os ≠ []) (w : ObservationWindow) :
    (w.deliver t os).observations =
      (w.prune t).observations ++ os.map fun o => (⟨o, t⟩ : Stored) := by
  induction os generalizing w with
  | nil => exact absurd rfl hne
  | cons o os ih =>
    cases hos : os with
    | nil => rfl
    | cons o' os' =>
      have hrest := ih (by simp [hos]) (w.add o ⟨t, t⟩)
      have hcons : w.deliver t (o :: os) = (w.add o ⟨t, t⟩).deliver t os := rfl
      rw [← hos, hcons, hrest, prune_add]
      simp

/-- The delivered observations stand last, or none of them is left. -/
theorem deliver_data (hne : os ≠ []) (w : ObservationWindow) (t now : ℚ) :
    ((w.deliver t os).prune now).data = ((w.prune t).prune now).data ++
      if now - (w.config.windowMs : ℚ) / 1000 ≤ t then os else [] := by
  have hobservations : ((w.deliver t os).prune now).observations =
      ((w.prune t).prune now).observations ++
        (os.map fun o => (⟨o, t⟩ : Stored)).filter fun o =>
          decide (now - (w.config.windowMs : ℚ) / 1000 ≤ o.receivedAt) := by
    simp only [ObservationWindow.prune, deliver_config, deliver_observations hne,
      List.filter_append]
    rfl
  rw [ObservationWindow.data, hobservations, List.map_append]
  refine congrArg _ ?_
  by_cases hin : now - (w.config.windowMs : ℚ) / 1000 ≤ t
  · have hall : ((os.map fun o => (⟨o, t⟩ : Stored)).filter fun o =>
        decide (now - (w.config.windowMs : ℚ) / 1000 ≤ o.receivedAt)) =
        os.map fun o => (⟨o, t⟩ : Stored) := by
      refine List.filter_eq_self.mpr fun o ho => ?_
      obtain ⟨o', -, rfl⟩ := List.mem_map.mp ho
      exact decide_eq_true hin
    rw [hall, if_pos hin, List.map_map]
    exact List.map_id _
  · have hnone : ((os.map fun o => (⟨o, t⟩ : Stored)).filter fun o =>
        decide (now - (w.config.windowMs : ℚ) / 1000 ≤ o.receivedAt)) = [] := by
      refine List.filter_eq_nil_iff.mpr fun o ho => ?_
      obtain ⟨o', -, rfl⟩ := List.mem_map.mp ho
      simpa using hin
    rw [hnone, if_neg hin]
    rfl

end Deliver

/-! ### Averages that do not see the order -/

section Averages

variable {av : Averages} (hav : av.Unordered)
include hav

theorem smooth_perm {values values' : List (Option Number)} (h : values.Perm values') :
    smooth av values = smooth av values' := by
  have hany : values.any Option.isNone = values'.any Option.isNone := h.any_eq
  rw [smooth, smooth, hany, hav (h.filterMap id)]

theorem smoothBins_perm {values values' : String → List (Option Number)}
    (h : ∀ n, (values n).Perm (values' n)) (names : List String) :
    smoothBins av values names = smoothBins av values' names := by
  have hsmooth : ∀ n, smooth av (values n) = smooth av (values' n) :=
    fun n => smooth_perm hav (h n)
  simp only [smoothBins, hsmooth]

theorem optionalBins_perm {names : List String}
    {blocks blocks' : List (Option (Valid (bins names)))} (h : blocks.Perm blocks') :
    optionalBins av blocks = optionalBins av blocks' := by
  have hany : blocks.any Option.isNone = blocks'.any Option.isNone := h.any_eq
  have hbins : smoothBins av (binValues blocks) names = smoothBins av (binValues blocks') names :=
    smoothBins_perm hav (fun _ => h.map _) names
  rw [optionalBins, optionalBins, hany, hbins]

theorem attentionOf_perm {os os' : List Observation} (h : os.Perm os') :
    attentionOf av os = attentionOf av os' := by
  have has := h.filterMap Observation.attention
  have hempty := has.isEmpty_eq
  have hfield : ∀ f, attentionField av (os.filterMap Observation.attention) f =
      attentionField av (os'.filterMap Observation.attention) f := by
    intro f
    have hpresent := (has.map fun a => bin a f).filterMap id
    rw [attentionField, attentionField, hpresent.isEmpty_eq, hav hpresent]
  simp only [attentionOf, hempty, hfield]

end Averages

/-! ### Demographics -/

section Demographics

variable {config : WindowConfig} {os os' : List Observation}

theorem perm_ne_nil (h : os'.Perm os) (hne : os ≠ []) : os' ≠ [] := by
  rintro rfl
  exact hne h.symm.eq_nil

theorem demographicsOf_withheld (h : ¬ Releases config os) : demographicsOf config os =
    if (os.filterMap Observation.demographics).isEmpty then none else some suppressedBlock := by
  cases hblock : demographicsOf config os with
  | none =>
    by_contra hne
    have hsome : (os.filterMap Observation.demographics).isEmpty = false := by
      cases hds : (os.filterMap Observation.demographics).isEmpty with
      | false => rfl
      | true => simp [hds] at hne
    have hos : os.isEmpty = false := by
      cases os with
      | nil => simp at hsome
      | cons o os => rfl
    simp only [demographicsOf, hos, hsome, Bool.false_eq_true, if_false] at hblock
    split_ifs at hblock
    split at hblock <;> cases hblock
  | some block =>
    have hds : (os.filterMap Observation.demographics).isEmpty = false := by
      cases hds : (os.filterMap Observation.demographics).isEmpty with
      | false => rfl
      | true => simp [demographicsOf, hds] at hblock
    rw [hds, if_neg Bool.false_ne_true]
    rcases demographicsOf_cases hblock with rfl | ⟨-, -, -, ages, -, rfl⟩
    · rfl
    · exact absurd (demographicsOf_ages hblock (releasedBlock_suppressed _ _ _)) h

theorem demographicsOf_releases (hne : os ≠ []) (h : Releases config os) : ∃ ages,
    smoothBins config.averages
        (binValues ((os.filterMap Observation.demographics).map ageGroup)) ageBins = some ages ∧
      demographicsOf config os =
        some (releasedBlock config.averages ages (os.filterMap Observation.demographics)) := by
  obtain ⟨ages, hblock⟩ := demographicsOf_released hne h.1 h.2
  have hflag := releasedBlock_suppressed config.averages ages
    (os.filterMap Observation.demographics)
  rcases demographicsOf_cases hblock with hsuppressed | ⟨-, -, -, ages', hages, hsame⟩
  · rw [hsuppressed] at hflag
    simp [suppressedBlock, Dict.find] at hflag
  · exact ⟨ages', hages, by rw [hblock, hsame]⟩

def lastDwell (os : List Observation) : Option ℤ :=
  (os.filterMap Observation.demographics).getLast?.bind dwellEstimateMs

theorem releasedBlock_dwell (av : Averages) (ages : List (String × Json))
    (ds : List (Valid Contracts.demographics)) :
    (releasedBlock av ages ds).get? "dwell_estimate_ms" =
      (ds.getLast?.bind dwellEstimateMs).map Json.int := by
  cases hg : optionalBins av (ds.map gender) <;> cases ha : optionalBins av (ds.map attire) <;>
    cases hd : ds.getLast?.bind dwellEstimateMs <;>
    simp [releasedBlock, entry, Dict.find, hg, ha, hd]

section Permuted

variable (hav : config.averages.Unordered)
include hav

theorem stateOf_perm (h : os.Perm os') : stateOf config os = stateOf config os' := by
  have hlen := h.length_eq
  have hempty := h.isEmpty_eq
  have hcount : smoothedCount os = smoothedCount os' := by
    rw [smoothedCount, smoothedCount, (h.map _).sum_eq, hlen]
  have hconfidence : smoothedConfidence config os = smoothedConfidence config os' :=
    congrArg (config.averages.roundTo 4) (hav (h.map _))
  have hdegraded : anyPipelineDegraded os = anyPipelineDegraded os' := h.any_eq
  simp only [stateOf, hempty, hcount, hconfidence, hdegraded, hlen]

theorem releases_perm (h : os.Perm os') : Releases config os ↔ Releases config os' := by
  have hmean : meanConfidence config os = meanConfidence config os' := hav (h.map _)
  rw [Releases, Releases, hmean]
  exact and_congr_left fun _ => forall_congr' fun o => imp_congr_left h.mem_iff

/-- Of two orders that release, the blocks are the same exactly where the last dwell estimates
are. -/
theorem demographicsOf_perm_iff (hne : os ≠ []) (h : os.Perm os')
    (hreleases : Releases config os) :
    demographicsOf config os = demographicsOf config os' ↔ lastDwell os = lastDwell os' := by
  have hne' := perm_ne_nil h.symm hne
  have hds := h.filterMap Observation.demographics
  obtain ⟨ages, hages, hblock⟩ := demographicsOf_releases hne hreleases
  obtain ⟨ages', hages', hblock'⟩ :=
    demographicsOf_releases hne' ((releases_perm hav h).mp hreleases)
  have hbins := smoothBins_perm hav (fun n => (hds.map ageGroup).map fun b => b.bind (bin · n))
    ageBins
  have hsame : ages = ages' := Option.some.inj (hages.symm.trans (hbins.trans hages'))
  subst hsame
  rw [hblock, hblock', Option.some.injEq]
  refine ⟨fun heq => ?_, fun hdwell => ?_⟩
  · have hget := congrArg (fun j : Json => j.get? "dwell_estimate_ms") heq
    simp only [releasedBlock_dwell] at hget
    have hinjective : Function.Injective Json.int := fun a b hab => by
      simpa [Json.int] using hab
    exact Option.map_injective hinjective hget
  · have hgender := optionalBins_perm hav (hds.map gender)
    have hattire := optionalBins_perm hav (hds.map Contracts.attire)
    unfold lastDwell at hdwell
    simp only [releasedBlock, hgender, hattire, hdwell]

theorem demographicsOf_perm (h : os.Perm os') (hreleases : ¬ Releases config os) :
    demographicsOf config os = demographicsOf config os' := by
  have hds := h.filterMap Observation.demographics
  rw [demographicsOf_withheld hreleases,
    demographicsOf_withheld (mt (releases_perm hav h).mpr hreleases), hds.isEmpty_eq]

end Permuted

end Demographics

/-! ### Every order -/

theorem lastDwell_append {os : List Observation} {o : Observation} (h : o.demographics.isSome) :
    lastDwell (os ++ [o]) = dwellOf o := by
  obtain ⟨d, hd⟩ := Option.isSome_iff_exists.mp h
  simp [lastDwell, dwellOf, hd]

theorem Releases.demographics {config : WindowConfig} {os : List Observation}
    (h : Releases config os) {o : Observation} (ho : o ∈ os) : o.demographics.isSome :=
  ((carriesAll_iff config.averages ageGroup_reads (by decide) os).mp h.1).1 o ho

/-- The observation that an order delivers last gives the dwell estimate. -/
theorem lastDwell_getLast {config : WindowConfig} {pre os : List Observation} (hne : os ≠ [])
    (h : Releases config (pre ++ os)) :
    lastDwell (pre ++ os) = dwellOf (os.getLast hne) := by
  have hlast := h.demographics (List.mem_append_right pre (os.getLast_mem hne))
  have hsplit : pre ++ os = (pre ++ os.dropLast) ++ [os.getLast hne] := by
    rw [List.append_assoc, List.dropLast_append_getLast]
  rw [hsplit, lastDwell_append hlast]

theorem exists_last {os : List Observation} {o : Observation} (h : o ∈ os) :
    ∃ rest, (rest ++ [o]).Perm os := by
  obtain ⟨before, after, rfl⟩ := List.append_of_mem h
  refine ⟨before ++ after, ?_⟩
  rw [List.append_assoc]
  exact List.perm_append_comm.append_left before

section Orders

variable {w : ObservationWindow} {t now : ℚ} {os os' : List Observation}

theorem deliver_perm (w : ObservationWindow) (t now : ℚ) (h : os'.Perm os) (hne : os ≠ []) :
    ((w.deliver t os).prune now).data.Perm ((w.deliver t os').prune now).data := by
  rw [deliver_data hne, deliver_data (perm_ne_nil h hne)]
  by_cases hin : now - (w.config.windowMs : ℚ) / 1000 ≤ t
  · rw [if_pos hin, if_pos hin]
    exact h.symm.append_left _
  · rw [if_neg hin, if_neg hin]

section Unordered

variable (hav : w.config.averages.Unordered)
include hav

theorem sameBlocks_iff (h : os'.Perm os) (hne : os ≠ []) :
    SameBlocks (w.deliver t os) (w.deliver t os') now ↔
      demographicsOf w.config ((w.deliver t os).prune now).data =
        demographicsOf w.config ((w.deliver t os').prune now).data := by
  have hperm := deliver_perm w t now h hne
  have hdemographics : ∀ os, ((w.deliver t os).computeDemographics now).2 =
      demographicsOf w.config ((w.deliver t os).prune now).data := by
    intro os
    rw [ObservationWindow.computeDemographics, deliver_config]
  rw [← hdemographics, ← hdemographics]
  refine ⟨SameBlocks.demographics, fun hsame => ⟨?_, hsame, ?_⟩⟩
  · rw [ObservationWindow.computeState, ObservationWindow.computeState, deliver_config,
      deliver_config]
    exact stateOf_perm hav hperm
  · rw [ObservationWindow.computeAttention, ObservationWindow.computeAttention, deliver_config,
      deliver_config]
    exact attentionOf_perm hav hperm

/-- Each of the observations gives the dwell estimate, where it is delivered last. -/
theorem OrderFree.oneDwell (h : OrderFree w t now os) :
    OneDwell w t now os := by
  intro hreleases hin
  have hlast : ∀ o ∈ os, dwellOf o = lastDwell ((w.deliver t os).prune now).data := by
    intro o ho
    have hne : os ≠ [] := List.ne_nil_of_mem ho
    obtain ⟨rest, hrest⟩ := exists_last ho
    have hdata : ((w.deliver t os).prune now).data = ((w.prune t).prune now).data ++ os := by
      rw [deliver_data hne, if_pos hin]
    have hdata' : ((w.deliver t (rest ++ [o])).prune now).data =
        ((w.prune t).prune now).data ++ rest ++ [o] := by
      rw [deliver_data (perm_ne_nil hrest hne), if_pos hin, List.append_assoc]
    have hmem : o ∈ ((w.deliver t os).prune now).data := by
      rw [hdata]
      exact List.mem_append_right _ ho
    have hperm := deliver_perm w t now hrest hne
    have hsame := (sameBlocks_iff hav hrest hne).mp (h _ hrest)
    have hdwell := (demographicsOf_perm_iff hav (List.ne_nil_of_mem hmem) hperm hreleases).mp
      hsame
    rw [hdwell, hdata', lastDwell_append (hreleases.demographics hmem)]
  intro o ho o' ho'
  exact (hlast o ho).trans (hlast o' ho').symm

theorem OneDwell.orderFree (h : OneDwell w t now os) (hne : os ≠ []) : OrderFree w t now os := by
  intro os' hos'
  have hne' := perm_ne_nil hos' hne
  have hperm := deliver_perm w t now hos' hne
  refine (sameBlocks_iff hav hos' hne).mpr ?_
  by_cases hreleases : Releases w.config ((w.deliver t os).prune now).data
  · by_cases hin : now - (w.config.windowMs : ℚ) / 1000 ≤ t
    · have hdwell := h hreleases hin _ (os.getLast_mem hne) _
        (hos'.mem_iff.mp (os'.getLast_mem hne'))
      have hreleases' := (releases_perm hav hperm).mp hreleases
      rw [deliver_data hne, if_pos hin] at hreleases hperm ⊢
      rw [deliver_data hne', if_pos hin] at hreleases' hperm ⊢
      refine (demographicsOf_perm_iff hav (List.append_ne_nil_of_right_ne_nil _ hne) hperm
        hreleases).mpr ?_
      rw [lastDwell_getLast hne hreleases, lastDwell_getLast hne' hreleases', hdwell]
    · rw [deliver_data hne, deliver_data hne', if_neg hin, if_neg hin]
  · exact demographicsOf_perm hav hperm hreleases

end Unordered

end Orders

/-- With exact averages the blocks are the same for every order of delivery exactly where the window
does not release demographics while observations with different dwell estimates are in it. -/
theorem orderFree_iff (w : ObservationWindow) (hav : w.config.averages.Unordered) (t now : ℚ)
    (os : List Observation) : OrderFree w t now os ↔ OneDwell w t now os := by
  rcases eq_or_ne os [] with rfl | hne
  · refine iff_of_true (fun os' hos' => ?_) (fun _ _ o ho => (List.not_mem_nil ho).elim)
    rw [hos'.eq_nil]
    exact ⟨rfl, rfl, rfl⟩
  · exact ⟨OrderFree.oneDwell hav, fun h => h.orderFree hav hne⟩

/-! ### Two dwell estimates -/

def dwellJson (frameSeq dwell : ℤ) : Json :=
  .obj [("schema_version", .str "1.0.0"), ("message_type", .str "cv_observation"),
    ("message_id", .str "obs-1"), ("produced_at", .str "2026-01-01T00:00:00Z"),
    ("tenant_id", .str "tenant-1"), ("site_id", .str "site-1"), ("camera_id", .str "cam-1"),
    ("pipeline_id", .str "pipe-1"), ("frame_seq", .int frameSeq), ("window_ms", .int 100),
    ("counts", .obj [("present", .int 2), ("confidence", .num (9 / 10))]),
    ("demographics", .obj [("age_group", .obj [("child", .num 0), ("young_adult", .num (1 / 2)),
      ("adult", .num (1 / 2)), ("senior", .num 0)]), ("dwell_estimate_ms", .int dwell),
      ("suppressed", .bool false)]),
    ("quality", .obj [("frames_processed", .int 3), ("frames_dropped", .int 0)]),
    ("privacy", .obj [("contains_images", .bool false), ("contains_frame_urls", .bool false),
      ("contains_face_embeddings", .bool false)])]

def firstFrame : Observation := Valid.of (dwellJson 1 1000) (by decide +kernel)

def secondFrame : Observation := Valid.of (dwellJson 2 2000) (by decide +kernel)

def emptyWindow : ObservationWindow where
  config := promptConfig

def dwellEstimate (w : ObservationWindow) : Option ℤ :=
  ((w.computeDemographics 0).2.bind fun block => block.get? "dwell_estimate_ms").bind Json.asInt?

theorem twoFrames_orderFree_iff : OrderFree emptyWindow 0 0 [firstFrame, secondFrame] ↔
    OneDwell emptyWindow 0 0 [firstFrame, secondFrame] :=
  orderFree_iff emptyWindow Averages.exact_unordered 0 0 _

/-- Where the second frame overtakes the first, the dwell estimate is the first one's. -/
theorem overtaken_differs :
    ¬ ∀ (w : ObservationWindow) (t now : ℚ) (os : List Observation),
      w.config.averages = .exact → OrderFree w t now os := by
  intro h
  have hfree := h emptyWindow 0 0 [firstFrame, secondFrame] rfl
    [secondFrame, firstFrame] (List.Perm.swap _ _ _)
  have hsame : dwellEstimate (emptyWindow.deliver 0 [firstFrame, secondFrame]) =
      dwellEstimate (emptyWindow.deliver 0 [secondFrame, firstFrame]) := by
    rw [dwellEstimate, dwellEstimate, hfree.demographics]
  have hordered : dwellEstimate (emptyWindow.deliver 0 [firstFrame, secondFrame]) = some 2000 := by
    decide +kernel
  have hovertaken : dwellEstimate (emptyWindow.deliver 0 [secondFrame, firstFrame]) =
      some 1000 := by
    decide +kernel
  rw [hordered, hovertaken] at hsame
  cases hsame

end AdaptiveAdvertisement.AudienceState
