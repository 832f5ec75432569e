import AdaptiveAdvertisement.Dashboard.LifecycleRequests
import AdaptiveAdvertisement.Dashboard.RuleGenerator

/-!
# Reviewing and syncing rules (`dashboard_api/routers/manifests.py`)

What `sync_rules` selects and reports, and what `get_rule_preview` shows before.

Source lines: `get_rule_preview` 380-398; of `sync_rules` 401-488 the query 417-422, the counts
424-431 and the audit event 466-477.
-/

namespace AdaptiveAdvertisement.Dashboard
open Library

/-- `ORDER BY enabled_at DESC`, in which a missing instant comes first. The order of rows of one
instant is the database's, here `tie`. -/
def newerFirst (tie : String → ℚ) (a b : Manifest) : Bool :=
  match a.enabledAt, b.enabledAt with
  | none, none => decide (tie a.manifestId ≤ tie b.manifestId)
  | none, some _ => true
  | some _, none => false
  | some x, some y =>
    decide (y < x) || decide (x = y) && decide (tie a.manifestId ≤ tie b.manifestId)

def enabledManifests (tie : String → ℚ) (d : DashboardState) : List Manifest :=
  ((d.rows.entries.map Prod.snd).filter fun m => decide (m.status = .enabled)).mergeSort
    (newerFirst tie)

structure RulePreviewOut where
  manifestId : String
  audienceTags : List String
  generatedRules : List GeneratedRule

def getRulePreview (d : DashboardState) (id : PathId) : Except HttpError RulePreviewOut :=
  match d.rows.get id.value with
  | none => .error (manifestNotFound id.value)
  | some m => .ok ⟨id.value, m.audienceTags, generateRulesForManifest m⟩

/-- `SyncRulesOut`, without the texts. -/
structure SyncRulesOut where
  enabledManifests : ℕ
  generatedRules : ℕ
  hasFallback : Bool
  optimizerReloaded : Bool

def syncReport (enabled : List Manifest) (optimizerReloaded : Bool) : SyncRulesOut where
  enabledManifests := enabled.length
  generatedRules := (allRules enabled).length
  hasFallback := (allRules enabled).any GeneratedRule.isCatchAll
  optimizerReloaded := optimizerReloaded

def rulesSyncedEvent (r : SyncRulesOut) : AuditEvent where
  eventType := "manifest.rules_synced"
  entityType := "manifest"
  entityId := "*"
  payload := .obj [("enabled_manifest_count", .int r.enabledManifests),
    ("generated_rule_count", .int r.generatedRules), ("has_fallback", .bool r.hasFallback),
    ("optimizer_reloaded", .bool r.optimizerReloaded)]

/-! ### What is selected -/

section Selected

variable {tie : String → ℚ} {d : DashboardState}

theorem mem_enabledManifests {m : Manifest} : m ∈ enabledManifests tie d ↔
    (∃ id, d.rows.get id = some m) ∧ m.status = .enabled := by
  unfold enabledManifests
  rw [List.mem_mergeSort, List.mem_filter, decide_eq_true_iff]
  refine and_congr_left fun _ => ?_
  simp only [List.mem_map, Prod.exists, exists_eq_right, Dict.get_eq_some_iff]

theorem enabledManifests_nodup (hkeyed : ∀ id m, d.rows.get id = some m → m.manifestId = id) :
    ((enabledManifests tie d).map Manifest.manifestId).Nodup := by
  have hids : (d.rows.entries.map Prod.snd).map Manifest.manifestId =
      d.rows.entries.map Prod.fst := by
    rw [List.map_map]
    refine List.map_congr_left fun e he => ?_
    exact hkeyed e.1 e.2 ((Dict.get_eq_some_iff _ _ _).mpr he)
  have hperm : (enabledManifests tie d).Perm
      ((d.rows.entries.map Prod.snd).filter fun m => decide (m.status = .enabled)) :=
    List.mergeSort_perm _ _
  refine (hperm.map _).nodup_iff.mpr ?_
  refine List.Nodup.sublist (List.filter_sublist.map _) ?_
  rw [hids]
  exact d.rows.nodup

end Selected

/-! ### Enabled rows carry an approval -/

section Approval

variable {τ : Type} {codec : Codec τ} {d : DashboardState}

def pastApproval : List ManifestStatus := [.approved, .enabled, .disabled]

/-- Rows are kept under their own ids, and a row that is past its approval names it. -/
structure RowsApproved (d : DashboardState) : Prop where
  keyed : ∀ id m, d.rows.get id = some m → m.manifestId = id
  approved : ∀ id m, d.rows.get id = some m → m.status ∈ pastApproval →
    m.approvedBy.isSome ∧ m.approvedAt.isSome

theorem rowsApproved_init : RowsApproved {} := ⟨by simp, by simp⟩

theorem rowsApproved_of_rows {d' : DashboardState} (h : RowsApproved d) (hrows : d'.rows = d.rows) :
    RowsApproved d' := ⟨by rw [hrows]; exact h.keyed, by rw [hrows]; exact h.approved⟩

theorem rowsApproved_set {d' : DashboardState} (h : RowsApproved d) {id : String} {m : Manifest}
    (hid : m.manifestId = id)
    (hrows : d'.rows = d.rows.set id m)
    (hm : m.status ∈ pastApproval → m.approvedBy.isSome ∧ m.approvedAt.isSome) :
    RowsApproved d' := by
  refine ⟨by rw [hrows]; exact keyed_set h.keyed hid, fun other m' hm' hstatus => ?_⟩
  rw [hrows, Dict.get_set] at hm'
  split_ifs at hm' with hother
  · obtain rfl := Option.some.inj hm'
    exact hm hstatus
  · exact h.approved other m' hm' hstatus

theorem result_approved {r : LifecycleRequest} {m : Manifest}
    (hcheck : canTransition m.status r.target = true)
    (hm : m.status ∈ pastApproval → m.approvedBy.isSome ∧ m.approvedAt.isSome)
    (hstatus : (r.result m).status ∈ pastApproval) :
    (r.result m).approvedBy.isSome ∧ (r.result m).approvedAt.isSome := by
  cases r with
  | approve body now => exact ⟨rfl, rfl⟩
  | reject body => simp [pastApproval, LifecycleRequest.target] at hstatus
  | archive => simp [pastApproval, LifecycleRequest.target] at hstatus
  | enable now =>
    refine hm ?_
    cases hs : m.status <;>
      simp [hs, canTransition, validTransitions, LifecycleRequest.target,
        pastApproval] at hcheck ⊢
  | disable =>
    refine hm ?_
    cases hs : m.status <;>
      simp [hs, canTransition, validTransitions, LifecycleRequest.target,
        pastApproval] at hcheck ⊢

theorem lifecycle_rowsApproved (h : RowsApproved d) (id : PathId) (r : LifecycleRequest) :
    RowsApproved (d.handle codec (r.request id)).1 := by
  rw [LifecycleRequest.handle_request]
  cases r.valid with
  | false => exact h
  | true =>
    simp only [Bool.not_true, Bool.false_eq_true, if_false, transition]
    cases hm : d.rows.get id.value with
    | none => exact h
    | some m =>
      by_cases hcheck : canTransition m.status r.target = true
      · simp only [hcheck, if_true]
        have hid : (r.result m).manifestId = id.value := h.keyed id.value m hm
        exact rowsApproved_set h hid rfl (result_approved hcheck (h.approved _ _ hm))
      · simpa [hcheck] using h

theorem handle_rowsApproved (h : RowsApproved d) (req : ManifestRequest) :
    RowsApproved (d.handle codec req).1 := by
  cases req with
  | approve id body now => exact lifecycle_rowsApproved h id (.approve body now)
  | reject id body => exact lifecycle_rowsApproved h id (.reject body)
  | enable id now => exact lifecycle_rowsApproved h id (.enable now)
  | disable id => exact lifecycle_rowsApproved h id .disable
  | archive id => exact lifecycle_rowsApproved h id .archive
  | create body =>
    simp only [DashboardState.handle, createManifest]
    split_ifs
    · exact h
    · exact h
    · exact rowsApproved_set h (m := body.row) rfl rfl (by simp [pastApproval, ManifestIn.row])
  | updateTags id tags =>
    simp only [DashboardState.handle, updateManifestTags]
    split_ifs
    · exact h
    · cases hm : d.rows.get id.value with
      | none => exact h
      | some m =>
        dsimp only
        split_ifs
        · exact h
        · have hid : m.manifestId = id.value := h.keyed id.value m hm
          exact rowsApproved_set h (m := { m with audienceTags := tags }) hid rfl
            (h.approved id.value m hm)

end Approval

/-! ### The rules of one manifest in the file -/

section Owned

/-- The safety fallback where the file has one and `id` is the first manifest, or the stub. -/
def fallbackFor (id : String) (ms : List Manifest) : List GeneratedRule :=
  if (numberedRules ms).any GeneratedRule.isCatchAll = false ∧ (safetyFallback ms).manifestId = id
  then [safetyFallback ms] else []

def ownedBy (id : String) (rs : List GeneratedRule) : List GeneratedRule :=
  rs.filter fun r => decide (r.manifestId = id)

theorem ownedBy_append (id : String) (rs rs' : List GeneratedRule) :
    ownedBy id (rs ++ rs') = ownedBy id rs ++ ownedBy id rs' := List.filter_append _ _

theorem ownedBy_self {m : Manifest} {rs : List GeneratedRule} {id : String}
    (h : ∀ r ∈ rs, RuleOf m.manifestId r) (hid : m.manifestId = id) : ownedBy id rs = rs :=
  List.filter_eq_self.mpr fun r hr => decide_eq_true ((h r hr).owner.trans hid)

theorem ownedBy_other {m : Manifest} {rs : List GeneratedRule} {id : String}
    (h : ∀ r ∈ rs, RuleOf m.manifestId r) (hid : m.manifestId ≠ id) : ownedBy id rs = [] :=
  List.filter_eq_nil_iff.mpr fun r hr hown =>
    hid ((h r hr).owner.symm.trans (of_decide_eq_true hown))

/-- The rules of a manifest with their number in the list. -/
def numbered (m : Manifest) (idx : ℕ) : List GeneratedRule :=
  (generateRulesForManifest m).map fun r => { r with tiebreakIndex := some idx }

theorem numbered_ruleOf (m : Manifest) (idx : ℕ) :
    ∀ r ∈ numbered m idx, RuleOf m.manifestId r := by
  intro r hr
  obtain ⟨r', hr', rfl⟩ := List.mem_map.mp hr
  obtain ⟨howner, hweight, hle⟩ := ruleOf_generated hr'
  exact ⟨howner, hweight, hle⟩

theorem ownedBy_numbered_other {id : String} {ms : List Manifest}
    (h : ∀ m ∈ ms, m.manifestId ≠ id) (start : ℕ) :
    ownedBy id ((ms.zipIdx start).flatMap fun e => numbered e.1 e.2) = [] := by
  induction ms generalizing start with
  | nil => rfl
  | cons m ms ih =>
    obtain ⟨hm, hms⟩ := List.forall_mem_cons.mp h
    rw [List.zipIdx_cons, List.flatMap_cons, ownedBy_append, ih hms,
      ownedBy_other (numbered_ruleOf m start) hm]
    rfl

/-- Ids are distinct, so that a manifest finds its own rules, under one number, and no others. -/
theorem ownedBy_numbered {m : Manifest} {ms : List Manifest} (hm : m ∈ ms)
    (hnodup : (ms.map Manifest.manifestId).Nodup) (start : ℕ) :
    ∃ idx, ownedBy m.manifestId ((ms.zipIdx start).flatMap fun e => numbered e.1 e.2) =
      numbered m idx := by
  induction ms generalizing start with
  | nil => cases hm
  | cons first ms ih =>
    rw [List.map_cons, List.nodup_cons] at hnodup
    obtain ⟨hfirst, hrest⟩ := hnodup
    rw [List.zipIdx_cons, List.flatMap_cons, ownedBy_append]
    rcases List.mem_cons.mp hm with rfl | hin
    · refine ⟨start, ?_⟩
      have hothers : ∀ m' ∈ ms, m'.manifestId ≠ m.manifestId := fun m' hm' he =>
        hfirst (he ▸ List.mem_map_of_mem hm')
      rw [ownedBy_self (numbered_ruleOf m start) rfl, ownedBy_numbered_other hothers,
        List.append_nil]
    · obtain ⟨idx, hidx⟩ := ih hin hrest (start + 1)
      have hne : first.manifestId ≠ m.manifestId := fun he =>
        hfirst (he ▸ List.mem_map_of_mem hin)
      exact ⟨idx, by rw [ownedBy_other (numbered_ruleOf first start) hne, hidx,
        List.nil_append]⟩

theorem allRules_eq (ms : List Manifest) : allRules ms = numberedRules ms ++
    if (numberedRules ms).any GeneratedRule.isCatchAll then [] else [safetyFallback ms] := by
  unfold allRules
  dsimp only
  split_ifs
  · rw [List.append_nil]
  · rfl

theorem ownedBy_allRules (id : String) (ms : List Manifest) :
    ownedBy id (allRules ms) = ownedBy id (numberedRules ms) ++ fallbackFor id ms := by
  rw [allRules_eq, ownedBy_append]
  congr 1
  unfold fallbackFor
  cases (numberedRules ms).any GeneratedRule.isCatchAll with
  | true => simp [ownedBy]
  | false =>
    by_cases hid : (safetyFallback ms).manifestId = id
    · simp [ownedBy, hid]
    · simp [ownedBy, hid]

end Owned

end AdaptiveAdvertisement.Dashboard
