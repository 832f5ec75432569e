import AdaptiveAdvertisement.Dashboard.RuleSync
import AdaptiveAdvertisement.System.GeneratedPolicy

/-!
# What a rule preview shows

`get_rule_preview` (`routers/manifests.py:380-398`) generates the rules of one row; a sync generates
those of all enabled rows, and the optimizer loads them. The rules of the row are the same.
-/

namespace AdaptiveAdvertisement.System
open Library Contracts Dashboard DecisionOptimizer

section Preview

variable {τ : Type}

def namedRules (id : String) (c : PolicyConfig) : List Rule :=
  c.rules.filter fun r => decide (r.manifestId.asStr? = some id)

theorem namedRules_loadedPolicy (id : String) (ms : List Manifest) (minDwellMs cooldownMs : ℤ) :
    namedRules id (loadedPolicy ms minDwellMs cooldownMs) =
      (ownedBy id (numberedRules ms)).map loadedRule ++ (fallbackFor id ms).map loadedRule := by
  have hnamed : ∀ g : GeneratedRule,
      decide ((loadedRule g).manifestId.asStr? = some id) = decide (g.manifestId = id) := by
    intro g
    simp [loadedRule]
  rw [← List.map_append, ← ownedBy_allRules]
  simp only [namedRules, loadedPolicy, ownedBy, List.filter_map, Function.comp_def, hnamed]

/-- The optimizer does not read the number of the manifest. -/
theorem loadedRule_numbered (m : Manifest) (idx : ℕ) :
    (numbered m idx).map loadedRule = (generateRulesForManifest m).map loadedRule := by
  rw [numbered, List.map_map]
  rfl

/-- After a sync the optimizer holds for a manifest what its preview shows, rule for rule and in
order, where it is enabled, and nothing where it is not; the safety fallback may come after. -/
theorem preview_applied (codec : Codec τ) (texts : Number.Texts) (reqs : List ManifestRequest)
    (tie : String → ℚ) (id : PathId) (preview : RulePreviewOut)
    (hpreview : getRulePreview ((router codec).run (router codec).init reqs) id = .ok preview) :
    let d := (router codec).run (router codec).init reqs
    let ms := enabledManifests tie d
    ∃ row policy, d.rows.get id.value = some row ∧
      generatedPolicy texts codec ms 10000 5000 = .ok policy ∧
      namedRules id.value policy =
        (if row.status = .enabled then preview.generatedRules.map loadedRule else []) ++
          (fallbackFor id.value ms).map loadedRule := by
  intro d ms
  have hmirrors : Mirrors codec d := router_mirrors reqs
  have hkeyed := hmirrors.keyed
  cases hrow : d.rows.get id.value with
  | none => simp [getRulePreview, d, hrow] at hpreview
  | some row =>
    have hrules : generateRulesForManifest row = preview.generatedRules := by
      rw [getRulePreview, hrow, Except.ok.injEq] at hpreview
      rw [← hpreview]
    have hid : row.manifestId = id.value := hkeyed _ _ hrow
    refine ⟨row, _, rfl, generatedPolicy_eq texts codec ms 10000 5000, ?_⟩
    rw [namedRules_loadedPolicy]
    congr 1
    by_cases hstatus : row.status = .enabled
    · have hmem : row ∈ ms := mem_enabledManifests.mpr ⟨⟨id.value, hrow⟩, hstatus⟩
      obtain ⟨idx, howned⟩ := ownedBy_numbered hmem (enabledManifests_nodup hkeyed) 0
      rw [if_pos hstatus, ← hid, ← hrules]
      exact (congrArg (List.map loadedRule) howned).trans (loadedRule_numbered row idx)
    · have hother : ∀ m ∈ ms, m.manifestId ≠ id.value := by
        intro m hm he
        obtain ⟨⟨key, hkey⟩, henabled⟩ := mem_enabledManifests.mp hm
        obtain rfl := hkeyed key m hkey
        rw [he, hrow, Option.some.injEq] at hkey
        exact hstatus (hkey ▸ henabled)
      rw [if_neg hstatus]
      exact congrArg (List.map loadedRule) (ownedBy_numbered_other hother 0)

/-- A manifest with an age tag and an attire tag. -/
def tailoredRequests : List ManifestRequest :=
  [.create { promoBody with audienceTags := ["solo_adult", "attire_formal"] },
    .approve promoId {} 0, .enable promoId 1]

theorem tailored_applied : ∃ preview : RulePreviewOut,
    let d := (router jsonCodec).run (router jsonCodec).init tailoredRequests
    let ms := enabledManifests (fun _ => 0) d
    ∃ row policy, d.rows.get promoId.value = some row ∧
      generatedPolicy ⟨fun _ => none, fun _ => none⟩ jsonCodec ms 10000 5000 = .ok policy ∧
      namedRules promoId.value policy =
        (if row.status = .enabled then preview.generatedRules.map loadedRule else []) ++
          (fallbackFor promoId.value ms).map loadedRule := by
  obtain ⟨preview, hpreview⟩ := exists_of_isOk (x := getRulePreview
    ((router jsonCodec).run (router jsonCodec).init tailoredRequests) promoId) (by decide +kernel)
  exact ⟨preview, preview_applied jsonCodec ⟨fun _ => none, fun _ => none⟩ tailoredRequests
    (fun _ => 0) promoId preview hpreview⟩

end Preview

end AdaptiveAdvertisement.System
