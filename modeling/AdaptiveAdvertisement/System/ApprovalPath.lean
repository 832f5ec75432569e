import AdaptiveAdvertisement.Dashboard.ManifestRouter
import AdaptiveAdvertisement.Player.ManifestStore

/-!
# From the dashboard's approval to the player's store

The dashboard enforces the lifecycle on its rows and writes the content of the enabled ones
to the shared directory; the player trusts the content alone. The two agree exactly when the
free-form content repeats what the row records.
-/

namespace AdaptiveAdvertisement.System
open Library Contracts Player Dashboard

variable {τ : Type}

def ApprovalMatches (rt : Runtime τ) (m : Manifest) (content : Json) : Prop :=
  ∃ approver instant approvedAt, m.approvedBy = some approver ∧ m.approvedAt = some instant ∧
    content.get? "approved_by" = some (.str approver) ∧
    content.get? "approved_at" = some (.str approvedAt) ∧
    rt.fromisoformat (withUtcOffset approvedAt) = .aware instant

/-- The store holds ids of enabled manifests only, and each enabled manifest with valid
content under its own id, with the approval of its row. -/
structure ApprovalRespected (rt : Runtime τ) (d : DashboardState) (store : ManifestStore) :
    Prop where
  only_enabled : ∀ id content, store.get id = some content →
    ∃ m, d.rows.get id = some m ∧ m.status = .enabled
  enabled_stored : ∀ id m, d.rows.get id = some m → m.status = .enabled →
    creativeManifest m.manifestJson = true →
    store.get id = some m.manifestJson ∧ ApprovalMatches rt m m.manifestJson

/-- The content of each enabled row, where it is valid, names the row's id and approval. -/
def ContentRepeatsRow (rt : Runtime τ) (d : DashboardState) : Prop :=
  ∀ id m, d.rows.get id = some m → m.status = .enabled →
    creativeManifest m.manifestJson = true →
    manifestId m.manifestJson = id ∧ ApprovalMatches rt m m.manifestJson

/-! ### The files that the player loads -/

theorem mirrors_file {codec : Codec τ} {d : DashboardState} (h : Mirrors codec d)
    {f : String × FileRead} (hf : f ∈ ManifestStore.jsonFiles d.outputDir) :
    ∃ id m, d.rows.get id = some m ∧ m.status = .enabled ∧
      f.2 = .content (.value m.manifestJson) := by
  have hget := ((ManifestStore.mem_jsonFiles _ _).mp hf).1
  have hrow : ∃ id, d.rows.get id ≠ none ∧ f.1 = manifestFile id := by
    by_contra hno
    push Not at hno
    rw [h.absent f.1 hno] at hget
    cases hget
  obtain ⟨id, hid, hname⟩ := hrow
  obtain ⟨m, hm⟩ := Option.ne_none_iff_exists'.mp hid
  refine ⟨id, m, hm, ?_⟩
  rw [hname, h.present id m hm, fileOf] at hget
  by_cases hs : m.status = .enabled
  · rw [if_pos hs, codec.loads_dumps, Option.some.injEq] at hget
    exact ⟨hs, hget.symm⟩
  · rw [if_neg hs] at hget
    cases hget

theorem mirrors_loaded {codec : Codec τ} {d : DashboardState} (h : Mirrors codec d) {id : String}
    {m : Manifest} (hm : d.rows.get id = some m) (hs : m.status = .enabled) :
    (manifestFile id, .content (.value m.manifestJson)) ∈ ManifestStore.jsonFiles
      d.outputDir := by
  rw [ManifestStore.mem_jsonFiles]
  refine ⟨?_, ?_⟩
  · rw [h.present id m hm, fileOf, if_pos hs, codec.loads_dumps]
  · simp only [manifestFile, String.toList_append]
    exact List.suffix_append _ _

/-- For any dashboard whose directory mirrors its enabled rows: the player's store after a
reload respects the approvals exactly when the content of the enabled rows repeats them. -/
theorem reload_respects_iff (rt : Runtime τ) {d : DashboardState}
    (h : Mirrors rt.toCodec d) (before : ManifestStore) :
    ApprovalRespected rt d (before.reload (some d.outputDir)).1 ↔ ContentRepeatsRow rt d := by
  refine ⟨fun hresp id m hm hs hvalid => ?_, fun hrepeat => ⟨?_, ?_⟩⟩
  · obtain ⟨hstored, happroval⟩ := hresp.enabled_stored id m hm hs hvalid
    have hown : manifestId m.manifestJson = id := (ManifestStore.get_valid hstored).2
    exact ⟨hown, happroval⟩
  · intro id content hget
    rcases ManifestStore.loadFiles_source hget with hempty | ⟨f, hf, hfile, hvalid, hid⟩
    · simp [ManifestStore.empty, ManifestStore.get] at hempty
    · obtain ⟨j, m, hm, hs, hcontent⟩ := mirrors_file h hf
      rw [hfile, FileRead.content.injEq, Loaded.value.injEq] at hcontent
      subst hcontent
      have hown := (hrepeat j m hm hs hvalid).1
      rw [← hid, hown]
      exact ⟨m, hm, hs⟩
  · intro id m hm hs hvalid
    obtain ⟨hown, happroval⟩ := hrepeat id m hm hs hvalid
    refine ⟨?_, happroval⟩
    have hloaded := mirrors_loaded h hm hs
    refine ManifestStore.loadFiles_unique ?_ hvalid hown ?_ (Or.inr ⟨_, hloaded, rfl⟩)
    · intro f hf
      obtain ⟨_, m', _, _, hfile⟩ := mirrors_file h hf
      exact ⟨_, hfile⟩
    · -- a file that claims the id `id` comes from a row that is called so, which is `m`
      intro f hf j hj hvalid' hid'
      obtain ⟨id', m', hm', hs', hfile⟩ := mirrors_file h hf
      rw [hj, FileRead.content.injEq, Loaded.value.injEq] at hfile
      subst hfile
      have hown' := (hrepeat id' m' hm' hs' hvalid').1
      rw [hown'] at hid'
      subst hid'
      rw [hm, Option.some.injEq] at hm'
      rw [hm']

theorem approval_respected_iff (rt : Runtime τ) (reqs : List ManifestRequest)
    (before : ManifestStore) :
    let d := (router rt.toCodec).run (router rt.toCodec).init reqs
    ApprovalRespected rt d (before.reload (some d.outputDir)).1 ↔ ContentRepeatsRow rt d :=
  reload_respects_iff rt (router_mirrors reqs) before

/-! ### A manifest under another name -/

def sampleManifest (id approver approvedAt : String) : Json :=
  .obj [("schema_version", .str "1.0.0"), ("manifest_id", .str id),
    ("approved_at", .str approvedAt), ("approved_by", .str approver),
    ("items", .arr [.obj [("item_id", .str "i-1"), ("asset_id", .str "a.png"),
      ("asset_type", .str "image"), ("duration_ms", .int 10000)]])]

/-- A row `a` whose content calls itself `b` is created, approved and enabled: the player
stores `b`, for which the dashboard has no row. -/
theorem approval_bypassed :
    ¬ ∀ (rt : Runtime Json) (reqs : List ManifestRequest) (before : ManifestStore),
      let d := (router rt.toCodec).run (router rt.toCodec).init reqs
      ApprovalRespected rt d (before.reload (some d.outputDir)).1 := by
  intro h
  have hrun := h
    { jsonCodec with fromisoformat := fun _ => .aware 0 }
    [.create { manifestId := "a", title := "A",
               manifestJson := sampleManifest "b" "mallory" "1970-01-01T00:00:00Z" },
      .approve ⟨"a", by decide, by decide⟩ {} 0, .enable ⟨"a", by decide, by decide⟩ 1]
    ManifestStore.empty
  obtain ⟨m, hm, -⟩ :=
    hrun.only_enabled "b" (sampleManifest "b" "mallory" "1970-01-01T00:00:00Z")
    (by rfl)
  cases hm

end AdaptiveAdvertisement.System
