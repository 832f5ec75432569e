import AdaptiveAdvertisement.Creative.ManifestStore

/-!
# Which manifests the player and the creative service serve

One manifest that is offered to both stores, whatever they hold before, and the checks that both
make of it at one instant.
-/

namespace AdaptiveAdvertisement.System
open Library Contracts Player

section Verdicts

variable {τ : Type} (rt : Runtime τ) (player : Player.ManifestStore)
  (creative : Creative.ManifestStore) (manifest : Json) (now : ℚ)

/-- The check of the manifest that the player holds after `put`. -/
def playerCheck : Except Raised (Option String) :=
  match (player.put manifest).1.get (manifestId manifest) with
  | none => .ok (some "unknown_manifest")
  | some held => ManifestStore.checkManifest rt held now

def creativeGet : Except Raised Creative.Served :=
  Creative.ManifestStore.get rt (creative.loadManifest manifest).1 (manifestId manifest) now

/-- Neither raises, and the player accepts exactly what the creative service serves. -/
structure ServeAlike : Prop where
  checks : ∃ verdict, playerCheck rt player manifest now = .ok verdict
  gets : ∃ served, creativeGet rt creative manifest now = .ok served
  alike : playerCheck rt player manifest now = .ok none ↔
    creativeGet rt creative manifest now = .ok (.manifest manifest)

/-- What the creative service holds under the id does not expire at a time without a zone, and the
manifest, if it is approved, does not expire at this very instant. -/
structure ExpiryComparable : Prop where
  zoned : ∀ held,
    (creative.loadManifest manifest).1.manifests.get (manifestId manifest) = some held →
      ManifestStore.parsedExpiry rt held ≠ some .naive
  otherInstant : ManifestStore.approved manifest = true →
    ManifestStore.parsedExpiry rt manifest ≠ some (.aware now)

end Verdicts

section Agreement

variable {τ : Type} {rt : Runtime τ} {player : Player.ManifestStore}
  {creative : Creative.ManifestStore} {manifest : Json} {now : ℚ}

theorem playerCheck_eq (player : Player.ManifestStore) (hvalid : creativeManifest manifest = true) :
    playerCheck rt player manifest now = ManifestStore.checkManifest rt manifest now := by
  simp [playerCheck, ManifestStore.get_put, hvalid]

theorem creativeGet_held (rt : Runtime τ) (now : ℚ) {held : Json}
    (h : (creative.loadManifest manifest).1.manifests.get (manifestId manifest) = some held) :
    creativeGet rt creative manifest now =
      (Creative.ManifestStore.expiredAt now (ManifestStore.parsedExpiry rt held)).map
        fun expired => if expired then .expired else .manifest held := by
  rw [creativeGet, Creative.ManifestStore.get_stored h,
    Creative.ManifestStore.isExpired_eq (Creative.ManifestStore.stored_valid h).1]

/-- What the expiry of an approved manifest says to the player. -/
def acceptedAt (now : ℚ) : Option ParsedTime → Except Raised Bool
  | none => .ok true
  | some (.invalid _) => .ok false
  | some .naive => .error .typeError
  | some (.aware expiry) => .ok (decide (now ≤ expiry))

theorem playerCheck_approved (player : Player.ManifestStore)
    (hvalid : creativeManifest manifest = true)
    (happroved : ManifestStore.approved manifest = true) :
    (playerCheck rt player manifest now).map Option.isNone =
      acceptedAt now (ManifestStore.parsedExpiry rt manifest) := by
  rw [playerCheck_eq player hvalid]
  rcases ManifestStore.checkManifest_approved rt now hvalid happroved with
    ⟨hcheck, hnone | ⟨expiry, haware, hle⟩⟩ |
      ⟨⟨reason, hcheck⟩, ⟨message, hinvalid⟩ | ⟨expiry, haware, hlt⟩⟩ |
        ⟨hcheck, hnaive⟩
  · simp [hcheck, hnone, acceptedAt, Except.map]
  · simp [hcheck, haware, acceptedAt, Except.map, hle]
  · simp [hcheck, hinvalid, acceptedAt, Except.map]
  · simp [hcheck, haware, acceptedAt, Except.map, hlt]
  · simp [hcheck, hnaive, acceptedAt, Except.map]

/-- The two readings of an expiry agree, and neither raises, but for a time without a zone and for
the very instant of it. -/
theorem readings_agree_iff (now : ℚ) (parsed : Option ParsedTime) :
    ((∃ accepted, acceptedAt now parsed = .ok accepted) ∧
      (∃ expired, Creative.ManifestStore.expiredAt now parsed = .ok expired) ∧
      (acceptedAt now parsed = .ok true ↔
        Creative.ManifestStore.expiredAt now parsed = .ok false)) ↔
    parsed ≠ some .naive ∧ parsed ≠ some (.aware now) := by
  cases parsed with
  | none => simp [acceptedAt, Creative.ManifestStore.expiredAt]
  | some time =>
    cases time with
    | invalid message => simp [acceptedAt, Creative.ManifestStore.expiredAt]
    | naive => simp [acceptedAt, Creative.ManifestStore.expiredAt]
    | aware expiry =>
      -- the player takes the manifest in its last instant, the creative service does not
      have hinstant : (now ≤ expiry ↔ now < expiry) ↔ expiry ≠ now := by
        refine ⟨?_, fun hne => ⟨fun hle => lt_of_le_of_ne hle hne.symm, le_of_lt⟩⟩
        rintro hiff rfl
        exact lt_irrefl _ (hiff.mp le_rfl)
      simpa [acceptedAt, Creative.ManifestStore.expiredAt] using hinstant

theorem serveAlike_approved (hvalid : creativeManifest manifest = true)
    (happroved : ManifestStore.approved manifest = true) :
    ServeAlike rt player creative manifest now ↔ ExpiryComparable rt creative manifest now := by
  have hheld : (creative.loadManifest manifest).1.manifests.get (manifestId manifest) =
      some manifest := by
    rw [Creative.ManifestStore.loaded_get hvalid]
    exact if_pos happroved
  have hcomparable : ExpiryComparable rt creative manifest now ↔
      ManifestStore.parsedExpiry rt manifest ≠ some .naive ∧
        ManifestStore.parsedExpiry rt manifest ≠ some (.aware now) := by
    refine ⟨fun h => ⟨h.zoned manifest hheld, h.otherInstant happroved⟩,
      fun h => ⟨?_, fun _ => h.2⟩⟩
    intro held hother
    obtain rfl := Option.some.inj (hheld.symm.trans hother)
    exact h.1
  have hget := creativeGet_held rt now hheld
  rw [hcomparable, ← readings_agree_iff, ← playerCheck_approved player hvalid happroved]
  have haccepts : (playerCheck rt player manifest now).map Option.isNone = .ok true ↔
      playerCheck rt player manifest now = .ok none := by
    simp [map_ok_iff]
  have hgets : (∃ served, creativeGet rt creative manifest now = .ok served) ↔
      ∃ expired, Creative.ManifestStore.expiredAt now (ManifestStore.parsedExpiry rt manifest) =
        .ok expired := by
    rw [hget, map_isOk_iff]
  have hserves : creativeGet rt creative manifest now = .ok (.manifest manifest) ↔
      Creative.ManifestStore.expiredAt now (ManifestStore.parsedExpiry rt manifest) =
        .ok false := by
    rw [hget, map_ok_iff]
    simp
  rw [map_isOk_iff, haccepts, ← hgets, ← hserves]
  exact ⟨fun h => ⟨h.checks, h.gets, h.alike⟩, fun h => ⟨h.1, h.2.1, h.2.2⟩⟩

/-- The creative service keeps what it held when it refuses a manifest. -/
theorem serveAlike_unapproved (hvalid : creativeManifest manifest = true)
    (hunapproved : ManifestStore.approved manifest = false) :
    ServeAlike rt player creative manifest now ↔ ExpiryComparable rt creative manifest now := by
  have hcheck : playerCheck rt player manifest now = .ok (some "missing_approval_fields") := by
    rw [playerCheck_eq player hvalid, ManifestStore.checkManifest_unapproved hunapproved]
  have hcomparable : ExpiryComparable rt creative manifest now ↔ ∀ held,
      (creative.loadManifest manifest).1.manifests.get (manifestId manifest) = some held →
        ManifestStore.parsedExpiry rt held ≠ some .naive := by
    refine ⟨fun h => h.zoned, fun h => ⟨h, fun happroved => ?_⟩⟩
    rw [hunapproved] at happroved
    cases happroved
  rw [hcomparable]
  cases hheld : (creative.loadManifest manifest).1.manifests.get (manifestId manifest) with
  | none =>
    have hget : creativeGet rt creative manifest now = .ok .notFound := by
      simp [creativeGet, Creative.ManifestStore.get, hheld]
    refine iff_of_true ⟨⟨_, hcheck⟩, ⟨_, hget⟩, iff_of_false ?_ ?_⟩ (by simp)
    · simp [hcheck]
    · simp [hget]
  | some held =>
    have hget := creativeGet_held rt now hheld
    have hother : held ≠ manifest := by
      rintro rfl
      have happroved := (Creative.ManifestStore.stored_valid hheld).2.1
      rw [Creative.ManifestStore.isApproved_eq, hunapproved] at happroved
      cases happroved
    have hgets : (∃ served, creativeGet rt creative manifest now = .ok served) ↔
        ManifestStore.parsedExpiry rt held ≠ some .naive := by
      rw [← Creative.ManifestStore.expiredAt_raises_iff now, hget, map_isOk_iff]
    simp only [Option.some.injEq, forall_eq']
    rw [← hgets]
    refine ⟨fun h => h.gets,
      fun h => ⟨⟨_, hcheck⟩, h, iff_of_false (by simp [hcheck]) ?_⟩⟩
    rw [hget]
    intro hserved
    obtain ⟨expired, -, heq⟩ := map_ok hserved
    cases expired with
    | true => cases heq
    | false => exact hother (by simpa using heq.symm)

end Agreement

/-- For every valid manifest and every instant the two services serve it alike exactly where its
expiry can be compared and is not at that instant. -/
theorem serveAlike_iff {τ : Type} (rt : Runtime τ) (player : Player.ManifestStore)
    (creative : Creative.ManifestStore) (manifest : Json) (now : ℚ)
    (hvalid : creativeManifest manifest = true) :
    ServeAlike rt player creative manifest now ↔ ExpiryComparable rt creative manifest now := by
  cases happroved : ManifestStore.approved manifest with
  | true => exact serveAlike_approved hvalid happroved
  | false => exact serveAlike_unapproved hvalid happroved

/-! ### The last instant of a manifest -/

def saleManifest (expiresAt : String) : Json :=
  .obj [("schema_version", .str "1.0.0"), ("manifest_id", .str "sale"),
    ("approved_at", .str "2025-12-01T00:00:00Z"), ("approved_by", .str "ops"),
    ("expires_at", .str expiresAt),
    ("items", .arr [.obj [("item_id", .str "i-1"), ("asset_id", .str "a-1"),
      ("asset_type", .str "image"), ("duration_ms", .int 5000)]])]

/-- A runtime that reads the first instant of 2026, with a time zone or without one. -/
def newYearDates : Runtime Json where
  toCodec := jsonCodec
  fromisoformat := fun s =>
    if s = "2026-01-01T00:00:00+00:00" then .aware 1767225600
    else if s = "2026-01-01T00:00:00" then .naive
    else .invalid "Invalid isoformat string"

theorem sale_served : ServeAlike newYearDates ManifestStore.empty Creative.ManifestStore.empty
      (saleManifest "2026-01-01T00:00:00Z") 1767225599 ↔
    ExpiryComparable newYearDates Creative.ManifestStore.empty
      (saleManifest "2026-01-01T00:00:00Z") 1767225599 :=
  serveAlike_iff newYearDates ManifestStore.empty Creative.ManifestStore.empty _ _
    (by decide +kernel)

/-- The player accepts the manifest in the instant in which it expires, and its check raises
without a time zone. -/
theorem sale_disputed : ¬ ServeAlike newYearDates ManifestStore.empty Creative.ManifestStore.empty
      (saleManifest "2026-01-01T00:00:00Z") 1767225600 ∧
    ¬ ServeAlike newYearDates ManifestStore.empty Creative.ManifestStore.empty
      (saleManifest "2026-01-01T00:00:00") 1767225599 := by
  refine ⟨fun h => ?_, fun h => ?_⟩
  · have hserved := h.alike.mp (by decide +kernel)
    have hexpired : creativeGet newYearDates Creative.ManifestStore.empty
        (saleManifest "2026-01-01T00:00:00Z") 1767225600 = .ok .expired := by rfl
    rw [hexpired] at hserved
    cases hserved
  · obtain ⟨verdict, hverdict⟩ := h.checks
    have hraised : playerCheck newYearDates ManifestStore.empty
        (saleManifest "2026-01-01T00:00:00") 1767225599 = .error .typeError := by decide +kernel
    rw [hraised] at hverdict
    cases hverdict

end AdaptiveAdvertisement.System
