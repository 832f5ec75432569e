import AdaptiveAdvertisement.Dashboard.ManifestRouter

/-!
# The lifecycle requests as one handler

What approve, reject, enable, disable and archive (`routers/manifests.py:218-341`, `491-523`)
differ in: where they lead, what they answer when they may not, what they do to the file of the
manifest, which columns they set and which event they add.
-/

namespace AdaptiveAdvertisement.Dashboard
open Library

inductive LifecycleRequest where
  | approve (body : ApproveRequest) (now : ℚ)
  | reject (body : RejectRequest)
  | enable (now : ℚ)
  | disable
  | archive

namespace LifecycleRequest

def valid : LifecycleRequest → Bool
  | .approve body _ => body.valid
  | .reject body => body.valid
  | .enable _ => true
  | .disable => true
  | .archive => true

def target : LifecycleRequest → ManifestStatus
  | .approve _ _ => .approved
  | .reject _ => .rejected
  | .enable _ => .enabled
  | .disable => .disabled
  | .archive => .archived

def conflict (id : PathId) : LifecycleRequest → Manifest → HttpError
  | .archive, _ => ⟨409, some ("Manifest '" ++ id.value ++ "' is already archived.")⟩
  | r, m => transitionError id.value m.status r.target

def effect : LifecycleRequest → Manifest → DiskEffect
  | .approve _ _, _ => .keep
  | .reject _, _ => .keep
  | .enable _, _ => .write
  | .disable, _ => .remove
  | .archive, m => if m.status = .enabled then .remove else .keep

def update : LifecycleRequest → Manifest → Manifest
  | .approve body now, m =>
    { m with approvedBy := some body.approvedBy, approvedAt := some now, rejectionReason := none }
  | .reject body, m => { m with rejectionReason := some body.reason }
  | .enable now, m => { m with enabledAt := some now }
  | .disable, m => m
  | .archive, m => m

def event (id : PathId) : LifecycleRequest → Manifest → AuditEvent
  | .approve body _, m => lifecycleEvent "manifest.approved" id body.approvedBy [previousStatus m]
  | .reject body, m => lifecycleEvent "manifest.rejected" id body.rejectedBy
      [previousStatus m, ("reason", .str body.reason)]
  | .enable _, m => lifecycleEvent "manifest.enabled" id "operator" [previousStatus m]
  | .disable, _ => lifecycleEvent "manifest.disabled" id "operator" []
  | .archive, m => lifecycleEvent "manifest.archived" id "operator" [previousStatus m]

def request (id : PathId) : LifecycleRequest → ManifestRequest
  | .approve body now => .approve id body now
  | .reject body => .reject id body
  | .enable now => .enable id now
  | .disable => .disable id
  | .archive => .archive id

/-- The row that the handler leaves of the one it fetched. -/
def result (r : LifecycleRequest) (m : Manifest) : Manifest := moved r.target r.update m

@[simp] theorem result_status (r : LifecycleRequest) (m : Manifest) :
    (r.result m).status = r.target := rfl

theorem handle_request {τ : Type} (codec : Codec τ) (d : DashboardState) (id : PathId)
    (r : LifecycleRequest) : d.handle codec (r.request id) =
      if !r.valid then (d, .error unprocessable)
      else transition codec d id r.target (r.conflict id) r.effect r.update (r.event id) := by
  cases r <;> rfl

variable {r : LifecycleRequest} {m : Manifest}

theorem ne_target (h : canTransition m.status r.target = true) : m.status ≠ r.target := by
  cases hs : m.status <;> cases r <;> simp_all [canTransition, validTransitions, target]

/-! ### What a request does to the file follows where it leads -/

theorem keep_effect (hcheck : canTransition m.status r.target = true) (h : r.effect m = .keep) :
    m.status ≠ .enabled ∧ r.target ≠ .enabled := by
  cases r with
  | approve body now => exact canTransition_not_enabled (Or.inl rfl) hcheck
  | reject body => exact canTransition_not_enabled (Or.inr rfl) hcheck
  | enable now => cases h
  | disable => cases h
  | archive =>
    refine ⟨fun henabled => ?_, by simp [target]⟩
    rw [effect, if_pos henabled] at h
    cases h

theorem write_effect (h : r.effect m = .write) : r.target = .enabled := by
  cases r with
  | enable now => rfl
  | approve body now => cases h
  | reject body => cases h
  | disable => cases h
  | archive =>
    rw [effect] at h
    split_ifs at h

theorem remove_effect (hcheck : canTransition m.status r.target = true)
    (h : r.effect m = .remove) : m.status = .enabled ∧ r.target ≠ .enabled := by
  cases r with
  | enable now => cases h
  | approve body now => cases h
  | reject body => cases h
  | disable =>
    refine ⟨?_, by simp [target]⟩
    cases hs : m.status <;> simp [hs, canTransition, validTransitions, target] at hcheck ⊢
  | archive =>
    refine ⟨?_, by simp [target]⟩
    by_contra hother
    rw [effect, if_neg hother] at h
    cases h

end LifecycleRequest

/-! ### A manifest to run requests on -/

def promoBody : ManifestIn where
  manifestId := "promo-1"
  title := "Promo"
  manifestJson := .obj []

def promoId : PathId := ⟨"promo-1", by decide, by decide⟩

end AdaptiveAdvertisement.Dashboard
