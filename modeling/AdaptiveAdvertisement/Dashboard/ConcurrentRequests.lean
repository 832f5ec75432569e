import AdaptiveAdvertisement.Dashboard.LifecycleRequests

/-!
# Lifecycle requests at the same time

Requests on one manifest, each in its own session. A handler gives way where it awaits the
database: at the `SELECT`, at the commit and at the refresh. Between them it checks, touches the
output directory and adds its event in one go (`write_event` only adds to the session,
`events.py:44-79`). A commit sends the columns that the handler changed; nothing locks the row
(`db.py:31-41`).
-/

namespace AdaptiveAdvertisement.Dashboard
open Library

inductive Phase where
  | called
  | fetched (m : Manifest)
  | committing (m : Manifest)
  | refreshing
  | answered (r : Response)

def Phase.fetched? : Phase → Option Manifest
  | .fetched m => some m
  | .committing m => some m
  | .called => none
  | .refreshing => none
  | .answered _ => none

def Phase.committing? : Phase → Option Manifest
  | .committing m => some m
  | .fetched _ => none
  | .called => none
  | .refreshing => none
  | .answered _ => none

def Phase.finished : Phase → Bool
  | .answered _ => true
  | .called => false
  | .fetched _ => false
  | .committing _ => false
  | .refreshing => false

structure ConcurrentRequests where
  dashboard : DashboardState
  requests : List (LifecycleRequest × Phase) := []

inductive RequestStep where
  | call (r : LifecycleRequest)
  | resume (n : ℕ)

/-- The value of a column after an `UPDATE` that sets what differs from the fetched row. -/
def column {α : Type} [DecidableEq α] (fetched new committed : α) : α :=
  if new = fetched then committed else new

def writeBack (fetched new committed : Manifest) : Manifest where
  manifestId := committed.manifestId
  title := committed.title
  status := column fetched.status new.status committed.status
  schemaVersion := committed.schemaVersion
  manifestJson := committed.manifestJson
  audienceTags := committed.audienceTags
  rejectionReason := column fetched.rejectionReason new.rejectionReason committed.rejectionReason
  approvedBy := column fetched.approvedBy new.approvedBy committed.approvedBy
  approvedAt := column fetched.approvedAt new.approvedAt committed.approvedAt
  enabledAt := column fetched.enabledAt new.enabledAt committed.enabledAt

section Handlers

variable {τ : Type} (codec : Codec τ) (id : PathId)

/-- The session holds what the handler changed of `m`, and the event. -/
def DashboardState.commitRequest (d : DashboardState) (r : LifecycleRequest) (m : Manifest) :
    DashboardState where
  rows := (d.rows.get id.value).elim d.rows fun committed =>
    d.rows.set id.value (writeBack m (r.result m) committed)
  events := d.events ++ [r.event id m]
  outputDir := d.outputDir

/-- From one await to the next. -/
def resumeHandler (d : DashboardState) (r : LifecycleRequest) : Phase → DashboardState × Phase
  | .called =>
    (d, (d.rows.get id.value).elim (.answered (.error (manifestNotFound id.value))) .fetched)
  | .fetched m =>
    if canTransition m.status r.target then
      ({ d with outputDir := applyDisk codec d.outputDir (r.result m) (r.effect m) },
        .committing m)
    else (d, .answered (.error (r.conflict id m)))
  | .committing m => (d.commitRequest id r m, .refreshing)
  | .refreshing =>
    (d, .answered ((d.rows.get id.value).elim (.error (manifestNotFound id.value)) .ok))
  | .answered a => (d, .answered a)

def callPhase (r : LifecycleRequest) : Phase :=
  if r.valid then .called else .answered (.error unprocessable)

def concurrent : Machine ConcurrentRequests RequestStep Unit where
  init := ⟨{}, []⟩
  step := fun s i =>
    match i with
    | .call r => ({ s with requests := s.requests ++ [(r, callPhase r)] }, ())
    | .resume n =>
      (s.requests[n]?.elim s fun p =>
        { dashboard := (resumeHandler codec id s.dashboard p.1 p.2).1
          requests := s.requests.set n (p.1, (resumeHandler codec id s.dashboard p.1 p.2).2) }, ())

/-! ### A request alone -/

theorem writeBack_same (r : LifecycleRequest) (m : Manifest) :
    writeBack m (r.result m) m = r.result m := by
  have hcolumn : ∀ {α : Type} [DecidableEq α] (x y : α), column x y x = y := by
    intro α _ x y
    unfold column
    split_ifs with h
    · exact h.symm
    · rfl
  unfold writeBack
  simp only [hcolumn]
  cases r <;> rfl

/-- A request that nothing interrupts does what the router does. -/
theorem alone_handle (d : DashboardState) (r : LifecycleRequest) :
    (concurrent codec id).run ⟨d, []⟩ [.call r, .resume 0, .resume 0, .resume 0, .resume 0] =
      ⟨(d.handle codec (r.request id)).1,
        [(r, .answered (d.handle codec (r.request id)).2)]⟩ := by
  rw [LifecycleRequest.handle_request]
  simp only [Machine.run_cons, Machine.run_nil, Machine.next, concurrent, List.nil_append,
    callPhase]
  cases hvalid : r.valid with
  | false => simp [resumeHandler]
  | true =>
    cases hm : d.rows.get id.value with
    | none => simp [resumeHandler, transition, hm]
    | some m =>
      by_cases hcheck : canTransition m.status r.target = true
      · have hback : writeBack m (moved r.target r.update m) m = moved r.target r.update m :=
          writeBack_same r m
        simp [resumeHandler, transition, hm, hcheck, DashboardState.commitRequest,
          LifecycleRequest.result, hback]
      · simp [resumeHandler, transition, hm, hcheck]

end Handlers

/-! ### The lifecycle and the file -/

section Lifecycle

variable {τ : Type} {codec : Codec τ} (id : PathId)

def ConcurrentRequests.status (s : ConcurrentRequests) : Option ManifestStatus :=
  (s.dashboard.rows.get id.value).map Manifest.status

def ConcurrentRequests.onDisk (s : ConcurrentRequests) : Bool :=
  (s.dashboard.outputDir.get (manifestFile id.value)).isSome

/-- What the lifecycle says of a step from `s` to `s'`. -/
structure LifecycleHolds (s s' : ConcurrentRequests) : Prop where
  edge : s'.status id ≠ s.status id →
    ∃ c t, s.status id = some c ∧ s'.status id = some t ∧ canTransition c t = true
  archived : s.status id = some .archived → s'.status id = some .archived
  file : (∀ p ∈ s'.requests, p.2.finished = true) →
    (s'.onDisk id = true ↔ s'.status id = some .enabled)

def LeftOnDisk (s : ConcurrentRequests) : DiskEffect → Prop
  | .keep => True
  | .write => s.onDisk id = true
  | .remove => s.onDisk id = false

instance (s : ConcurrentRequests) (e : DiskEffect) : Decidable (LeftOnDisk id s e) :=
  match e with
  | .keep => isTrue trivial
  | .write => inferInstanceAs (Decidable (_ = _))
  | .remove => inferInstanceAs (Decidable (_ = _))

/-- A request commits while the status is the one it fetched, or already the one it leads to,
and while the file is as it left it. -/
def StillCurrent (s : ConcurrentRequests) : RequestStep → Prop
  | .call _ => True
  | .resume n => ∀ p ∈ s.requests[n]?, ∀ m ∈ p.2.committing?,
    (s.status id = some m.status ∨ s.status id = some p.1.target) ∧
      LeftOnDisk id s (p.1.effect m)

instance (s : ConcurrentRequests) (i : RequestStep) : Decidable (StillCurrent id s i) :=
  match i with
  | .call _ => isTrue trivial
  | .resume n =>
    inferInstanceAs (Decidable (∀ p ∈ s.requests[n]?, ∀ m ∈ p.2.committing?, _))

def Agrees (s : ConcurrentRequests) : Prop := s.onDisk id = true ↔ s.status id = some .enabled

/-- The file agrees with the row unless a request has touched it and not committed yet. -/
structure RequestsInv (s : ConcurrentRequests) : Prop where
  found : ∀ p ∈ s.requests, ∀ m ∈ p.2.fetched?, (s.status id).isSome = true
  checked : ∀ p ∈ s.requests, ∀ m ∈ p.2.committing?,
    canTransition m.status p.1.target = true
  file : Agrees id s ∨
    ∃ p ∈ s.requests, ∃ m ∈ p.2.committing?, p.1.effect m ≠ .keep

/-! ### One step -/

variable {id} {s : ConcurrentRequests} {p : LifecycleRequest × Phase} {n : ℕ}

theorem next_resume (hn : s.requests[n]? = some p) : (concurrent codec id).next s (.resume n) =
    ⟨(resumeHandler codec id s.dashboard p.1 p.2).1,
      s.requests.set n (p.1, (resumeHandler codec id s.dashboard p.1 p.2).2)⟩ := by
  simp [Machine.next, concurrent, hn]

theorem commitRequest_status {r : LifecycleRequest} {m : Manifest}
    (hfound : (s.status id).isSome = true) (hcheck : canTransition m.status r.target = true)
    (requests : List (LifecycleRequest × Phase)) :
    ConcurrentRequests.status id ⟨s.dashboard.commitRequest id r m, requests⟩ =
      some r.target := by
  unfold ConcurrentRequests.status at hfound ⊢
  rw [Option.isSome_map, Option.isSome_iff_exists] at hfound
  obtain ⟨committed, hcommitted⟩ := hfound
  have hne := LifecycleRequest.ne_target hcheck
  simp [DashboardState.commitRequest, hcommitted, writeBack, column, hne.symm]

theorem next_resume_none (hn : s.requests[n]? = none) :
    (concurrent codec id).next s (.resume n) = s := by
  simp [Machine.next, concurrent, hn]

/-- A touched file whose request has not committed is left so by the others. -/
theorem touched_set (hn : s.requests[n]? = some p)
    (hkeep : ∀ m ∈ p.2.committing?, p.1.effect m = .keep) {q : LifecycleRequest × Phase}
    (h : ∃ p ∈ s.requests, ∃ m ∈ p.2.committing?, p.1.effect m ≠ .keep) :
    ∃ p ∈ s.requests.set n q, ∃ m ∈ p.2.committing?, p.1.effect m ≠ .keep := by
  obtain ⟨p', hp', m, hm, htouch⟩ := h
  obtain ⟨k, hk⟩ := List.mem_iff_getElem?.mp hp'
  have hkn : n ≠ k := by
    rintro rfl
    obtain rfl := Option.some.inj (hn.symm.trans hk)
    exact htouch (hkeep m hm)
  exact ⟨p', List.mem_of_getElem? ((List.getElem?_set_ne hkn).trans hk), m, hm, htouch⟩

theorem RequestsInv.set {d : DashboardState} {q : LifecycleRequest × Phase} (h : RequestsInv id s)
    (hstatus : (s.status id).isSome = true →
      (ConcurrentRequests.status id ⟨d, s.requests.set n q⟩).isSome = true)
    (hfound : ∀ m ∈ q.2.fetched?, (s.status id).isSome = true)
    (hchecked : ∀ m ∈ q.2.committing?, canTransition m.status q.1.target = true)
    (hfile : Agrees id ⟨d, s.requests.set n q⟩ ∨
      ∃ p ∈ s.requests.set n q, ∃ m ∈ p.2.committing?, p.1.effect m ≠ .keep) :
    RequestsInv id ⟨d, s.requests.set n q⟩ := by
  refine ⟨fun p hp m hm => hstatus ?_, fun p hp m hm => ?_, hfile⟩
  · rcases List.mem_or_eq_of_mem_set hp with hp | rfl
    · exact h.found p hp m hm
    · exact hfound m hm
  · rcases List.mem_or_eq_of_mem_set hp with hp | rfl
    · exact h.checked p hp m hm
    · exact hchecked m hm

theorem RequestsInv.call (h : RequestsInv id s) (r : LifecycleRequest) :
    RequestsInv id ((concurrent codec id).next s (.call r)) := by
  have hcalled : ∀ p ∈ [(r, callPhase r)], ∀ m, m ∉ p.2.fetched? ∧
      m ∉ p.2.committing? := by
    intro p hp m
    rw [List.mem_singleton.mp hp, callPhase]
    split_ifs <;> exact ⟨fun hm => (by cases hm), fun hm => (by cases hm)⟩
  refine ⟨fun p hp m hm => ?_, fun p hp m hm => ?_, h.file.imp_right fun htouched => ?_⟩
  · rcases List.mem_append.mp hp with hp | hp
    · exact h.found p hp m hm
    · exact absurd hm (hcalled p hp m).1
  · rcases List.mem_append.mp hp with hp | hp
    · exact h.checked p hp m hm
    · exact absurd hm (hcalled p hp m).2
  · obtain ⟨p, hp, htouched⟩ := htouched
    exact ⟨p, List.mem_append_left _ hp, htouched⟩

/-- A request goes on that has no commit before it or behind it. -/
theorem RequestsInv.goOn {q : LifecycleRequest × Phase} (h : RequestsInv id s)
    (hn : s.requests[n]? = some p) (hp : p.2.committing? = none) (hq : q.2.committing? = none)
    (hfound : ∀ m ∈ q.2.fetched?, (s.status id).isSome = true) :
    RequestsInv id ⟨s.dashboard, s.requests.set n q⟩ := by
  refine h.set (fun hs => hs) hfound (fun m hm => ?_)
    (h.file.imp_right (touched_set hn fun m hm => ?_))
  · rw [hq] at hm
    cases hm
  · rw [hp] at hm
    cases hm

theorem RequestsInv.select {r : LifecycleRequest} (h : RequestsInv id s)
    (hn : s.requests[n]? = some (r, .called)) :
    RequestsInv id ((concurrent codec id).next s (.resume n)) := by
  rw [next_resume hn, resumeHandler]
  cases hrow : s.dashboard.rows.get id.value with
  | none => exact h.goOn hn rfl rfl fun _ hm => by cases hm
  | some committed =>
    refine h.goOn hn rfl rfl fun _ _ => ?_
    simp [ConcurrentRequests.status, hrow]

theorem RequestsInv.fetch {m : Manifest} {r : LifecycleRequest} (h : RequestsInv id s)
    (hn : s.requests[n]? = some (r, .fetched m)) :
    RequestsInv id ((concurrent codec id).next s (.resume n)) := by
  have hfound : (s.status id).isSome = true := h.found _ (List.mem_of_getElem? hn) m rfl
  have hlength := (List.getElem?_eq_some_iff.mp hn).1
  rw [next_resume hn, resumeHandler]
  by_cases hcheck : canTransition m.status r.target = true
  · rw [if_pos hcheck]
    refine h.set (fun hs => hs) (fun _ _ => hfound) (fun m' hm' => ?_) ?_
    · obtain rfl := Option.some.inj hm'
      exact hcheck
    · cases he : r.effect m with
      | keep => exact h.file.imp_right (touched_set hn fun _ hm => by cases hm)
      | write => exact Or.inr ⟨_, List.mem_set hlength _, m, rfl, by simp [he]⟩
      | remove => exact Or.inr ⟨_, List.mem_set hlength _, m, rfl, by simp [he]⟩
  · rw [if_neg hcheck]
    exact h.goOn hn rfl rfl fun _ hm => by cases hm

theorem RequestsInv.commit {m : Manifest} {r : LifecycleRequest} (h : RequestsInv id s)
    (hn : s.requests[n]? = some (r, .committing m)) (hcurrent : StillCurrent id s (.resume n)) :
    RequestsInv id ((concurrent codec id).next s (.resume n)) := by
  have hmem := List.mem_of_getElem? hn
  have hcheck : canTransition m.status r.target = true := h.checked _ hmem m rfl
  obtain ⟨hstatus, hleft⟩ := hcurrent _ hn m rfl
  rw [next_resume hn, resumeHandler]
  have hnew := commitRequest_status (h.found _ hmem m rfl) hcheck
    (s.requests.set n (r, .refreshing))
  have hagrees : (s.onDisk id = true ↔ r.target = .enabled) →
      Agrees id ⟨s.dashboard.commitRequest id r m, s.requests.set n (r, .refreshing)⟩ := by
    intro hdisk
    rw [Agrees, hnew, Option.some.injEq]
    exact hdisk
  refine h.set (fun _ => ?_) (fun _ hm => by cases hm) (fun _ hm => by cases hm) ?_
  · rw [hnew]
    rfl
  · cases he : r.effect m with
    | keep =>
      obtain ⟨hold, htarget⟩ := LifecycleRequest.keep_effect hcheck he
      refine h.file.imp (fun hfile => hagrees (iff_of_false (fun hdisk => ?_) htarget))
        (touched_set hn fun m' hm' => ?_)
      · have henabled := hfile.mp hdisk
        rcases hstatus with hfetched | hreached
        · exact hold (Option.some.inj (hfetched.symm.trans henabled))
        · exact htarget (Option.some.inj (hreached.symm.trans henabled))
      · obtain rfl := Option.some.inj hm'
        exact he
    | write =>
      rw [he] at hleft
      exact Or.inl (hagrees (iff_of_true hleft (LifecycleRequest.write_effect he)))
    | remove =>
      rw [he] at hleft
      have habsent : ¬ s.onDisk id = true := by
        rw [show s.onDisk id = false from hleft]
        exact Bool.false_ne_true
      exact Or.inl (hagrees (iff_of_false habsent (LifecycleRequest.remove_effect hcheck he).2))

theorem requestsInv_next {i : RequestStep} (h : RequestsInv id s) (hcurrent : StillCurrent id s i) :
    RequestsInv id ((concurrent codec id).next s i) := by
  cases i with
  | call r => exact h.call r
  | resume n =>
    cases hn : s.requests[n]? with
    | none =>
      rw [next_resume_none hn]
      exact h
    | some p =>
      obtain ⟨r, phase⟩ := p
      cases phase with
      | called => exact h.select hn
      | fetched m => exact h.fetch hn
      | committing m => exact h.commit hn hcurrent
      | refreshing =>
        rw [next_resume hn, resumeHandler]
        exact h.goOn hn rfl rfl fun _ hm => by cases hm
      | answered a =>
        rw [next_resume hn, resumeHandler]
        exact h.goOn hn rfl rfl fun _ hm => by cases hm

/-- Only a commit changes the status, from the one that was fetched. -/
theorem status_next {i : RequestStep} (h : RequestsInv id s) (hcurrent : StillCurrent id s i) :
    ((concurrent codec id).next s i).status id = s.status id ∨
      ∃ c t, s.status id = some c ∧ ((concurrent codec id).next s i).status id = some t ∧
        canTransition c t = true := by
  cases i with
  | call r => exact Or.inl rfl
  | resume n =>
    cases hn : s.requests[n]? with
    | none =>
      rw [next_resume_none hn]
      exact Or.inl rfl
    | some p =>
      obtain ⟨r, phase⟩ := p
      rw [next_resume hn]
      cases phase with
      | committing m =>
        have hmem := List.mem_of_getElem? hn
        have hcheck : canTransition m.status r.target = true := h.checked _ hmem m rfl
        have hnew := commitRequest_status (h.found _ hmem m rfl) hcheck
          (s.requests.set n (r, .refreshing))
        obtain ⟨hstatus, -⟩ := hcurrent _ hn m rfl
        rcases hstatus with hfetched | hreached
        · exact Or.inr ⟨m.status, r.target, hfetched, hnew, hcheck⟩
        · exact Or.inl (hnew.trans hreached.symm)
      | fetched m =>
        rw [resumeHandler]
        split_ifs <;> exact Or.inl rfl
      | called => exact Or.inl rfl
      | refreshing => exact Or.inl rfl
      | answered a => exact Or.inl rfl

theorem lifecycleHolds_next {i : RequestStep} (h : RequestsInv id s)
    (hcurrent : StillCurrent id s i) :
    LifecycleHolds id s ((concurrent codec id).next s i) := by
  refine ⟨fun hne => (status_next h hcurrent).resolve_left hne, fun harchived => ?_,
    fun hall => ?_⟩
  · have hstep : ((concurrent codec id).next s i).status id = s.status id ∨ _ :=
      status_next h hcurrent
    rcases hstep with hsame | ⟨c, t, hc, ht, hedge⟩
    · exact hsame.trans harchived
    · obtain rfl := Option.some.inj (harchived.symm.trans hc)
      simp [canTransition, validTransitions] at hedge
  · rcases (requestsInv_next h hcurrent).file with hagree | ⟨p, hp, m, hm, -⟩
    · exact hagree
    · have hfinished := hall p hp
      cases hphase : p.2 <;> simp [hphase, Phase.finished, Phase.committing?] at hfinished hm

/-! ### Whole runs -/

def afterRequests (codec : Codec τ) (reqs : List ManifestRequest) : ConcurrentRequests :=
  ⟨(router codec).run (router codec).init reqs, []⟩

theorem afterRequests_inv (reqs : List ManifestRequest) :
    RequestsInv id (afterRequests codec reqs) := by
  have hmirrors : Mirrors codec ((router codec).run (router codec).init reqs) := router_mirrors reqs
  refine ⟨fun _ hp => (by cases hp), fun _ hp => (by cases hp), Or.inl ?_⟩
  unfold Agrees ConcurrentRequests.onDisk ConcurrentRequests.status afterRequests
  cases hm : ((router codec).run (router codec).init reqs).rows.get id.value with
  | none =>
    have habsent : ((router codec).run (router codec).init reqs).outputDir.get
        (manifestFile id.value) = none := by
      refine hmirrors.absent _ fun other hother he => hother ?_
      rw [← manifestFile_injective he]
      exact hm
    simp [habsent]
  | some m =>
    rw [hmirrors.present _ _ hm]
    by_cases henabled : m.status = .enabled
    · simp [fileOf, henabled]
    · simp [fileOf, henabled]

/-- After any requests one by one, any number at the same time keep the lifecycle and end with
the file of an enabled manifest alone, if every commit comes while what its request fetched and
left is still so. -/
theorem lifecycle_holds (codec : Codec τ) (id : PathId) (reqs : List ManifestRequest)
    {steps : List RequestStep}
    (hcurrent : (concurrent codec id).EachStep (StillCurrent id) (afterRequests codec reqs) steps) :
    (concurrent codec id).EachStep
      (fun s i => LifecycleHolds id s ((concurrent codec id).next s i))
      (afterRequests codec reqs) steps :=
  Machine.eachStep_of_inv_under (I := RequestsInv id) (fun _ _ => requestsInv_next)
    (fun _ _ => lifecycleHolds_next) (afterRequests_inv reqs) hcurrent

end Lifecycle

/-! ### Archiving while enabling -/

def promoApproved : List ManifestRequest := [.create promoBody, .approve promoId {} 0]

def bothCalled : List RequestStep := [.call (.enable 1), .call .archive]

theorem archiveAfterEnable_holds :
    (concurrent jsonCodec promoId).EachStep
      (fun s i => LifecycleHolds promoId s ((concurrent jsonCodec promoId).next s i))
      (afterRequests jsonCodec promoApproved) (bothCalled ++ [.resume 0, .resume 0, .resume 0,
        .resume 1, .resume 0, .resume 1, .resume 1, .resume 1]) :=
  lifecycle_holds jsonCodec promoId promoApproved (by decide +kernel)

/-- Both fetch the approved row. When enable commits last an archived manifest is enabled again,
and when archive commits last the file of an archived manifest stays. -/
theorem archive_races_enable :
    (¬ (concurrent jsonCodec promoId).EachStep
      (fun s i => LifecycleHolds promoId s ((concurrent jsonCodec promoId).next s i))
      (afterRequests jsonCodec promoApproved) (bothCalled ++ [.resume 0, .resume 1,
        .resume 1, .resume 1, .resume 0, .resume 0])) ∧
    ¬ (concurrent jsonCodec promoId).EachStep
      (fun s i => LifecycleHolds promoId s ((concurrent jsonCodec promoId).next s i))
      (afterRequests jsonCodec promoApproved) (bothCalled ++ [.resume 0, .resume 1,
        .resume 0, .resume 0, .resume 1, .resume 1, .resume 0, .resume 1]) := by
  refine ⟨fun h => ?_, fun h => ?_⟩
  · obtain ⟨-, -, -, -, -, -, -, hlast, -⟩ := h
    have harchived := hlast.archived (by decide +kernel)
    revert harchived
    decide +kernel
  · obtain ⟨-, -, -, -, -, -, -, -, -, hlast, -⟩ := h
    have hfile := hlast.file (by decide +kernel)
    revert hfile
    decide +kernel

end AdaptiveAdvertisement.Dashboard
