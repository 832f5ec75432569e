import AdaptiveAdvertisement.System.CommandWire

/-!
# What is delivered is dispatched

On every socket the frames in flight carry increasing numbers above all that the player of the
socket has applied in the session, and ids that it has not seen. So wherever connections are
lost and gateways restarted, a frame that arrives passes the checks of the handler.
-/

namespace AdaptiveAdvertisement.System
open Library Contracts Player DecisionOptimizer

variable {π κ τ : Type}

/-- The text is a command of this header that meets the contract. -/
def Carries (rt : Runtime τ) (raw : τ) (hd : Header) : Prop :=
  ∃ msg, rt.loads raw = .value msg ∧ playerCommand msg = true ∧ header msg = .ok hd

def Link.socket {κ : Type} : Link κ → Option κ
  | .down => none
  | .dialing ws => some ws
  | .up ws => some ws

/-! ### Reading a longer log -/

section Log

variable {log : List (WireEvent π κ τ)} {p p' : π} {ws ws' : κ} {raw : τ}
  {receivers : Finset κ} {admitted : Option Header} {outcome : Except Raised Outcome}

theorem filterMap_snoc {α β : Type} (f : α → Option β) (as : List α) (a : α) :
    (as ++ [a]).filterMap f = as.filterMap f ++ (f a).toList := by
  rw [List.filterMap_append]
  cases h : f a <;> simp [h]

section Sockets

variable [DecidableEq κ]

@[simp] theorem sentOn_quiet : sentOn ws (log ++ [.quiet]) = sentOn ws log := by
  rw [sentOn, filterMap_snoc]
  exact List.append_nil _

@[simp] theorem sentOn_sent : sentOn ws (log ++ [.sent raw receivers]) =
    if ws ∈ receivers then sentOn ws log ++ [raw] else sentOn ws log := by
  rw [sentOn, filterMap_snoc]
  dsimp only
  split_ifs
  · rfl
  · exact List.append_nil _

@[simp] theorem sentOn_delivered :
    sentOn ws (log ++ [.delivered p ws' raw admitted outcome]) = sentOn ws log := by
  rw [sentOn, filterMap_snoc]
  exact List.append_nil _

@[simp] theorem deliveredOn_quiet : deliveredOn ws (log ++ [.quiet]) = deliveredOn ws log := by
  rw [deliveredOn, filterMap_snoc]
  exact List.append_nil _

@[simp] theorem deliveredOn_sent :
    deliveredOn ws (log ++ [.sent raw receivers]) = deliveredOn ws log := by
  rw [deliveredOn, filterMap_snoc]
  exact List.append_nil _

@[simp] theorem deliveredOn_delivered :
    deliveredOn ws (log ++ [.delivered p ws' raw admitted outcome]) =
      if ws' = ws then deliveredOn ws log ++ [raw] else deliveredOn ws log := by
  rw [deliveredOn, filterMap_snoc]
  dsimp only
  split_ifs
  · rfl
  · exact List.append_nil _

end Sockets

variable [DecidableEq π]

@[simp] theorem dispatchedBy_quiet : dispatchedBy p (log ++ [.quiet]) = dispatchedBy p log := by
  rw [dispatchedBy, filterMap_snoc]
  exact List.append_nil _

@[simp] theorem dispatchedBy_sent :
    dispatchedBy p (log ++ [.sent raw receivers]) = dispatchedBy p log := by
  rw [dispatchedBy, filterMap_snoc]
  exact List.append_nil _

@[simp] theorem dispatchedBy_delivered :
    dispatchedBy p (log ++ [.delivered p' ws raw admitted outcome]) =
      if p' = p then dispatchedBy p log ++ admitted.toList else dispatchedBy p log := by
  rw [dispatchedBy, filterMap_snoc]
  dsimp only
  split_ifs
  · rfl
  · exact List.append_nil _

end Log

/-! ### The invariant -/

variable [DecidableEq π] [DecidableEq κ]

/-- The frames `raws` in flight on a socket carry the commands `hds`. -/
structure Queue (rt : Runtime τ) (raws : List τ) (hds : List Header) : Prop where
  carried : List.Forall₂ (Carries rt) raws hds
  nonneg : ∀ hd ∈ hds, 0 ≤ hd.sequenceNumber
  numbers : (hds.map Header.sequenceNumber).Pairwise (· < ·)
  ids : (hds.map Header.commandId).Nodup

structure SocketInv (rt : Runtime τ) (s : CommandWire π κ τ) (log : List (WireEvent π κ τ))
    (ws : κ) (hds : List Header) : Prop where
  queue : Queue rt (s.inFlight ws) hds
  issued : ∀ hd ∈ hds, hd.commandId ∈ s.issued
  current : ws ∈ s.gateway.connections → ∀ hd ∈ hds,
    hd.sequenceNumber ≤ s.gateway.sequence
  undispatched : ∀ p, (s.clients p).link.socket = some ws →
    ∀ hd ∈ hds, hd.commandId ∉ (dispatchedBy p log).map Header.commandId
  ahead : ∀ p, (s.clients p).link = .up ws →
    ∀ hd ∈ hds, (s.clients p).handler.lastSequence < hd.sequenceNumber
  fifo : sentOn ws log = deliveredOn ws log ++ s.inFlight ws
  unused : ws ∉ s.used → hds = [] ∧ ws ∉ s.gateway.connections ∧
    ∀ p, (s.clients p).link.socket ≠ some ws

structure PlayerInv (s : CommandWire π κ τ) (log : List (WireEvent π κ τ)) (p : π) :
    Prop where
  seen : ∀ id ∈ (s.clients p).handler.seenCommandIds.keys,
    id ∈ (dispatchedBy p log).map Header.commandId
  issued : ∀ id ∈ (dispatchedBy p log).map Header.commandId, id ∈ s.issued
  once : ((dispatchedBy p log).map Header.commandId).Nodup
  behind : ∀ ws, (s.clients p).link = .up ws → ws ∈ s.gateway.connections →
    (s.clients p).handler.lastSequence ≤ s.gateway.sequence

structure WireInv (rt : Runtime τ) (log : List (WireEvent π κ τ)) (s : CommandWire π κ τ) :
    Prop where
  sockets : ∀ ws, ∃ hds, SocketInv rt s log ws hds
  players : ∀ p, PlayerInv s log p
  delivered : ∀ p ws raw admitted outcome, .delivered p ws raw admitted outcome ∈ log →
    (∃ hd, admitted = some hd ∧ Carries rt raw hd) ∧
      ((∃ e, outcome = .error e) ∨ ∃ result event, outcome = .ok (.dispatched result event))

/-! ### Steps that send and deliver nothing -/

/-- What such a step may do: use a new socket, drop a connection, begin or end a session. -/
structure Quiet (s s' : CommandWire π κ τ) : Prop where
  inFlight : s'.inFlight = s.inFlight
  issued : s'.issued = s.issued
  used : s.used ⊆ s'.used
  connections : ∀ ws ∈ s'.gateway.connections,
    ws ∈ s.gateway.connections ∧ s'.gateway.sequence = s.gateway.sequence ∨
      ws ∉ s.used ∧ ws ∈ s'.used
  sockets : ∀ p ws, (s'.clients p).link.socket = some ws →
    (s.clients p).link.socket = some ws ∨ ws ∉ s.used ∧ ws ∈ s'.used
  sessions : ∀ p ws, (s'.clients p).link = .up ws →
    (s'.clients p).handler.lastSequence = -1 ∨
      (s.clients p).link = .up ws ∧
        (s'.clients p).handler.lastSequence = (s.clients p).handler.lastSequence
  seen : ∀ p, (s'.clients p).handler.seenCommandIds = (s.clients p).handler.seenCommandIds

section Quiet

variable {rt : Runtime τ} {s s' : CommandWire π κ τ} {log : List (WireEvent π κ τ)} {ws : κ}
  {hds : List Header} {p : π}

theorem SocketInv.quiet (h : SocketInv rt s log ws hds) (hq : Quiet s s') :
    SocketInv rt s' (log ++ [.quiet]) ws hds where
  queue := by
    rw [hq.inFlight]
    exact h.queue
  issued := by
    rw [hq.issued]
    exact h.issued
  current := by
    intro hws
    rcases hq.connections ws hws with ⟨hold, hsequence⟩ | ⟨hnew, -⟩
    · rw [hsequence]
      exact h.current hold
    · simp [(h.unused hnew).1]
  undispatched := by
    intro p hp
    rw [dispatchedBy_quiet]
    rcases hq.sockets p ws hp with hold | ⟨hnew, -⟩
    · exact h.undispatched p hold
    · simp [(h.unused hnew).1]
  ahead := by
    intro p hp hd hmem
    rcases hq.sessions p ws hp with hreset | ⟨hold, hsame⟩
    · have hnonneg := h.queue.nonneg hd hmem
      omega
    · rw [hsame]
      exact h.ahead p hold hd hmem
  fifo := by
    rw [sentOn_quiet, deliveredOn_quiet, hq.inFlight]
    exact h.fifo
  unused := by
    intro hws
    obtain ⟨hempty, hconnections, hlinks⟩ := h.unused fun hmem => hws (hq.used hmem)
    refine ⟨hempty, fun hmem => ?_, fun p hp => ?_⟩
    · rcases hq.connections ws hmem with ⟨hold, -⟩ | ⟨-, hused⟩
      · exact hconnections hold
      · exact hws hused
    · rcases hq.sockets p ws hp with hold | ⟨-, hused⟩
      · exact hlinks p hold
      · exact hws hused

theorem PlayerInv.quiet (h : PlayerInv s log p) (hq : Quiet s s')
    (hsockets : ∀ ws, ∃ hds, SocketInv rt s log ws hds) : PlayerInv s' (log ++ [.quiet]) p where
  seen := by
    rw [hq.seen, dispatchedBy_quiet]
    exact h.seen
  issued := by
    rw [hq.issued, dispatchedBy_quiet]
    exact h.issued
  once := by
    rw [dispatchedBy_quiet]
    exact h.once
  behind := by
    intro ws hp hws
    rcases hq.sessions p ws hp with hreset | ⟨hold, hsame⟩
    · omega
    · rw [hsame]
      rcases hq.connections ws hws with ⟨hconnected, hsequence⟩ | ⟨hnew, -⟩
      · rw [hsequence]
        exact h.behind ws hold hconnected
      · obtain ⟨hds, hsocket⟩ := hsockets ws
        have hnone := (hsocket.unused hnew).2.2 p
        rw [hold] at hnone
        exact absurd rfl hnone

theorem WireInv.quiet (h : WireInv rt log s) (hq : Quiet s s') :
    WireInv rt (log ++ [.quiet]) s' where
  sockets := by
    intro ws
    obtain ⟨hds, hsocket⟩ := h.sockets ws
    exact ⟨hds, hsocket.quiet hq⟩
  players := fun p => (h.players p).quiet hq h.sockets
  delivered := by
    intro p ws raw admitted outcome hmem
    refine h.delivered p ws raw admitted outcome ?_
    simpa using hmem

omit [DecidableEq π] [DecidableEq κ] in
theorem quiet_refl (s : CommandWire π κ τ) : Quiet s s where
  inFlight := rfl
  issued := rfl
  used := Finset.Subset.refl _
  connections := fun _ hws => Or.inl ⟨hws, rfl⟩
  sockets := fun _ _ hp => Or.inl hp
  sessions := fun _ _ hp => Or.inr ⟨hp, rfl⟩
  seen := fun _ => rfl

omit [DecidableEq κ] in
/-- Only the client of `p` changes, and only by its link or by a reset of its session. -/
theorem quiet_update {c : Client κ} (hclients : s'.clients = Function.update s.clients p c)
    (hinFlight : s'.inFlight = s.inFlight) (hissued : s'.issued = s.issued)
    (hused : s.used ⊆ s'.used)
    (hconnections : ∀ ws ∈ s'.gateway.connections,
      ws ∈ s.gateway.connections ∧ s'.gateway.sequence = s.gateway.sequence ∨
        ws ∉ s.used ∧ ws ∈ s'.used)
    (hsocket : ∀ ws, c.link.socket = some ws →
      (s.clients p).link.socket = some ws ∨ ws ∉ s.used ∧ ws ∈ s'.used)
    (hsession : ∀ ws, c.link = .up ws → c.handler.lastSequence = -1 ∨
      (s.clients p).link = .up ws ∧
        c.handler.lastSequence = (s.clients p).handler.lastSequence)
    (hseen : c.handler.seenCommandIds = (s.clients p).handler.seenCommandIds) : Quiet s s' where
  inFlight := hinFlight
  issued := hissued
  used := hused
  connections := hconnections
  sockets := by
    intro q ws hq
    rw [hclients] at hq
    rcases eq_or_ne q p with rfl | hne
    · rw [Function.update_self] at hq
      exact hsocket ws hq
    · rw [Function.update_of_ne hne] at hq
      exact Or.inl hq
  sessions := by
    intro q ws hq
    rw [hclients] at hq ⊢
    rcases eq_or_ne q p with rfl | hne
    · rw [Function.update_self] at hq ⊢
      exact hsession ws hq
    · rw [Function.update_of_ne hne] at hq ⊢
      exact Or.inr ⟨hq, rfl⟩
  seen := by
    intro q
    rw [hclients]
    rcases eq_or_ne q p with rfl | hne
    · rw [Function.update_self]
      exact hseen
    · rw [Function.update_of_ne hne]

omit [DecidableEq κ] in
theorem quiet_setClient (s : CommandWire π κ τ) (p : π) (c : Client κ)
    (hsocket : ∀ ws, c.link.socket = some ws → (s.clients p).link.socket = some ws)
    (hsession : ∀ ws, c.link = .up ws → c.handler.lastSequence = -1 ∨
      (s.clients p).link = .up ws ∧
        c.handler.lastSequence = (s.clients p).handler.lastSequence)
    (hseen : c.handler.seenCommandIds = (s.clients p).handler.seenCommandIds) :
    Quiet s (s.setClient p c) :=
  quiet_update rfl rfl rfl (Finset.Subset.refl _) (fun _ hws => Or.inl ⟨hws, rfl⟩)
    (fun ws hws => Or.inl (hsocket ws hws)) hsession hseen

theorem quiet_accept (s : CommandWire π κ τ) (p : π) (ws : κ) : Quiet s (s.accept p ws) := by
  unfold CommandWire.accept
  cases hlink : (s.clients p).link with
  | dialing ws' => exact quiet_refl s
  | up ws' => exact quiet_refl s
  | down =>
    by_cases hused : ws ∈ s.used
    · simp only [hused, if_true]
      exact quiet_refl s
    · simp only [hused, if_false]
      refine quiet_update rfl rfl rfl (Finset.subset_insert ws s.used) ?_ ?_ ?_ rfl
      · intro ws' hmem
        rcases Finset.mem_insert.mp hmem with rfl | hold
        · exact Or.inr ⟨hused, Finset.mem_insert_self _ _⟩
        · exact Or.inl ⟨hold, rfl⟩
      · intro ws' hdialed
        obtain rfl := Option.some.inj hdialed
        exact Or.inr ⟨hused, Finset.mem_insert_self _ _⟩
      · intro ws' hup
        cases hup

omit [DecidableEq κ] in
theorem quiet_connected (s : CommandWire π κ τ) (p : π) : Quiet s (s.connected p) := by
  unfold CommandWire.connected
  cases hlink : (s.clients p).link with
  | down => exact quiet_refl s
  | up ws => exact quiet_refl s
  | dialing ws =>
    refine quiet_setClient s p _ (fun ws' hws' => ?_) (fun _ _ => Or.inl rfl) rfl
    rw [hlink]
    exact hws'

omit [DecidableEq κ] in
theorem quiet_hangUp (s : CommandWire π κ τ) (p : π) : Quiet s (s.setLink p .down) :=
  quiet_setClient s p _ (fun _ h => by cases h) (fun _ h => by cases h) rfl

omit [DecidableEq κ] in
theorem quiet_outside (s : CommandWire π κ τ) (p : π) (sm : StateMachine)
    (store : ManifestStore) : Quiet s (s.setClient p
      ⟨{ (s.clients p).handler with sm := sm, store := store }, (s.clients p).link⟩) :=
  quiet_setClient s p _ (fun _ h => h) (fun _ h => Or.inr ⟨h, rfl⟩) rfl

omit [DecidableEq π] [DecidableEq κ] in
theorem quiet_gateway (s : CommandWire π κ τ) (g : PlayerGateway κ)
    (hg : ∀ ws ∈ g.connections,
      ws ∈ s.gateway.connections ∧ g.sequence = s.gateway.sequence) :
    Quiet s { s with gateway := g } :=
  { quiet_refl s with connections := fun ws hws => Or.inl (hg ws hws) }

end Quiet

/-! ### Sending -/

section Send

variable {rt : Runtime τ} {s : CommandWire π κ τ} {log : List (WireEvent π κ τ)} {ws : κ}
  {hds : List Header} {p : π} {order : Order} {stamp : CommandStamp} {alive : κ → Bool}

def receivers (s : CommandWire π κ τ) (alive : κ → Bool) : Finset κ :=
  s.gateway.connections.filter fun ws => alive ws

def sentHeader (s : CommandWire π κ τ) (order : Order) (stamp : CommandStamp) : Header :=
  ⟨stamp.commandId, (s.gateway.sequence + 1 : ℕ), order.commandType⟩

/-- The state after a command went out to the receivers. -/
def afterSend (rt : Runtime τ) (s : CommandWire π κ τ) (order : Order) (stamp : CommandStamp)
    (alive : κ → Bool) : CommandWire π κ τ :=
  { s with
    gateway := ⟨receivers s alive, s.gateway.sequence + 1⟩
    inFlight := fun ws =>
      if ws ∈ receivers s alive then
        s.inFlight ws ++ [rt.dumps (order.built s.gateway stamp)]
      else s.inFlight ws
    issued := stamp.commandId :: s.issued }

omit [DecidableEq π] in
/-- A send changes nothing, or puts a command that meets the contract on every live socket. -/
theorem send_cases (rt : Runtime τ) (s : CommandWire π κ τ) (order : Order)
    (stamp : CommandStamp) (alive : κ → Bool) :
    s.send rt order stamp alive = (s, .quiet) ∨
      playerCommand (order.built s.gateway stamp) = true ∧
        s.send rt order stamp alive = (afterSend rt s order stamp alive,
          .sent (rt.dumps (order.built s.gateway stamp)) (receivers s alive)) := by
  unfold CommandWire.send
  rw [Order.send_eq]
  rcases PlayerGateway.broadcast_cases rt.toCodec s.gateway order.commandType order.payload stamp
    alive with hsame | ⟨hvalid, hsent⟩
  · rw [hsame]
    exact Or.inl rfl
  · rw [hsent]
    exact Or.inr ⟨hvalid, rfl⟩

omit [DecidableEq π] in
theorem send_refused (rt : Runtime τ) (s : CommandWire π κ τ) {order : Order}
    {stamp : CommandStamp}
    (alive : κ → Bool) (h : playerCommand (order.built s.gateway stamp) = false) :
    s.send rt order stamp alive = (s, .quiet) := by
  rcases send_cases rt s order stamp alive with hsame | ⟨hvalid, -⟩
  · exact hsame
  · rw [h] at hvalid
    cases hvalid

theorem Queue.snoc {raws : List τ} {raw : τ} {hd : Header} (h : Queue rt raws hds)
    (hcarries : Carries rt raw hd) (hnonneg : 0 ≤ hd.sequenceNumber)
    (habove : ∀ hd' ∈ hds, hd'.sequenceNumber < hd.sequenceNumber)
    (hnew : hd.commandId ∉ hds.map Header.commandId) :
    Queue rt (raws ++ [raw]) (hds ++ [hd]) where
  carried := List.rel_append h.carried (List.Forall₂.cons hcarries List.Forall₂.nil)
  nonneg := by
    intro hd' hmem
    rcases List.mem_append.mp hmem with hold | hlast
    · exact h.nonneg hd' hold
    · rw [List.mem_singleton.mp hlast]
      exact hnonneg
  numbers := by
    rw [List.map_append, List.pairwise_append]
    refine ⟨h.numbers, List.pairwise_singleton _ _, ?_⟩
    intro n hn m hm
    obtain ⟨hd', hmem, rfl⟩ := List.mem_map.mp hn
    rw [List.mem_singleton.mp hm]
    exact habove hd' hmem
  ids := by
    rw [List.map_append, List.map_singleton]
    exact List.Nodup.append h.ids (List.nodup_singleton _)
      (List.disjoint_singleton.mpr hnew)

theorem SocketInv.sent_on (h : SocketInv rt s log ws hds) (hplayers : ∀ p, PlayerInv s log p)
    (hvalid : playerCommand (order.built s.gateway stamp) = true)
    (hnew : stamp.commandId ∉ s.issued) (hws : ws ∈ receivers s alive) :
    SocketInv rt (afterSend rt s order stamp alive)
      (log ++ [.sent (rt.dumps (order.built s.gateway stamp)) (receivers s alive)]) ws
      (hds ++ [sentHeader s order stamp]) := by
  have hconnected : ws ∈ s.gateway.connections := (Finset.mem_filter.mp hws).1
  have hcurrent := h.current hconnected
  have hid : (sentHeader s order stamp).commandId ∉ hds.map Header.commandId := by
    intro hmem
    obtain ⟨hd, hhd, hsame⟩ := List.mem_map.mp hmem
    have hknown := h.issued hd hhd
    rw [hsame] at hknown
    exact hnew hknown
  have hsequence : (sentHeader s order stamp).sequenceNumber = s.gateway.sequence + 1 := by
    simp [sentHeader]
  have hflight : (afterSend rt s order stamp alive).inFlight ws =
      s.inFlight ws ++ [rt.dumps (order.built s.gateway stamp)] := if_pos hws
  refine ⟨?_, ?_, ?_, ?_, ?_, ?_, ?_⟩
  · rw [hflight]
    refine h.queue.snoc ⟨_, rt.loads_dumps _, hvalid, header_command⟩ (by omega) ?_ hid
    intro hd hmem
    have hle := hcurrent hd hmem
    omega
  · intro hd hmem
    rcases List.mem_append.mp hmem with hold | hlast
    · exact List.mem_cons_of_mem _ (h.issued hd hold)
    · rw [List.mem_singleton.mp hlast]
      exact List.mem_cons_self
  · intro _ hd hmem
    change hd.sequenceNumber ≤ ((s.gateway.sequence + 1 : ℕ) : ℤ)
    rcases List.mem_append.mp hmem with hold | hlast
    · have hle := hcurrent hd hold
      omega
    · rw [List.mem_singleton.mp hlast]
      omega
  · intro p hp hd hmem
    rw [dispatchedBy_sent]
    rcases List.mem_append.mp hmem with hold | hlast
    · exact h.undispatched p hp hd hold
    · rw [List.mem_singleton.mp hlast]
      exact fun hdispatched => hnew ((hplayers p).issued _ hdispatched)
  · intro p hp hd hmem
    rcases List.mem_append.mp hmem with hold | hlast
    · exact h.ahead p hp hd hold
    · have hbehind := (hplayers p).behind ws hp hconnected
      rw [List.mem_singleton.mp hlast, hsequence]
      change (s.clients p).handler.lastSequence < s.gateway.sequence + 1
      omega
  · rw [sentOn_sent, if_pos hws, deliveredOn_sent, hflight, h.fifo, List.append_assoc]
  · intro hunused
    exact absurd hconnected (h.unused hunused).2.1

theorem SocketInv.sent_off (h : SocketInv rt s log ws hds) (hws : ws ∉ receivers s alive) :
    SocketInv rt (afterSend rt s order stamp alive)
      (log ++ [.sent (rt.dumps (order.built s.gateway stamp)) (receivers s alive)]) ws hds := by
  have hflight : (afterSend rt s order stamp alive).inFlight ws = s.inFlight ws := if_neg hws
  refine ⟨?_, ?_, ?_, ?_, ?_, ?_, ?_⟩
  · rw [hflight]
    exact h.queue
  · exact fun hd hmem => List.mem_cons_of_mem _ (h.issued hd hmem)
  · exact fun hmem => absurd hmem hws
  · intro p hp
    rw [dispatchedBy_sent]
    exact h.undispatched p hp
  · exact h.ahead
  · rw [sentOn_sent, if_neg hws, deliveredOn_sent, hflight]
    exact h.fifo
  · intro hunused
    obtain ⟨hempty, -, hlinks⟩ := h.unused hunused
    exact ⟨hempty, hws, hlinks⟩

theorem PlayerInv.sent (h : PlayerInv s log p) {raw : τ} :
    PlayerInv (afterSend rt s order stamp alive)
      (log ++ [.sent raw (receivers s alive)]) p where
  seen := by
    rw [dispatchedBy_sent]
    exact h.seen
  issued := by
    rw [dispatchedBy_sent]
    exact fun id hid => List.mem_cons_of_mem _ (h.issued id hid)
  once := by
    rw [dispatchedBy_sent]
    exact h.once
  behind := by
    intro ws hp hws
    have hbehind := h.behind ws hp (Finset.mem_filter.mp hws).1
    change (s.clients p).handler.lastSequence ≤ ((s.gateway.sequence + 1 : ℕ) : ℤ)
    omega

theorem WireInv.send (h : WireInv rt log s) (hnew : stamp.commandId ∉ s.issued) :
    WireInv rt (log ++ [(s.send rt order stamp alive).2]) (s.send rt order stamp alive).1 := by
  rcases send_cases rt s order stamp alive with hsame | ⟨hvalid, hsent⟩
  · rw [hsame]
    exact h.quiet (quiet_refl s)
  · rw [hsent]
    refine ⟨fun ws => ?_, fun p => (h.players p).sent, ?_⟩
    · obtain ⟨hds, hsocket⟩ := h.sockets ws
      by_cases hws : ws ∈ receivers s alive
      · exact ⟨_, hsocket.sent_on h.players hvalid hnew hws⟩
      · exact ⟨_, hsocket.sent_off hws⟩
    · intro p ws raw admitted outcome hmem
      refine h.delivered p ws raw admitted outcome ?_
      simpa using hmem

end Send

/-! ### Delivering -/

section Deliver

variable {rt : Runtime τ} {s : CommandWire π κ τ} {log : List (WireEvent π κ τ)} {ws : κ}
  {hds hs : List Header} {hd : Header} {p q : π} {t : FrameClock} {raw : τ} {rest : List τ}
  {outcome : Except Raised Outcome}

theorem Queue.tail (h : Queue rt (raw :: rest) (hd :: hds)) : Queue rt rest hds where
  carried := (List.forall₂_cons.mp h.carried).2
  nonneg := fun hd' hmem => h.nonneg hd' (List.mem_cons_of_mem _ hmem)
  numbers := (List.pairwise_cons.mp h.numbers).2
  ids := (List.nodup_cons.mp h.ids).2

theorem Queue.cons_inv (h : Queue rt (raw :: rest) hds) :
    ∃ hd hs, hds = hd :: hs ∧ Carries rt raw hd ∧ Queue rt rest hs := by
  cases hds with
  | nil => cases h.carried
  | cons hd hs => exact ⟨hd, hs, rfl, (List.forall₂_cons.mp h.carried).1, h.tail⟩

/-- The first frame in flight on the socket of a session passes the checks of the handler. -/
theorem SocketInv.admits (h : SocketInv rt s log ws (hd :: hs))
    (hplayer : PlayerInv s log p) (hlink : (s.clients p).link = .up ws)
    (hcarries : Carries rt raw hd) : (s.clients p).handler.admits rt raw = some hd := by
  obtain ⟨msg, hload, hvalid, hhd⟩ := hcarries
  have hnew : hd.commandId ∉ (s.clients p).handler.seenCommandIds.keys := fun hseen =>
    h.undispatched p (by rw [hlink]; rfl) hd List.mem_cons_self (hplayer.seen _ hseen)
  exact CommandHandler.admits_of hload hvalid hhd hnew (h.ahead p hlink hd List.mem_cons_self)

/-- The handler after the frame, with the link that its outcome leaves. -/
def received (rt : Runtime τ) (s : CommandWire π κ τ) (p : π) (ws : κ) (raw : τ)
    (t : FrameClock) :
    Client κ :=
  ⟨((s.clients p).handler.handleRaw rt raw t).1,
    match ((s.clients p).handler.handleRaw rt raw t).2 with
    | .ok _ => .up ws
    | .error _ => .down⟩

def afterDelivery (rt : Runtime τ) (s : CommandWire π κ τ) (p : π) (ws : κ) (raw : τ)
    (rest : List τ) (t : FrameClock) : CommandWire π κ τ :=
  { s.setClient p (received rt s p ws raw t) with inFlight := Function.update s.inFlight ws rest }

theorem deliver_eq (hlink : (s.clients p).link = .up ws) (hflight : s.inFlight ws = raw :: rest) :
    s.deliver rt p t = (afterDelivery rt s p ws raw rest t,
      .delivered p ws raw ((s.clients p).handler.admits rt raw)
        ((s.clients p).handler.handleRaw rt raw t).2) := by
  simp only [CommandWire.deliver, hlink, hflight]
  rfl

omit [DecidableEq π] [DecidableEq κ] in
theorem received_link (rt : Runtime τ) (s : CommandWire π κ τ) (p : π) (ws : κ) (raw : τ)
    (t : FrameClock) :
    (received rt s p ws raw t).link = .up ws ∨ (received rt s p ws raw t).link = .down := by
  unfold received
  cases ((s.clients p).handler.handleRaw rt raw t).2 with
  | ok outcome => exact Or.inl rfl
  | error e => exact Or.inr rfl

theorem delivery_client (rt : Runtime τ) (s : CommandWire π κ τ) (p : π) (ws : κ) (raw : τ)
    (rest : List τ) (t : FrameClock) (q : π) :
    (afterDelivery rt s p ws raw rest t).clients q =
      if q = p then received rt s p ws raw t else s.clients q := by
  simp only [afterDelivery, CommandWire.setClient, Function.update_apply]

omit [DecidableEq π] [DecidableEq κ] in
theorem received_memory (hadmits : (s.clients p).handler.admits rt raw = some hd) :
    (received rt s p ws raw t).handler.lastSequence = hd.sequenceNumber ∧
      (received rt s p ws raw t).handler.seenCommandIds =
        (s.clients p).handler.seenCommandIds.remember Player.maxSeenIds hd.commandId := by
  have hmemory := CommandHandler.handleRaw_memory rt (s.clients p).handler raw t
  rw [hadmits] at hmemory
  exact hmemory

theorem SocketInv.delivered_off {ws' : κ} (h : SocketInv rt s log ws' hds) (hne : ws' ≠ ws) :
    SocketInv rt (afterDelivery rt s p ws raw rest t)
      (log ++ [.delivered p ws raw (some hd) outcome]) ws' hds := by
  have hsame : (afterDelivery rt s p ws raw rest t).inFlight ws' = s.inFlight ws' :=
    Function.update_of_ne hne ..
  -- the session of `p` is not on this socket, before or after
  have hother : ∀ q, ((afterDelivery rt s p ws raw rest t).clients q).link.socket = some ws' →
      q ≠ p := by
    intro q hq hqp
    rw [delivery_client, if_pos hqp] at hq
    rcases received_link rt s p ws raw t with hup | hdown
    · rw [hup] at hq
      exact hne (Option.some.inj hq).symm
    · rw [hdown] at hq
      cases hq
  refine ⟨?_, h.issued, h.current, ?_, ?_, ?_, ?_⟩
  · rw [hsame]
    exact h.queue
  · intro q hq
    have hqp := hother q hq
    rw [delivery_client, if_neg hqp] at hq
    rw [dispatchedBy_delivered, if_neg (Ne.symm hqp)]
    exact h.undispatched q hq
  · intro q hq
    have hqp := hother q (by rw [hq]; rfl)
    rw [delivery_client, if_neg hqp] at hq ⊢
    exact h.ahead q hq
  · rw [sentOn_delivered, deliveredOn_delivered, if_neg (Ne.symm hne), hsame]
    exact h.fifo
  · intro hunused
    obtain ⟨hempty, hconnections, hlinks⟩ := h.unused hunused
    refine ⟨hempty, hconnections, fun q hq => ?_⟩
    have hqp := hother q hq
    rw [delivery_client, if_neg hqp] at hq
    exact hlinks q hq

theorem PlayerInv.delivered_other (h : PlayerInv s log q) (hqp : q ≠ p) :
    PlayerInv (afterDelivery rt s p ws raw rest t)
      (log ++ [.delivered p ws raw (some hd) outcome]) q := by
  have hclient : (afterDelivery rt s p ws raw rest t).clients q = s.clients q := by
    rw [delivery_client, if_neg hqp]
  refine ⟨?_, ?_, ?_, ?_⟩
  · rw [hclient, dispatchedBy_delivered, if_neg (Ne.symm hqp)]
    exact h.seen
  · rw [dispatchedBy_delivered, if_neg (Ne.symm hqp)]
    exact h.issued
  · rw [dispatchedBy_delivered, if_neg (Ne.symm hqp)]
    exact h.once
  · rw [hclient]
    exact h.behind

section Session

variable (hlink : (s.clients p).link = .up ws)
  (hadmits : (s.clients p).handler.admits rt raw = some hd)

include hlink hadmits

theorem SocketInv.delivered_on (h : SocketInv rt s log ws (hd :: hs))
    (hflight : s.inFlight ws = raw :: rest) :
    SocketInv rt (afterDelivery rt s p ws raw rest t)
      (log ++ [.delivered p ws raw (some hd) outcome]) ws hs := by
  have hrest : (afterDelivery rt s p ws raw rest t).inFlight ws = rest := Function.update_self ..
  have hqueue := h.queue
  rw [hflight] at hqueue
  obtain ⟨hfirst, -⟩ := List.pairwise_cons.mp hqueue.numbers
  obtain ⟨hdistinct, -⟩ := List.nodup_cons.mp hqueue.ids
  refine ⟨?_, ?_, ?_, ?_, ?_, ?_, ?_⟩
  · rw [hrest]
    exact hqueue.tail
  · exact fun hd' hmem => h.issued hd' (List.mem_cons_of_mem _ hmem)
  · exact fun hws hd' hmem => h.current hws hd' (List.mem_cons_of_mem _ hmem)
  · intro q hq hd' hmem
    rw [delivery_client] at hq
    rw [dispatchedBy_delivered]
    by_cases hqp : q = p
    · subst hqp
      have hold := h.undispatched q (by rw [hlink]; rfl) hd' (List.mem_cons_of_mem _ hmem)
      have hne : hd'.commandId ≠ hd.commandId := fun he =>
        hdistinct (he ▸ List.mem_map_of_mem hmem)
      rw [if_pos rfl, List.map_append, List.mem_append]
      rintro (hdispatched | hlast)
      · exact hold hdispatched
      · exact hne (by simpa using hlast)
    · rw [if_neg hqp] at hq
      rw [if_neg (Ne.symm hqp)]
      exact h.undispatched q hq hd' (List.mem_cons_of_mem _ hmem)
  · intro q hq hd' hmem
    rw [delivery_client] at hq ⊢
    by_cases hqp : q = p
    · rw [if_pos hqp, (received_memory (t := t) hadmits).1]
      exact hfirst hd'.sequenceNumber (List.mem_map_of_mem hmem)
    · rw [if_neg hqp] at hq ⊢
      exact h.ahead q hq hd' (List.mem_cons_of_mem _ hmem)
  · rw [sentOn_delivered, deliveredOn_delivered, if_pos rfl, hrest, h.fifo, hflight,
      List.append_assoc, List.singleton_append]
  · intro hunused
    cases (h.unused hunused).1

theorem PlayerInv.delivered_self (h : PlayerInv s log p)
    (hsocket : SocketInv rt s log ws (hd :: hs)) :
    PlayerInv (afterDelivery rt s p ws raw rest t)
      (log ++ [.delivered p ws raw (some hd) outcome]) p := by
  obtain ⟨hlast, hids⟩ := received_memory (t := t) hadmits
  have hclient : (afterDelivery rt s p ws raw rest t).clients p = received rt s p ws raw t := by
    rw [delivery_client, if_pos rfl]
  have hlog : (dispatchedBy p (log ++ [.delivered p ws raw (some hd) outcome])).map
      Header.commandId = (dispatchedBy p log).map Header.commandId ++ [hd.commandId] := by
    rw [dispatchedBy_delivered, if_pos rfl, List.map_append]
    rfl
  refine ⟨?_, ?_, ?_, ?_⟩
  · intro id hid
    rw [hclient, hids] at hid
    rw [hlog, List.mem_append]
    rcases Dict.mem_keys_remember hid with rfl | hold
    · exact Or.inr List.mem_cons_self
    · exact Or.inl (h.seen id hold)
  · intro id hid
    rw [hlog, List.mem_append] at hid
    rcases hid with hold | hlast
    · exact h.issued id hold
    · rw [List.mem_singleton.mp hlast]
      exact hsocket.issued hd List.mem_cons_self
  · rw [hlog]
    exact List.Nodup.append h.once (List.nodup_singleton _) (List.disjoint_singleton.mpr
      (hsocket.undispatched p (by rw [hlink]; rfl) hd List.mem_cons_self))
  · intro ws' hq hws'
    rw [hclient] at hq ⊢
    rw [hlast]
    rcases received_link rt s p ws raw t with hup | hdown
    · rw [hup] at hq
      cases hq
      exact hsocket.current hws' hd List.mem_cons_self
    · rw [hdown] at hq
      cases hq

end Session

theorem WireInv.deliver (h : WireInv rt log s) (p : π) (t : FrameClock) :
    WireInv rt (log ++ [(s.deliver rt p t).2]) (s.deliver rt p t).1 := by
  cases hlink : (s.clients p).link with
  | down =>
    simp only [CommandWire.deliver, hlink]
    exact h.quiet (quiet_refl s)
  | dialing ws =>
    simp only [CommandWire.deliver, hlink]
    exact h.quiet (quiet_refl s)
  | up ws =>
    cases hflight : s.inFlight ws with
    | nil =>
      simp only [CommandWire.deliver, hlink, hflight]
      exact h.quiet (quiet_refl s)
    | cons raw rest =>
      obtain ⟨hds, hsocket⟩ := h.sockets ws
      have hqueue := hsocket.queue
      rw [hflight] at hqueue
      obtain ⟨hd, hs, rfl, hcarries, -⟩ := hqueue.cons_inv
      have hadmits := hsocket.admits (h.players p) hlink hcarries
      rw [deliver_eq hlink hflight, hadmits]
      refine ⟨fun ws' => ?_, fun q => ?_, ?_⟩
      · rcases eq_or_ne ws' ws with rfl | hne
        · exact ⟨hs, hsocket.delivered_on hlink hadmits hflight⟩
        · obtain ⟨hds', hsocket'⟩ := h.sockets ws'
          exact ⟨hds', hsocket'.delivered_off hne⟩
      · rcases eq_or_ne q p with rfl | hqp
        · exact (h.players q).delivered_self hlink hadmits hsocket
        · exact (h.players q).delivered_other hqp
      · intro q ws' raw' admitted outcome hmem
        rcases List.mem_append.mp hmem with hold | hlast
        · exact h.delivered q ws' raw' admitted outcome hold
        · rw [List.mem_singleton] at hlast
          cases hlast
          obtain ⟨msg, -, hhandled⟩ := CommandHandler.handleRaw_admitted t hadmits
          refine ⟨⟨hd, rfl, hcarries⟩, ?_⟩
          rw [hhandled]
          cases ((s.clients p).handler.record hd.sequenceNumber hd.commandId).dispatch rt msg
              hd.commandType t with
          | error e => exact Or.inl ⟨e, rfl⟩
          | ok r => exact Or.inr ⟨r.2.1, r.2.2, rfl⟩

end Deliver

/-! ### Runs -/

section Runs

variable {rt : Runtime τ} {sm : π → StateMachine} {store : π → ManifestStore}

theorem wireInv_init (rt : Runtime τ) (sm : π → StateMachine) (store : π → ManifestStore) :
    WireInv rt [] (wire (κ := κ) rt sm store).init where
  sockets := by
    intro ws
    refine ⟨[], ⟨List.Forall₂.nil, ?_, List.Pairwise.nil, List.nodup_nil⟩, ?_, ?_, ?_, ?_,
      rfl, ?_⟩
    · simp
    · simp
    · simp
    · simp
    · simp
    · exact fun _ => ⟨rfl, Finset.notMem_empty ws, fun p hp => by cases hp⟩
  players := by
    intro p
    refine ⟨?_, ?_, List.nodup_nil, fun ws hp => by cases hp⟩
    · exact fun id hid => by cases hid
    · exact fun id hid => by cases hid
  delivered := fun _ _ _ _ _ hmem => by cases hmem

theorem wireInv_step {log : List (WireEvent π κ τ)} {s : CommandWire π κ τ}
    (h : WireInv rt log s)
    {i : WireStep π κ} (hnew : ∀ id, i.commandId? = some id → id ∉ s.issued) :
    WireInv rt (log ++ [(s.step rt i).2]) (s.step rt i).1 := by
  cases i with
  | send order stamp alive => exact h.send (hnew stamp.commandId rfl)
  | accept p ws => exact h.quiet (quiet_accept s p ws)
  | connected p => exact h.quiet (quiet_connected s p)
  | hangUp p => exact h.quiet (quiet_hangUp s p)
  | drop ws =>
    exact h.quiet (quiet_gateway s _ fun ws' hmem => ⟨Finset.mem_of_mem_erase hmem, rfl⟩)
  | restart =>
    exact h.quiet (quiet_gateway s {} fun ws hmem => absurd hmem (Finset.notMem_empty ws))
  | deliver p t => exact h.deliver p t
  | outside p sm store => exact h.quiet (quiet_outside s p sm store)

theorem step_issued_subset (rt : Runtime τ) (s : CommandWire π κ τ) (i : WireStep π κ) :
    ∀ id ∈ (s.step rt i).1.issued, i.commandId? = some id ∨ id ∈ s.issued := by
  intro id hid
  cases i with
  | send order stamp alive =>
    rcases send_cases rt s order stamp alive with hsame | ⟨-, hsent⟩
    · exact Or.inr (by rwa [CommandWire.step, hsame] at hid)
    · rw [CommandWire.step, hsent] at hid
      rcases List.mem_cons.mp hid with rfl | hold
      · exact Or.inl rfl
      · exact Or.inr hold
  | accept p ws => exact Or.inr ((quiet_accept s p ws).issued ▸ hid)
  | connected p => exact Or.inr ((quiet_connected s p).issued ▸ hid)
  | hangUp p => exact Or.inr hid
  | drop ws => exact Or.inr hid
  | restart => exact Or.inr hid
  | deliver p t =>
    refine Or.inr ?_
    rw [CommandWire.step] at hid
    cases hlink : (s.clients p).link with
    | down => simpa only [CommandWire.deliver, hlink] using hid
    | dialing ws => simpa only [CommandWire.deliver, hlink] using hid
    | up ws =>
      cases hflight : s.inFlight ws with
      | nil => simpa only [CommandWire.deliver, hlink, hflight] using hid
      | cons raw rest =>
        change id ∈ (s.deliver rt p t).1.issued at hid
        rw [deliver_eq hlink hflight] at hid
        exact hid
  | outside p sm store => exact Or.inr hid

def wireLog (rt : Runtime τ) (sm : π → StateMachine) (store : π → ManifestStore)
    (is : List (WireStep π κ)) : List (WireEvent π κ τ) :=
  (wire rt sm store).outputs (wire rt sm store).init is

def wireAfter (rt : Runtime τ) (sm : π → StateMachine) (store : π → ManifestStore)
    (is : List (WireStep π κ)) : CommandWire π κ τ :=
  (wire rt sm store).run (wire rt sm store).init is

theorem wireInv_run (rt : Runtime τ) (sm : π → StateMachine) (store : π → ManifestStore)
    {is : List (WireStep π κ)} (hunique : (is.filterMap WireStep.commandId?).Nodup) :
    WireInv rt (wireLog rt sm store is) (wireAfter rt sm store is) := by
  have hnew :=
    (wire (κ := κ) rt sm store).eachStep_draws_new WireStep.commandId? CommandWire.issued
    (step_issued_subset rt) hunique (s := (wire rt sm store).init) fun id _ hid => by cases hid
  exact Machine.outputs_inv_under (M := wire rt sm store) (J := WireInv rt)
    (fun _ _ _ hinv hi => wireInv_step hinv hi) (l := []) (wireInv_init rt sm store) hnew

/-- Over every run of sends, connects, disconnects and restarts: a frame that is delivered passes
the checks of the handler and is dispatched unless the dispatch raises, in the order of sending
and once; and a command that the gateway refuses leaves everything as it is. -/
theorem delivered_dispatched_once (rt : Runtime τ) (sm : π → StateMachine)
    (store : π → ManifestStore) {is : List (WireStep π κ)}
    (hunique : (is.filterMap WireStep.commandId?).Nodup) :
    (∀ p ws raw admitted outcome,
      .delivered p ws raw admitted outcome ∈ wireLog rt sm store is →
        (∃ hd, admitted = some hd ∧ Carries rt raw hd) ∧
          ((∃ e, outcome = .error e) ∨
            ∃ result event, outcome = .ok (.dispatched result event))) ∧
    (∀ ws, deliveredOn ws (wireLog rt sm store is) <+: sentOn ws (wireLog rt sm store is)) ∧
    (∀ p, ((dispatchedBy p (wireLog rt sm store is)).map Header.commandId).Nodup) ∧
    ∀ order stamp alive,
      playerCommand (order.built (wireAfter rt sm store is).gateway stamp) = false →
        (wireAfter rt sm store is).send rt order stamp alive =
          (wireAfter rt sm store is, .quiet) := by
  have hinv := wireInv_run rt sm store hunique
  refine ⟨hinv.delivered, fun ws => ?_, fun p => (hinv.players p).once, ?_⟩
  · obtain ⟨hds, hsocket⟩ := hinv.sockets ws
    exact ⟨_, hsocket.fifo.symm⟩
  · exact fun order stamp alive hrefused => send_refused rt _ alive hrefused

end Runs

/-! ### A run -/

def freezeStamp : CommandStamp :=
  ⟨"0b9e0b7c-54a1-4d6c-9f0e-3a2b1c4d5e6f", "2026-01-01T00:00:01.000Z", commandId_length⟩

def againStamp : CommandStamp :=
  ⟨"7d4c2f18-0a6b-4e35-8c91-5b2e6f7a8d90", "2026-01-01T00:00:09.000Z", by decide +kernel⟩

/-- A freeze on one socket, and after a lost connection another on the next. -/
def freezeRun : List (WireStep Unit Bool) :=
  [.accept () false, .connected (), .send (.freeze (some "cv_degraded")) freezeStamp fun _ => true,
    .deliver () ⟨0, .at 0⟩, .hangUp (), .drop false, .accept () true, .connected (),
    .send (.freeze none) againStamp fun _ => true, .deliver () ⟨8, .at 8⟩]

theorem freeze_dispatched_once :
    (dispatchedBy () (wireLog jsonRuntime (fun _ => StateMachine.init)
        (fun _ => ManifestStore.empty) freezeRun)).map Header.commandId =
      ["0b9e0b7c-54a1-4d6c-9f0e-3a2b1c4d5e6f", "7d4c2f18-0a6b-4e35-8c91-5b2e6f7a8d90"] ∧
    ((dispatchedBy () (wireLog jsonRuntime (fun _ => StateMachine.init)
        (fun _ => ManifestStore.empty) freezeRun)).map Header.commandId).Nodup :=
  have hunique : (freezeRun.filterMap WireStep.commandId?).Nodup := by decide +kernel
  ⟨by decide +kernel, (delivered_dispatched_once jsonRuntime (fun _ => StateMachine.init)
    (fun _ => ManifestStore.empty) hunique).2.2.1 ()⟩

end AdaptiveAdvertisement.System
