import AdaptiveAdvertisement.AudienceState.ObservationConsumer
import AdaptiveAdvertisement.Library.Machine
import AdaptiveAdvertisement.Library.RecentIds
import AdaptiveAdvertisement.Library.SlidingWindow
import Mathlib.Tactic.Linarith

/-!
# The window as a view of the whole history

Over any interleaving of `process` calls and queries, the pruned window is compared with the
unbounded list of the messages accepted so far. Every query of the window begins with `_prune`,
so `query` is that call.
-/

namespace AdaptiveAdvertisement.AudienceState
open Library Contracts

variable {τ : Type}

inductive WindowStep (τ : Type) where
  | process (raw : τ) (t : AddClock)
  | query (now : ℚ)

def WindowStep.readings : WindowStep τ → List ℚ
  | .process _ t => [t.prune, t.received]
  | .query now => [now]

def Clocked (is : List (WindowStep τ)) : Prop :=
  (is.flatMap WindowStep.readings).Pairwise (· ≤ ·)

def Stored.messageId (o : Stored) : String :=
  match strMember o.data.1 "message_id" with
  | .ok id => id
  | .error _ => ""

namespace ObservationConsumer

/-- The message of a payload that `process` accepts, with its receipt time. -/
def accepts (cd : Codec τ) (c : ObservationConsumer) (raw : τ) (t : AddClock) : Option Stored :=
  match c.inbox.receive cvObservation "message_id" maxSeenIds (cd.loads raw) with
  | (_, .ok (some msg)) => some ⟨msg, t.received⟩
  | _ => none

theorem accepts_iff (cd : Codec τ) (c : ObservationConsumer) (raw : τ) (t : AddClock) :
    (c.accepts cd raw t).isSome ↔ (c.process cd raw t).2 = .ok true := by
  unfold accepts process
  rcases c.inbox.receive cvObservation "message_id" maxSeenIds (cd.loads raw) with ⟨b, r⟩
  cases r with
  | error e => simp
  | ok m =>
    cases m with
    | none => simp
    | some v => simp

theorem process_accepted {cd : Codec τ} {c : ObservationConsumer} {raw : τ} {t : AddClock}
    {o : Stored} (h : c.accepts cd raw t = some o) :
    o.receivedAt = t.received ∧ o.messageId ∉ c.inbox.seenIds.keys ∧
      (c.process cd raw t).1.window = c.window.add o.data t ∧
      (c.process cd raw t).1.inbox.seenIds =
        c.inbox.seenIds.remember maxSeenIds o.messageId := by
  unfold accepts at h
  rcases Inbox.receive_cases cvObservation "message_id" maxSeenIds c.inbox (cd.loads raw) with
    ⟨v, id, hid, hnew, hreceive⟩ | ⟨-, hnone⟩
  · rw [hreceive] at h
    cases h
    have hmessage : Stored.messageId ⟨v, t.received⟩ = id := by simp [Stored.messageId, hid]
    have hprocess : c.process cd raw t =
        ({ window := c.window.add v t, inbox := c.inbox.accept maxSeenIds id }, .ok true) := by
      simp [process, hreceive]
    rw [hprocess, hmessage]
    exact ⟨rfl, hnew, rfl, rfl⟩
  · rcases hr : c.inbox.receive cvObservation "message_id" maxSeenIds (cd.loads raw) with
      ⟨b, r⟩
    rw [hr] at h hnone
    cases r with
    | error e => cases h
    | ok m =>
      cases m with
      | none => cases h
      | some v => exact absurd rfl (hnone v)

/-- A message that is rejected, or was accepted before, leaves the window as it is. -/
theorem process_unaccepted {cd : Codec τ} {c : ObservationConsumer} {raw : τ} {t : AddClock}
    (h : c.accepts cd raw t = none) :
    (c.process cd raw t).1.window = c.window ∧
      (c.process cd raw t).1.inbox.seenIds = c.inbox.seenIds := by
  unfold accepts at h
  unfold process
  rcases Inbox.receive_cases cvObservation "message_id" maxSeenIds c.inbox (cd.loads raw) with
    ⟨v, id, -, -, hreceive⟩ | ⟨hids, -⟩
  · rw [hreceive] at h
    cases h
  · rcases hr : c.inbox.receive cvObservation "message_id" maxSeenIds (cd.loads raw) with
      ⟨b, r⟩
    rw [hr] at h hids
    cases r with
    | error e => exact ⟨rfl, hids⟩
    | ok m =>
      cases m with
      | none => exact ⟨rfl, hids⟩
      | some v => cases h

end ObservationConsumer

/-! ### Runs -/

def consuming (cd : Codec τ) (config : WindowConfig) :
    Machine ObservationConsumer (WindowStep τ) (Option Stored) where
  init := { window := { config := config } }
  step := fun c i =>
    match i with
    | .process raw t => ((c.process cd raw t).1, c.accepts cd raw t)
    | .query now => ({ c with window := c.window.prune now }, none)

def accepted (outs : List (Option Stored)) : List Stored := outs.filterMap id

def consumed (cd : Codec τ) (config : WindowConfig) (is : List (WindowStep τ)) :
    ObservationConsumer := (consuming cd config).run (consuming cd config).init is

/-- Every message accepted so far. -/
def history (cd : Codec τ) (config : WindowConfig) (is : List (WindowStep τ)) : List Stored :=
  accepted ((consuming cd config).outputs (consuming cd config).init is)

def ObservationWindow.cutoff (config : WindowConfig) (now : ℚ) : ℚ :=
  now - (config.windowMs : ℚ) / 1000

theorem prune_observations (w : ObservationWindow) (now : ℚ) :
    (w.prune now).observations =
      since Stored.receivedAt (ObservationWindow.cutoff w.config now) w.observations := rfl

theorem cutoff_mono {config : WindowConfig} {x r : ℚ} (h : x ≤ r) :
    ObservationWindow.cutoff config x ≤ ObservationWindow.cutoff config r := by
  unfold ObservationWindow.cutoff
  linarith

theorem cutoff_le {config : WindowConfig} {now t : ℚ} (h : now ≤ t) :
    ObservationWindow.cutoff config now ≤ t := by
  have hmin := config.windowMs_min
  have hpositive :
      (0 : ℚ) ≤ config.windowMs := by exact_mod_cast (by omega : 0 ≤ config.windowMs)
  unfold ObservationWindow.cutoff
  linarith

section Runs

variable {cd : Codec τ} {config : WindowConfig} {c : ObservationConsumer} {i : WindowStep τ}

/-- A message enters the window, the ids and the count together. -/
theorem consuming_step (cd : Codec τ) (config : WindowConfig) (c : ObservationConsumer)
    (i : WindowStep τ) :
    ((consuming cd config).out c i = none ∧
      ((consuming cd config).next c i).window.totalAdded = c.window.totalAdded ∧
      ((consuming cd config).next c i).inbox.seenIds = c.inbox.seenIds) ∨
    ∃ o, (consuming cd config).out c i = some o ∧
      ((consuming cd config).next c i).window.totalAdded = c.window.totalAdded + 1 ∧
      o.messageId ∉ c.inbox.seenIds.keys ∧
      ((consuming cd config).next c i).inbox.seenIds =
        c.inbox.seenIds.remember maxSeenIds o.messageId := by
  cases i with
  | query now => exact Or.inl ⟨rfl, rfl, rfl⟩
  | process raw t =>
    cases h : c.accepts cd raw t with
    | none =>
      obtain ⟨hwindow, hids⟩ := ObservationConsumer.process_unaccepted h
      exact Or.inl ⟨h, congrArg ObservationWindow.totalAdded hwindow, hids⟩
    | some o =>
      obtain ⟨-, hnew, hwindow, hids⟩ := ObservationConsumer.process_accepted h
      exact Or.inr ⟨o, h, congrArg ObservationWindow.totalAdded hwindow, hnew, hids⟩

/-- What a step that comes before the reading `r` leaves in the window. -/
theorem consuming_windowed {log : List Stored} {r : ℚ} (hconfig : c.window.config = config)
    (hreadings : ∀ x ∈ i.readings, x ≤ r) (hsorted : i.readings.Pairwise (· ≤ ·))
    (h : ∀ x ∈ r :: i.readings,
      Windowed Stored.receivedAt (ObservationWindow.cutoff config x) log
      c.window.observations) :
    Windowed Stored.receivedAt (ObservationWindow.cutoff config r)
      (log ++ accepted [(consuming cd config).out c i])
      ((consuming cd config).next c i).window.observations := by
  have hmono : ∀ x ∈ i.readings,
      ObservationWindow.cutoff config x ≤ ObservationWindow.cutoff config r :=
    fun x hx => cutoff_mono (hreadings x hx)
  have hpruned : ∀ x ∈ i.readings,
    Windowed Stored.receivedAt (ObservationWindow.cutoff config x)
      log (c.window.prune x).observations := by
    intro x hx
    rw [prune_observations, hconfig]
    exact windowed_prune (h x (List.mem_cons_of_mem r hx))
  cases i with
  | query now =>
    have hnow : now ∈ (WindowStep.query now : WindowStep τ).readings := List.mem_cons_self
    have hout : accepted [(consuming cd config).out c (.query now)] = [] := rfl
    rw [hout, List.append_nil]
    exact (hpruned now hnow).mono (hmono now hnow)
  | process raw t =>
    have hprune : t.prune ∈ (WindowStep.process raw t).readings := List.mem_cons_self
    cases ha : c.accepts cd raw t with
    | none =>
      obtain ⟨hwindow, -⟩ := ObservationConsumer.process_unaccepted ha
      have hout : accepted [(consuming cd config).out c (.process raw t)] = [] := by
        change accepted [c.accepts cd raw t] = []
        rw [ha]
        rfl
      rw [hout, List.append_nil]
      exact (congrArg ObservationWindow.observations hwindow) ▸ h r List.mem_cons_self
    | some o =>
      obtain ⟨hreceived, -, hwindow, -⟩ := ObservationConsumer.process_accepted ha
      have hout : accepted [(consuming cd config).out c (.process raw t)] = [o] := by
        change accepted [c.accepts cd raw t] = [o]
        rw [ha]
        rfl
      have horder : t.prune ≤ t.received := by simpa [WindowStep.readings] using hsorted
      have hin : ObservationWindow.cutoff config t.prune ≤ o.receivedAt :=
        cutoff_le (horder.trans hreceived.ge)
      have hadded : ((consuming cd config).next c (.process raw t)).window.observations =
          (c.window.prune t.prune).observations ++ [o] := by
        have hrow : o = ⟨o.data, t.received⟩ := by rw [← hreceived]
        have hobs := congrArg ObservationWindow.observations hwindow
        rw [hrow]
        exact hobs
      rw [hout, hadded]
      exact ((hpruned t.prune hprune).push hin).mono (hmono t.prune hprune)

theorem consuming_config (hconfig : c.window.config = config) :
    ((consuming cd config).next c i).window.config = config := by
  cases i with
  | query now => exact hconfig
  | process raw t =>
    change (c.process cd raw t).1.window.config = config
    cases h : c.accepts cd raw t with
    | none => rw [(ObservationConsumer.process_unaccepted h).1, hconfig]
    | some o =>
      rw [(ObservationConsumer.process_accepted h).2.2.1]
      exact hconfig

variable (cd config) in
-- `later` are the readings after the run; the window misses nothing that one of them may ask for
theorem run_windowed {is : List (WindowStep τ)} {later : List ℚ} {log : List Stored}
    (hconfig : c.window.config = config)
    (hsorted : (is.flatMap WindowStep.readings ++ later).Pairwise (· ≤ ·))
    (h : ∀ r ∈ is.flatMap WindowStep.readings ++ later,
      Windowed Stored.receivedAt (ObservationWindow.cutoff config r) log c.window.observations) :
    ∀ r ∈ later, Windowed Stored.receivedAt (ObservationWindow.cutoff config r)
      (log ++ accepted ((consuming cd config).outputs c is))
      ((consuming cd config).run c is).window.observations := by
  induction is generalizing c log with
  | nil =>
    intro r hr
    have hlater := h r (by simpa using hr)
    simpa [accepted] using hlater
  | cons i is ih =>
    rw [List.flatMap_cons, List.append_assoc] at hsorted h
    obtain ⟨hi, hrest, hbefore⟩ := List.pairwise_append.mp hsorted
    have hnext : ∀ r ∈ is.flatMap WindowStep.readings ++ later,
        Windowed Stored.receivedAt (ObservationWindow.cutoff config r)
          (log ++ accepted [(consuming cd config).out c i])
          ((consuming cd config).next c i).window.observations := by
      intro r hr
      refine consuming_windowed hconfig (fun x hx => hbefore x hx r hr) hi fun x hx => ?_
      rcases List.mem_cons.mp hx with rfl | hx
      · exact h x (List.mem_append_right _ hr)
      · exact h x (List.mem_append_left _ hx)
    intro r hr
    have hrun := ih (consuming_config hconfig) hrest hnext r hr
    have hlog : accepted ((consuming cd config).outputs c (i :: is)) =
        accepted [(consuming cd config).out c i] ++
          accepted ((consuming cd config).outputs ((consuming cd config).next c i) is) := by
      simp only [Machine.outputs_cons, accepted]
      exact List.filterMap_append (l := [_])
    rw [Machine.run_cons, hlog, ← List.append_assoc]
    exact hrun

theorem history_spaced (cd : Codec τ) (config : WindowConfig) (is : List (WindowStep τ)) :
    Spaced 2501 ((history cd config is).map Stored.messageId) ∧
      (consumed cd config is).window.totalAdded = (history cd config is).length := by
  have hrun := Machine.outputs_inv (l := []) (M := consuming cd config)
    (J := fun outs c =>
      Recalls maxSeenIds ((accepted outs).map Stored.messageId) c.inbox.seenIds ∧
        Spaced 2501 ((accepted outs).map Stored.messageId) ∧
        c.window.totalAdded = (accepted outs).length) (s := (consuming cd config).init) ?_ ?_ is
  · exact hrun.2
  · intro outs c i ⟨hrecalls, hspaced, htotal⟩
    rcases consuming_step cd config c i with
      ⟨hout, hcount, hids⟩ | ⟨o, hout, hcount, hnew, hids⟩
    · have hlog : accepted (outs ++ [(consuming cd config).out c i]) = accepted outs := by
        simp [accepted, hout]
      rw [hlog, hids, hcount]
      exact ⟨hrecalls, hspaced, htotal⟩
    · have hlog : accepted (outs ++ [(consuming cd config).out c i]) = accepted outs ++ [o] := by
        simp [accepted, hout]
      rw [hlog, hids, hcount, List.map_append, List.length_append]
      exact ⟨hrecalls.remember (by decide) hnew, hrecalls.spaced hnew hspaced,
        congrArg (· + 1) htotal⟩
  · exact ⟨recalls_empty _, spaced_nil _, rfl⟩

theorem query_history (cd : Codec τ) (config : WindowConfig) {is : List (WindowStep τ)}
    {now : ℚ} (hclock : Clocked (is ++ [.query now])) :
    ((consumed cd config is).window.prune now).observations =
      since Stored.receivedAt (ObservationWindow.cutoff config now) (history cd config is) := by
  have hsorted : (is.flatMap WindowStep.readings ++ [now]).Pairwise (· ≤ ·) := by
    simpa [Clocked, WindowStep.readings] using hclock
  have hempty : ∀ r ∈ is.flatMap WindowStep.readings ++ [now],
      Windowed Stored.receivedAt (ObservationWindow.cutoff config r) []
        (consuming cd config).init.window.observations := fun r _ => windowed_nil _
  have hrun := run_windowed cd config (c := (consuming cd config).init) rfl hsorted hempty now
    List.mem_cons_self
  have hconfig : (consumed cd config is).window.config = config :=
    Machine.run_inv (M := consuming cd config) (I := fun c => c.window.config = config)
      (fun _ _ => consuming_config) rfl is
  rw [prune_observations, hconfig]
  exact hrun.prune

/-- Over every run: a query leaves exactly what was accepted in the last `window_ms`, an id is
accepted again only after 2501 other ones, every accepted message counts, and no other message
touches the window. -/
theorem window_refines_history (cd : Codec τ) (config : WindowConfig)
    (is : List (WindowStep τ)) :
    (∀ now, Clocked (is ++ [.query now]) →
      (consumed cd config (is ++ [.query now])).window.observations =
        (history cd config is).filter fun o =>
          decide (now - (config.windowMs : ℚ) / 1000 ≤ o.receivedAt)) ∧
    Spaced 2501 ((history cd config is).map Stored.messageId) ∧
    (consumed cd config is).window.totalAdded = (history cd config is).length ∧
    ∀ raw t, ((consumed cd config is).process cd raw t).2 ≠ .ok true →
      ((consumed cd config is).process cd raw t).1.window = (consumed cd config is).window := by
  obtain ⟨hspaced, htotal⟩ := history_spaced cd config is
  refine ⟨fun now hclock => ?_, hspaced, htotal, fun raw t hresult => ?_⟩
  · have hnext : consumed cd config (is ++ [.query now]) =
        (consuming cd config).next (consumed cd config is) (.query now) :=
      Machine.run_snoc _ _ _ _
    rw [hnext]
    exact query_history cd config hclock
  · have hnone : (consumed cd config is).accepts cd raw t = none := by
      rw [← Option.not_isSome_iff_eq_none, ObservationConsumer.accepts_iff]
      exact hresult
    exact (ObservationConsumer.process_unaccepted hnone).1

end Runs

end AdaptiveAdvertisement.AudienceState
