import AdaptiveAdvertisement.Library.Backoff

/-!
# The reconnect loops of the services

Every long-lived connection of the appliance is kept by a loop of one shape: connect, set the wait
back, serve until the connection fails, wait, double the wait up to a bound. They differ in their
waits and in what they catch. Serving a connection is a part of the time that a try takes; the
websocket loop alone can leave it without an error, when the peer closes in good order.

Source lines: `_run_mqtt_subscribe` and `_run_publish_loop` of `audience_state/main.py` 42-117,
`_run_mqtt` of `decision_optimizer/main.py` 39-73, `run_audience_sink` 102-150 and
`run_play_event_sink` 94-147 of the dashboard, `_run_mqtt_client` of `player/main.py` 170-212 and
`CommandHandler.run` of `player/command_handler.py` 134-174.
-/

namespace AdaptiveAdvertisement.System
open Library

/-- What a loop can see fail: the connection, or anything else. -/
inductive LinkFailure where
  | connection
  | other
  deriving DecidableEq

structure LinkLoop where
  backoff : Backoff
  catches : LinkFailure → Bool

/-- The waits that the environment of a service sets, in seconds. -/
structure ReconnectSettings where
  initialBackoff : ℚ := 1
  maxBackoff : ℚ := 30

def ReconnectSettings.backoff (cfg : ReconnectSettings) : Backoff :=
  ⟨cfg.initialBackoff, cfg.maxBackoff⟩

def connectionOnly (e : LinkFailure) : Bool := decide (e = .connection)

def anyFailure (_ : LinkFailure) : Bool := true

/-! ### The loops -/

def runMqttSubscribe (audienceState : ReconnectSettings) : LinkLoop :=
  ⟨audienceState.backoff, connectionOnly⟩

def runPublishLoop (audienceState : ReconnectSettings) : LinkLoop :=
  ⟨audienceState.backoff, connectionOnly⟩

def runMqtt (optimizer : ReconnectSettings) : LinkLoop := ⟨optimizer.backoff, connectionOnly⟩

def runAudienceSinkLoop : LinkLoop := ⟨⟨2, 60⟩, anyFailure⟩

def runPlayEventSinkLoop : LinkLoop := ⟨⟨2, 60⟩, anyFailure⟩

def runMqttClient : LinkLoop := ⟨⟨2, 60⟩, anyFailure⟩

def commandHandlerRun (player : ReconnectSettings) : LinkLoop :=
  ⟨player.backoff, connectionOnly⟩

structure Appliance where
  audienceState : ReconnectSettings := {}
  optimizer : ReconnectSettings := {}
  player : ReconnectSettings := {}

def Appliance.loops (a : Appliance) : List LinkLoop :=
  [runMqttSubscribe a.audienceState, runPublishLoop a.audienceState, runMqtt a.optimizer,
    runAudienceSinkLoop, runPlayEventSinkLoop, runMqttClient, commandHandlerRun a.player]

structure Appliance.Proper (a : Appliance) : Prop where
  audienceState : a.audienceState.backoff.Proper
  optimizer : a.optimizer.backoff.Proper
  player : a.player.backoff.Proper

theorem sink_proper : (Backoff.mk 2 60).Proper := ⟨by norm_num, by norm_num⟩

theorem Appliance.Proper.loops {a : Appliance} (h : a.Proper) :
    ∀ l ∈ a.loops, l.backoff.Proper := by
  simp only [Appliance.loops, List.forall_mem_cons]
  exact ⟨h.audienceState, h.audienceState, h.optimizer, sink_proper, sink_proper, sink_proper,
    h.player, fun l hl => by cases hl⟩

/-! ### A run of one loop -/

/-- What a loop logs of its tries, from the instant at which it starts. -/
def LinkLoop.log (l : LinkLoop) (clock : ℚ) (tries : List (Try LinkFailure)) : List Tried :=
  triedIn l.backoff l.catches clock tries

def LinkLoop.running (l : LinkLoop) (clock : ℚ) (tries : List (Try LinkFailure)) : Bool :=
  ((retrying l.backoff l.catches clock).run (Retry.start l.backoff clock) tries).running

/-- Every try is logged until the loop ends, which only a failure brings about that it does not
catch, and begins where the wait before it ends; after each failure that is caught comes a wait.
The waits double up to the bound from the first one after every connection, and none is longer than
the first wait and the time without a connection. Once the peer can be reached again, the next try
comes later than that by the try under way and one wait at most. -/
structure Reconnects (l : LinkLoop) (clock : ℚ) (tries : List (Try LinkFailure)) : Prop where
  logs : List.Forall₂ (Logs l.catches) (tries.take (l.log clock tries).length) (l.log clock tries)
  complete : l.running clock tries = true → (l.log clock tries).length = tries.length
  runs : l.running clock tries = true ↔ ∀ t ∈ tries, ∀ e ∈ t.failure, l.catches e = true
  begun : ∀ pre t post, l.log clock tries = pre ++ t :: post → t.begun = resumesAt clock pre
  waits : ∀ pre t post, l.log clock tries = pre ++ t :: post → ∀ w ∈ t.waited,
    w = min (l.backoff.initial * 2 ^ if t.held then 0 else failures pre) l.backoff.max
  short : ∀ pre t post, l.log clock tries = pre ++ t :: post → ∀ w ∈ t.waited,
    w ≤ l.backoff.initial + (t.ended - downSince clock (pre ++ [t]))
  soon : ∀ back, HeldFrom back (l.log clock tries) → ∀ pre t next post w,
    l.log clock tries = pre ++ t :: next :: post → t.held = false → t.waited = some w →
      next.begun ≤ back + (t.ended - t.begun) +
        min l.backoff.max (l.backoff.initial + (t.ended - downSince clock pre))

/-- So every loop of the appliance keeps its connection, whatever its tries meet. -/
theorem loops_reconnect (a : Appliance) (ha : a.Proper) (l : LinkLoop) (hl : l ∈ a.loops)
    (clock : ℚ) (tries : List (Try LinkFailure)) (htook : ∀ t ∈ tries, 0 ≤ t.took) :
    Reconnects l clock tries := by
  have hpaced := (retrying_inv l.catches clock (ha.loops l hl) htook).paced
  have hlogs := outputs_logs (b := l.backoff) l.catches clock
    (r := Retry.start l.backoff clock) rfl tries
  exact {
    logs := hlogs.1
    complete := hlogs.2
    runs := retrying_running_iff l.catches clock _ rfl tries
    begun := hpaced.begun
    waits := hpaced.waited
    short := hpaced.short
    soon := fun back hback pre t next post w hcut hheld hwaited =>
      hpaced.recovers clock hback hcut hheld hwaited }

/-! ### A broker that restarts -/

/-- A connection of a minute is lost, and three tries are refused before the fourth holds. -/
def brokerRestart : List (Try LinkFailure) :=
  [⟨true, some .connection, 60⟩, ⟨false, some .connection, 0⟩,
    ⟨false, some .connection, 0⟩, ⟨false, some .connection, 0⟩,
    ⟨true, some .connection, 3600⟩]

theorem standard_proper : Appliance.Proper {} :=
  have h : (ReconnectSettings.backoff {}).Proper :=
    ⟨zero_le_one, by norm_num [ReconnectSettings.backoff]⟩
  ⟨h, h, h⟩

theorem brokerRestart_reconnects : Reconnects (runMqtt {}) 0 brokerRestart :=
  loops_reconnect {} standard_proper (runMqtt {}) (by simp [Appliance.loops]) 0 brokerRestart
    (by simp [brokerRestart])

example : ((runMqtt {}).log 0 brokerRestart).map Tried.begun = [0, 61, 63, 67, 75] := by
  decide +kernel

end AdaptiveAdvertisement.System
