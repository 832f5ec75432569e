import AdaptiveAdvertisement.Dashboard.PlayEventSink
import AdaptiveAdvertisement.Dashboard.SafeModeIntent
import AdaptiveAdvertisement.Dashboard.UptimeSummary

/-!
# The live view of the player (`dashboard_api/routers/system.py`)

`get_live_status` 274-367 knows the player by the row of the safe mode, by the latest play event and
by a probe of its health endpoint (`_probe_service` 49-83).
-/

namespace AdaptiveAdvertisement.Dashboard
open Library

def probeStatus : ProbeOutcome → String
  | .answered status => if status = 200 then "healthy" else "unhealthy"
  | .failed => "unreachable"

structure PlayerLiveOut where
  available : Bool
  state : Option String := none
  activeManifestId : Option String := none
  dwellElapsed : Option Bool := none
  freezeReason : Option String := none
  safeModeReason : Option String := none

structure LiveStatusOut where
  cv : CvLiveOut
  player : PlayerLiveOut

/-- How the database answers the query for the latest play event. -/
structure LatestPlayQuery where
  pick : List PlayEventOut → Option PlayEventOut
  mem : ∀ rows row, pick rows = some row → row ∈ rows
  latest : ∀ rows row, pick rows = some row → ∀ other ∈ rows,
    other.activatedAt ≤ row.activatedAt
  answers : ∀ rows, pick rows = none → rows = []

def playerState (safe : SafeModeState) (available : Bool) (playEvent : Option PlayEventOut) :
    Option String :=
  if safe.isActive then some "safe_mode"
  else if available && playEvent.isSome then some "active"
  else if available then some "fallback"
  else none

def playerLive (probe : ProbeOutcome) (safe : SafeModeState) (playEvent : Option PlayEventOut) :
    PlayerLiveOut :=
  let available := probeStatus probe == "healthy"
  { available := available
    state := playerState safe available playEvent
    activeManifestId := playEvent.map PlayEventOut.manifestId
    safeModeReason := if safe.isActive then safe.reason else none }

/-- The row of the safe mode is made where it is missing. -/
def getLiveStatus (latest : LatestQuery) (latestPlay : LatestPlayQuery) (now : ℚ)
    (probe : ProbeOutcome) (snapshots : List AudienceSnapshot) (playEvents : List PlayEventOut)
    (safe : Option SafeModeState) : LiveStatusOut × SafeModeState :=
  ({ cv := getLiveCv latest now snapshots
     player := playerLive probe (getOrCreateSafeMode safe) (latestPlay.pick playEvents) },
    getOrCreateSafeMode safe)

end AdaptiveAdvertisement.Dashboard
