import AdaptiveAdvertisement.Library.Json

/-!
# The operator's safe-mode intent (`dashboard_api/routers/system.py`)

The singleton row of `safe_mode_state` (`models.py:219-236`, without its key and the
bookkeeping column `updated_at`) and the three routes over it: `GET` 156-166, `POST` 169-201,
`DELETE` 204-230. The defaults of a row are those of `_get_or_create_safe_mode` (86-93); the
bodies are `schemas.py:249-264`. Instants are seconds; how one is written in a response is the
parameter `isoformat`.
-/

namespace AdaptiveAdvertisement.Dashboard
open Library

structure SafeModeState where
  isActive : Bool := false
  reason : Option String := none
  activatedAt : Option ℚ := none
  activatedBy : Option String := none

structure SafeModeInfo where
  active : Bool
  reason : Option String := none
  activatedAt : Option ℚ := none

structure SafeModeRequest where
  reason : String
  activatedBy : String := "operator"

def SafeModeInfo.toJson (isoformat : ℚ → String) (i : SafeModeInfo) : Json :=
  .obj [("active", .bool i.active), ("reason", Json.ofOption .str i.reason),
    ("activated_at", Json.ofOption (fun t => .str (isoformat t)) i.activatedAt)]

def getOrCreateSafeMode (row : Option SafeModeState) : SafeModeState := row.getD {}

def getSafeMode (row : SafeModeState) : SafeModeInfo where
  active := row.isActive
  reason := row.reason
  activatedAt := row.activatedAt

def engageSafeMode (row : SafeModeState) (body : SafeModeRequest) (now : ℚ) :
    SafeModeState × SafeModeInfo :=
  if row.isActive then
    (row, { active := true, reason := row.reason, activatedAt := row.activatedAt })
  else
    ({ isActive := true, reason := some body.reason, activatedAt := some now,
       activatedBy := some body.activatedBy },
      { active := true, reason := some body.reason, activatedAt := some now })

def clearSafeMode (row : SafeModeState) : SafeModeState × SafeModeInfo :=
  if row.isActive then ({}, { active := false }) else (row, { active := false })

end AdaptiveAdvertisement.Dashboard
