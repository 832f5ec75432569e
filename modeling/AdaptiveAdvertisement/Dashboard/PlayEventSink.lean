import AdaptiveAdvertisement.Dashboard.AudienceSink
import AdaptiveAdvertisement.Dashboard.Pagination

/-!
# Play events in the database (`dashboard_api/play_event_sink.py`)

`_parse_play_event` 37-70 makes a row of `play_events` (`models.py:312-336`) of a message of the
player, and `_lookup_attention_at_trigger` 73-95 looks for the attention at that moment. The key of
the row and the time of receipt are given.
-/

namespace AdaptiveAdvertisement.Dashboard
open Library
open DecisionOptimizer (memberOr)

/-- With the conversion `str(…)`, which leaves a string as it is. -/
structure EventRuntime (τ : Type) extends SinkRuntime τ where
  str : Json → String
  str_str : ∀ s, str (.str s) = s

/-- `s[:n]`. -/
def firstChars (n : ℕ) (s : String) : String := String.ofList (s.toList.take n)

theorem firstChars_of_le {n : ℕ} {s : String} (h : s.length ≤ n) : firstChars n s = s := by
  rw [firstChars, List.take_of_length_le (String.length_toList ▸ h), String.ofList_toList]

def attentionLookupWindowS : ℚ := 5

namespace EventRuntime

variable {τ : Type} (rt : EventRuntime τ)

def shortText (n : ℕ) (v : Json) : Option String :=
  if v.truthy then some (firstChars n (rt.str v)) else none

def readPlayEvent (msg : Json) (id : String) (now : ℚ) : Except Raised PlayEventOut := do
  let activatedAt ← (index msg "activated_at").bind rt.readTime
  let manifestId ← index msg "manifest_id"
  let reason ← memberOr msg "reason" .null
  let prevManifestId ← memberOr msg "prev_manifest_id" .null
  return {
    id := id
    manifestId := firstChars 128 (rt.str manifestId)
    activatedAt := activatedAt
    reason := rt.shortText 256 reason
    prevManifestId := rt.shortText 128 prevManifestId
    attentionAtTrigger := none
    receivedAt := now }

/-- `none` where the message is dropped. -/
def parsePlayEvent (raw : τ) (id : String) (now : ℚ) : Except Raised (Option PlayEventOut) :=
  match rt.loads raw with
  | .decodeError => .ok none
  | .unicodeError => .ok none
  | .raised => .error .loadError
  | .value msg =>
    match rt.readPlayEvent msg id now with
    | .ok row => .ok (some row)
    | .error e => if malformed e then .ok none else .error e

end EventRuntime

def inLookupWindow (activatedAt : ℚ) (snapshot : AudienceSnapshot) : Bool :=
  decide (activatedAt - attentionLookupWindowS ≤ snapshot.sampledAt) &&
    decide (snapshot.sampledAt ≤ activatedAt)

def lookupAttentionAtTrigger (query : LatestQuery) (activatedAt : ℚ)
    (snapshots : List AudienceSnapshot) : Option Number :=
  (query.pick (snapshots.filter (inLookupWindow activatedAt))).bind
    AudienceSnapshot.attentionEngaged

/-- One message of the loop in `run_play_event_sink` (119-141). Where the parser raises, the sink
connects again. -/
def receivePlayEvent {τ : Type} (rt : EventRuntime τ) (query : LatestQuery)
    (snapshots : List AudienceSnapshot) (raw : τ) (id : String) (now : ℚ) (commits : Bool) :
    Option PlayEventOut :=
  match rt.parsePlayEvent raw id now with
  | .ok (some row) =>
    if commits then
      some { row with
        attentionAtTrigger := lookupAttentionAtTrigger query row.activatedAt snapshots }
    else none
  | _ => none

/-! ### The attention that is looked up -/

/-- It is that of a latest snapshot of the five seconds before, or there is none. -/
theorem lookupAttention_latest {query : LatestQuery} {activatedAt : ℚ}
    {snapshots : List AudienceSnapshot} {engaged : Number}
    (h : lookupAttentionAtTrigger query activatedAt snapshots = some engaged) :
    ∃ snapshot ∈ snapshots, snapshot.attentionEngaged = some engaged ∧
      activatedAt - 5 ≤ snapshot.sampledAt ∧ snapshot.sampledAt ≤ activatedAt ∧
      ∀ other ∈ snapshots, other.sampledAt ≤ activatedAt →
        other.sampledAt ≤ snapshot.sampledAt := by
  obtain ⟨snapshot, hpick, hengaged⟩ := Option.bind_eq_some_iff.mp h
  obtain ⟨hmem, hwindow⟩ := List.mem_filter.mp (query.mem _ _ hpick)
  obtain ⟨hearly, hlatest⟩ : activatedAt - 5 ≤ snapshot.sampledAt ∧
      snapshot.sampledAt ≤ activatedAt := by
    simpa [inLookupWindow, attentionLookupWindowS] using hwindow
  refine ⟨snapshot, hmem, hengaged, hearly, hlatest, fun other hother hbefore => ?_⟩
  by_cases hlate : activatedAt - 5 ≤ other.sampledAt
  · refine query.latest _ _ hpick other (List.mem_filter.mpr ⟨hother, ?_⟩)
    simp [inLookupWindow, attentionLookupWindowS, hlate, hbefore]
  · exact (lt_of_lt_of_le (not_le.mp hlate) hearly).le

end AdaptiveAdvertisement.Dashboard
