import Mathlib.Data.List.Basic

/-!
# Logs and what is read out of them

A store that writes an event beside every change can be read back from its log. A reader picks the
events of its subject and folds them. It stands in step with the store as long as each event that
it picks tells what the store did, and every other leaves its subject alone.
-/

namespace AdaptiveAdvertisement.Library

structure LogReader (ε ν : Type*) where
  picks : ε → Bool
  init : ν
  apply : ν → ε → ν

namespace LogReader

variable {ε ν : Type*} (r : LogReader ε ν)

def read (log : List ε) : ν := (log.filter r.picks).foldl r.apply r.init

theorem read_snoc (log : List ε) (e : ε) :
    r.read (log ++ [e]) = if r.picks e then r.apply (r.read log) e else r.read log := by
  cases h : r.picks e <;> simp [read, List.filter_append, List.foldl_append, h]

variable {r} {log : List ε} {e : ε} {v : ν}

theorem read_other (h : r.picks e = false) : r.read (log ++ [e]) = r.read log := by
  simp [read_snoc, h]

/-- An event that is picked has to tell the change. -/
theorem read_told (hread : r.read log = v) (h : r.picks e = true) {v' : ν}
    (happly : r.apply v e = v') : r.read (log ++ [e]) = v' := by
  rw [read_snoc, if_pos h, hread, happly]

end LogReader

end AdaptiveAdvertisement.Library
