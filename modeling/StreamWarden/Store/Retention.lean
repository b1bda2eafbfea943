import StreamWarden.Text.Integer
import StreamWarden.Store.Basic

/-!
# Data retention

With a retention of `years` years (a positive number), data older than `years * 365` days
before now is purged. The cutoff is computed with 64-bit arithmetic that stops at the bounds
instead of wrapping: first the span, then the difference.
-/

namespace StreamWarden

/-- Brings an integer into the signed 64-bit range. -/
def clampI64 (x : Int) : Int := max Text.i64Min (min Text.i64Max x)

/-- Milliseconds in a day. -/
def dayMs : Int := 86400000

/-- The oldest instant kept with a retention of `years`; none when retention is unlimited
(not positive). -/
def retentionCutoff (years now : Int) : Option Int :=
  if years > 0 then some (clampI64 (now - clampI64 (clampI64 (years * 365) * dayMs))) else none

/-- How many rows of each kind a purge removed. -/
structure PurgeReport where
  history : Nat
  events : Nat
  enforcements : Nat
  deriving DecidableEq, Repr

/-- The number of rows a purge removed. -/
def PurgeReport.total (r : PurgeReport) : Nat := r.history + r.events + r.enforcements

/-- Removes the history finished, the events logged and the enforcement entries made before
`cutoff`. -/
def Store.purgeBefore (s : Store) (cutoff : Int) : PurgeReport × Store :=
  let history := s.history.filter (·.stoppedAt ≥ cutoff)
  let events := s.events.filter (·.ts ≥ cutoff)
  let enforcements := s.enforcements.filter (·.createdAt ≥ cutoff)
  (⟨s.history.length - history.length, s.events.length - events.length,
      s.enforcements.length - enforcements.length⟩,
    { s with history, events, enforcements })

/-- Purges by the retention setting, as of `now`; nothing with unlimited retention. -/
def Store.runRetention (s : Store) (now : Int) : PurgeReport × Store :=
  match retentionCutoff s.currentSettings.dataRetentionYears now with
  | some cutoff => s.purgeBefore cutoff
  | none => (⟨0, 0, 0⟩, s)

end StreamWarden
