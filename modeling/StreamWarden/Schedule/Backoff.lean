/-!
# Backoff after failed collections

After `f` consecutive failures a server waits `base * 2 ^ min f 31` milliseconds before it is
polled again, capped at the larger of the configured maximum and the base. A success forgets
the failures. The failure count stops at the largest 32-bit value.
-/

namespace StreamWarden

/-- The failures of one server and when it may be polled again (milliseconds). -/
structure BackoffEntry where
  failures : Nat
  nextDue : Int
  deriving DecidableEq, Repr

/-- Consecutive failures per server. -/
structure BackoffTracker where
  base : Nat
  cap : Nat
  entries : List (Int × BackoffEntry) := []
  deriving Repr

namespace BackoffTracker

/-- The largest 32-bit unsigned value, where the failure count stops. -/
def failureLimit : Nat := 4294967295

/-- A tracker with a base delay and a maximum; the maximum is at least the base. -/
def create (base cap : Nat) : BackoffTracker := { base, cap := Nat.max cap base }

/-- The delay after `f` consecutive failures. -/
def delayFor (t : BackoffTracker) (f : Nat) : Nat := Nat.min (t.base * Nat.pow 2 (Nat.min f 31)) t.cap

/-- The entry of a server. -/
def entry? (t : BackoffTracker) (server : Int) : Option BackoffEntry := t.entries.lookup server

/-- The consecutive failures of a server. -/
def failures (t : BackoffTracker) (server : Int) : Nat := ((t.entry? server).map (·.failures)).getD 0

/-- A server may be polled: it has no failures, or its delay has passed. -/
def isDue (t : BackoffTracker) (server : Int) (now : Int) : Bool :=
  match t.entry? server with
  | some e => now ≥ e.nextDue
  | none => true

/-- Forgets the failures of a server. -/
def recordSuccess (t : BackoffTracker) (server : Int) : BackoffTracker :=
  { t with entries := t.entries.filter (·.1 != server) }

/-- Counts a failure and returns the delay before the next attempt. -/
def recordFailure (t : BackoffTracker) (server : Int) (now : Int) : Nat × BackoffTracker :=
  let f := Nat.min (t.failures server + 1) failureLimit
  let delay := t.delayFor f
  let e : BackoffEntry := ⟨f, now + delay⟩
  (delay, { t with entries := (server, e) :: t.entries.filter (·.1 != server) })

end BackoffTracker

end StreamWarden
