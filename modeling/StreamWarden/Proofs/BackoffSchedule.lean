import Mathlib
import StreamWarden.Schedule.Backoff
import StreamWarden.Proofs.KeyedTables

/-!
# Backoff schedules

The delay after `f` consecutive failures doubles with each failure until it reaches the cap, and
the doubling stops after 31 failures: the delay is `min (base * 2 ^ min f 31) (max cap base)`, so
it grows with `f` and stays between the base and the cap (`delayFor_create`,
`delayFor_monotone`, `base_le_delayFor`).

Over any sequence of failures and successes, a server's entry is determined by the calls since
its last success (`entry?_replay`): the failure count is the number of failures since then,
stopping at the largest 32-bit value, and the server is due again once the delay of that count
has passed since its last failure. `backoff_schedule` gathers these facts; that the doubling does
stop is shown by a tiny base under a large cap (`delayFor_stops_doubling`).
-/

namespace StreamWarden

namespace BackoffTracker

/-! ### The delay -/

theorem delayFor_eq (t : BackoffTracker) (f : Nat) :
    t.delayFor f = min (t.base * 2 ^ min f 31) t.cap := rfl

theorem delayFor_create (base cap f : Nat) :
    (create base cap).delayFor f = min (base * 2 ^ min f 31) (max cap base) := rfl

theorem delayFor_monotone (t : BackoffTracker) : Monotone t.delayFor := by
  intro f g hfg
  have hpow : 2 ^ min f 31 ≤ 2 ^ min g 31 := Nat.pow_le_pow_right (by decide) (by omega)
  have hmul : t.base * 2 ^ min f 31 ≤ t.base * 2 ^ min g 31 := Nat.mul_le_mul_left _ hpow
  simp only [delayFor_eq]
  omega

theorem delayFor_le_cap (t : BackoffTracker) (f : Nat) : t.delayFor f ≤ t.cap :=
  min_le_right _ _

theorem base_le_delayFor (base cap f : Nat) : base ≤ (create base cap).delayFor f := by
  have hpow : 1 ≤ 2 ^ min f 31 := Nat.one_le_two_pow
  rw [delayFor_create]
  exact le_min (Nat.le_mul_of_pos_right base hpow) (le_max_right cap base)

/-- Past 31 failures the delay no longer doubles: with a base of one millisecond and a cap of
`2 ^ 40` milliseconds, the delay after 40 failures is `2 ^ 31` milliseconds, not the cap. -/
theorem delayFor_stops_doubling :
    (create 1 (2 ^ 40)).delayFor 40 ≠ min (1 * 2 ^ 40) (max (2 ^ 40) 1) := by
  rw [delayFor_create]
  decide

/-! ### Entries -/

theorem entry?_recordSuccess (t : BackoffTracker) (server other : Int) :
    entry? (t.recordSuccess other) server = if server = other then none else t.entry? server :=
  lookup_filter_ne t.entries server other

theorem entry?_recordFailure (t : BackoffTracker) (server other now : Int) :
    entry? (t.recordFailure other now).2 server =
      if server = other then
        let f := min (t.failures other + 1) failureLimit
        some ⟨f, now + t.delayFor f⟩
      else t.entry? server := by
  simp only [recordFailure, entry?, lookup_cons_eq_ite, lookup_filter_ne]
  by_cases hs : server = other <;> simp [hs]

@[simp] theorem recordFailure_base (t : BackoffTracker) (server now : Int) :
    (t.recordFailure server now).2.base = t.base := rfl

@[simp] theorem recordFailure_cap (t : BackoffTracker) (server now : Int) :
    (t.recordFailure server now).2.cap = t.cap := rfl

theorem failures_eq (t : BackoffTracker) (server : Int) :
    t.failures server = ((t.entry? server).map (·.failures)).getD 0 := rfl

/-! ### Runs of calls -/

/-- One call that changes a tracker: a failure of a server at an instant, or a success. -/
inductive Call where
  | failure (server : Int) (now : Int)
  | success (server : Int)
  deriving DecidableEq, Repr

/-- The tracker after one call. -/
def perform (t : BackoffTracker) : Call → BackoffTracker
  | .failure server now => (t.recordFailure server now).2
  | .success server => t.recordSuccess server

/-- The tracker after a sequence of calls, in order. -/
def replay (t : BackoffTracker) (calls : List Call) : BackoffTracker := calls.foldl perform t

/-- The instant of a call when it is a failure of `server`. -/
def Call.failureOf? (server : Int) : Call → Option Int
  | .failure s now => if s = server then some now else none
  | .success _ => none

/-- The calls after the last success of `server`, latest first. -/
def sinceSuccess (server : Int) (calls : List Call) : List Call :=
  calls.reverse.takeWhile (· ≠ .success server)

/-- The failures of `server` since its last success. -/
def failuresSince (server : Int) (calls : List Call) : Nat :=
  (sinceSuccess server calls).countP fun c => (c.failureOf? server).isSome

/-- The instant of the last failure of `server` since its last success. -/
def lastFailure? (server : Int) (calls : List Call) : Option Int :=
  (sinceSuccess server calls).findSome? (·.failureOf? server)

theorem sinceSuccess_append_singleton (server : Int) (calls : List Call) (c : Call) :
    sinceSuccess server (calls ++ [c]) =
      if c = .success server then [] else c :: sinceSuccess server calls := by
  by_cases hc : c = .success server <;> simp [sinceSuccess, hc]

theorem failuresSince_eq_zero (server : Int) (calls : List Call)
    (h : lastFailure? server calls = none) : failuresSince server calls = 0 := by
  simp only [lastFailure?, List.findSome?_eq_none_iff] at h
  rw [failuresSince, List.countP_eq_zero]
  intro c hc
  simp [h c hc]

@[simp] theorem delayFor_perform (t : BackoffTracker) (c : Call) :
    (t.perform c).delayFor = t.delayFor := by
  cases c <;> rfl

@[simp] theorem delayFor_replay (t : BackoffTracker) (calls : List Call) :
    (t.replay calls).delayFor = t.delayFor := by
  induction calls generalizing t with
  | nil => rfl
  | cons c calls ih => rw [replay, List.foldl_cons, ← replay, ih, delayFor_perform]

/-- The entry of `server` after `calls`, read off the calls since its last success: none without
a failure, else the failures counted (stopping at the limit) and the end of the last one's delay. -/
def entryAfter (t : BackoffTracker) (server : Int) (calls : List Call) : Option BackoffEntry :=
  (lastFailure? server calls).map fun last =>
    let f := min (failuresSince server calls) failureLimit
    ⟨f, last + t.delayFor f⟩

/-- The count an entry read off the calls holds: the failures since the last success, stopping
at the limit (none recorded reads as zero). -/
theorem failures_entryAfter (t : BackoffTracker) (server : Int) (calls : List Call) :
    ((entryAfter t server calls).map (·.failures)).getD 0 =
      min (failuresSince server calls) failureLimit := by
  rw [entryAfter]
  cases hlast : lastFailure? server calls with
  | none => simp [failuresSince_eq_zero server calls hlast]
  | some last => rfl

/-- A failure of another server, or a success of another server, leaves an entry alone. -/
theorem entryAfter_append_other (t : BackoffTracker) (server : Int) (calls : List Call) (c : Call)
    (hc : c.failureOf? server = none) (hs : c ≠ .success server) :
    entryAfter t server (calls ++ [c]) = entryAfter t server calls := by
  simp [entryAfter, lastFailure?, failuresSince, sinceSuccess_append_singleton, hs, hc]

/-- The step of the run: one call changes the entry of `server` as `entryAfter` predicts. -/
theorem entry?_perform (t u : BackoffTracker) (server : Int) (calls : List Call) (c : Call)
    (hdelay : u.delayFor = t.delayFor) (hentry : u.entry? server = entryAfter t server calls) :
    entry? (u.perform c) server = entryAfter t server (calls ++ [c]) := by
  cases c with
  | success other =>
    rw [perform, entry?_recordSuccess]
    by_cases hs : server = other
    · subst hs
      simp [entryAfter, lastFailure?, sinceSuccess_append_singleton]
    · rw [if_neg hs, entryAfter_append_other t server calls _ rfl (by simpa using Ne.symm hs)]
      exact hentry
  | failure other now =>
    rw [perform, entry?_recordFailure]
    by_cases hs : server = other
    · subst hs
      have hfailures : u.failures server = min (failuresSince server calls) failureLimit := by
        rw [failures_eq, hentry, failures_entryAfter]
      have hcount : min (u.failures server + 1) failureLimit =
          min (failuresSince server calls + 1) failureLimit := by
        rw [hfailures]
        omega
      simp [entryAfter, lastFailure?, failuresSince, sinceSuccess_append_singleton,
        Call.failureOf?, hcount, hdelay]
    · rw [if_neg hs, entryAfter_append_other t server calls _ (by simp [Call.failureOf?, Ne.symm hs])
        (by simp)]
      exact hentry

/-- A run continued: a tracker whose entry matches the calls so far keeps matching them as
more calls come. -/
theorem entry?_replay_from (t u : BackoffTracker) (server : Int) (pre calls : List Call)
    (hdelay : u.delayFor = t.delayFor) (hentry : u.entry? server = entryAfter t server pre) :
    entry? (u.replay calls) server = entryAfter t server (pre ++ calls) := by
  induction calls generalizing u pre with
  | nil => simpa [replay] using hentry
  | cons c calls ih =>
    rw [replay, List.foldl_cons, ← replay, ← List.singleton_append, ← List.append_assoc]
    apply ih _ _ (by rw [delayFor_perform, hdelay])
    exact entry?_perform t u server pre c hdelay hentry

/-- The run: after any calls from a fresh tracker, the entry of each server is the one
`entryAfter` reads off the calls since its last success. -/
theorem entry?_replay (base cap : Nat) (server : Int) (calls : List Call) :
    entry? ((create base cap).replay calls) server = entryAfter (create base cap) server calls :=
  entry?_replay_from _ _ server [] calls rfl rfl

theorem failures_replay (base cap : Nat) (server : Int) (calls : List Call) :
    ((create base cap).replay calls).failures server =
      min (failuresSince server calls) failureLimit := by
  rw [failures_eq, entry?_replay, failures_entryAfter]

theorem isDue_replay (base cap : Nat) (server now : Int) (calls : List Call) :
    let t := (create base cap).replay calls
    t.isDue server now = true ↔
      ∀ last, lastFailure? server calls = some last → last + t.delayFor (t.failures server) ≤ now := by
  intro t
  rw [delayFor_replay, failures_replay]
  simp only [isDue, t, entry?_replay, entryAfter]
  cases lastFailure? server calls with
  | none => simp
  | some last => simp

/-- Backoff after failed collections: the delay after `f` failures is
`min (base * 2 ^ min f 31) (max cap base)`, growing with `f` and between the base and the cap;
after any calls, a server's failures are those since its last success (stopping at the limit),
and it is due once the delay of that count has passed since its last failure. -/
theorem backoff_schedule (base cap : Nat) :
    (∀ f, (create base cap).delayFor f = min (base * 2 ^ min f 31) (max cap base)) ∧
    Monotone (create base cap).delayFor ∧
    (∀ f, base ≤ (create base cap).delayFor f ∧ (create base cap).delayFor f ≤ max cap base) ∧
    ∀ calls server now,
      let t := (create base cap).replay calls
      t.failures server = min (failuresSince server calls) failureLimit ∧
      (t.isDue server now = true ↔
        ∀ last, lastFailure? server calls = some last →
          last + t.delayFor (t.failures server) ≤ now) :=
  ⟨delayFor_create base cap, delayFor_monotone _,
    fun f => ⟨base_le_delayFor base cap f, delayFor_le_cap _ f⟩,
    fun calls server now => ⟨failures_replay base cap server calls, isDue_replay base cap server now calls⟩⟩

end BackoffTracker

end StreamWarden
