import StreamWarden.Store.Sessions
import StreamWarden.Store.Enforcements
import StreamWarden.Enforce.Evaluate
import StreamWarden.Enforce.Select
import StreamWarden.Media.Adapter
import StreamWarden.Store.Retention

/-!
# The enforcement tick

A tick evaluates every enabled policy (by priority, then id; unreadable ones are skipped) over
the sessions seen within the live window, and handles each violation in turn:

1. the session to act on is selected; without one, or without its server, nothing is done;
2. unless the actor was warned under this policy on this server within the cooldown, it is
   warned: a Jellyfin client gets a message, a Plex warning counts as delivered at once; the
   warning is logged, with the failure in its reason when the message failed;
3. after the recheck delay the policy is evaluated again over a fresh live view; when the same
   violation (kind, server, actor) is gone, or has no session to act on, it has cleared;
4. otherwise a Jellyfin client gets one more message per pre-kill tick of the pre-kill window,
   and the selected session is stopped with the policy's kill message; the kill is logged as
   succeeded only when the server confirmed it.

Every time the enforcer uses is read from a clock when it is used: the live window from the wall
clock before each live view, the cooldown from it before each warning, the date of each log entry
from it as the entry is written, and the pre-kill window from the monotonic clock. A pause fails
when shutdown was requested before it ended, and the report then says the tick was abandoned.
While the tick waits, other writers may change the store. A failure while handling one violation
counts as failed and does not stop the others.
-/

namespace StreamWarden

/-- Settings of the enforcer, in milliseconds. -/
structure EnforcerConfig where
  warnCooldownMs : Int := 300000
  recheckDelayMs : Int := 30000
  prekillWindowMs : Int := 60000
  prekillTickMs : Int := 10000
  prekillToastTimeoutMs : Nat := 50000
  warnToastTimeoutMs : Nat := 8000
  liveWindowMs : Int := 120000
  providerTimeoutMs : Int := 20000
  deriving Repr

/-- What a tick did. -/
structure TickReport where
  policies : Nat := 0
  liveSessions : Nat := 0
  violations : Nat := 0
  warned : Nat := 0
  cleared : Nat := 0
  killed : Nat := 0
  failed : Nat := 0
  abandoned : Bool := false
  deriving DecidableEq, Repr

/-- What became of one violation. -/
inductive ViolationOutcome where
  | skipped
  | cleared
  | killed
  | killFailed
  deriving DecidableEq, Repr

/-- The log entry of an action on a violation's selected session. -/
def enforcementEntry (v : Violation) (target : LiveSession) (action : EnforcementAction)
    (reason : String) (succeeded : Bool) : EnforcementEntry :=
  { policyId := v.policyId, serverId := v.serverId, provider := v.provider
    sessionKey := target.sessionKey, actorKey := v.actorKey
    vodumUserId := v.vodumUserId.orElse fun _ => target.vodumUserId
    externalUserId := v.externalUserId.orElse fun _ => target.externalUserId
    action, reason, succeeded }

/-- What a tick meets besides the store: the wall clock, the monotonic clock (both in
milliseconds), and its pauses, each of which tells whether shutdown was requested before it ended.
Other writers may change the store while the tick waits. -/
structure TickWorld (m : Type → Type) where
  now : m Int
  instant : m Int
  pause : Int → m Bool

/-- The start of the live window at `now`. -/
def liveSince (config : EnforcerConfig) (now : Int) : Int := clampI64 (now - config.liveWindowMs)

/-- The actor was warned under the policy within the cooldown. -/
def warnedRecently (config : EnforcerConfig) (lastWarned : Option Int) (now : Int) : Bool :=
  match lastWarned with
  | some warnedAt => clampI64 (now - warnedAt) < config.warnCooldownMs
  | none => false

section Tick

variable {m : Type → Type} [Monad m] [MonadStateOf Store m]

/-- Waits, and fails when shutdown was requested before the wait ended. -/
def pauseFor (W : TickWorld m) (ms : Int) : ExceptT AppError m Unit := do
  if ← (W.pause ms : m Bool) then throw .unavailable

/-- Logs an action, dated by the wall clock. -/
def logAction (W : TickWorld m) (entry : EnforcementEntry) : ExceptT AppError m Unit := do
  let now ← (W.now : m Int)
  match (← get).recordAction entry now with
  | .ok s => set s
  | .error e => throw e

/-- Whether a warning reached the viewer, and the reason to log, from the answer of its message. -/
def warnDelivery (v : Violation) : Except ProviderError Bool → Bool × String
  | .ok delivered => (delivered, v.reason)
  | .error e => (false, v.reason ++ " (" ++ e.message ++ ")")

/-- Warns the actor of a violation through its selected session, and logs the warning. -/
def warnActor (W : TickWorld m) (config : EnforcerConfig) (adapter : Adapter m) (v : Violation)
    (target : LiveSession) : ExceptT AppError m Unit := do
  let (succeeded, reason) ← match adapter.kind with
    | .jellyfin => do
      let sessionId := Jellyfin.controlSessionId target.sessionKey target.raw
      let answer ← (adapter.sendMessage sessionId v.warnTitle v.warnText config.warnToastTimeoutMs : m _)
      pure (warnDelivery v answer)
    | .plex => pure (true, v.reason)
  logAction W (enforcementEntry v target .warn reason succeeded)

/-- The rounds of pre-kill messages from `start` on the monotonic clock: a message per round
until the window has passed, each round then waiting a pre-kill tick or what is left of the
window; failures of the messages are ignored. -/
def prekillRound (W : TickWorld m) (config : EnforcerConfig) (adapter : Adapter m) (v : Violation)
    (target : LiveSession) (start : Int) : Nat → ExceptT AppError m Unit
  | 0 => pure ()
  | fuel + 1 => do
    let elapsed := (← (W.instant : m Int)) - start
    if elapsed ≥ config.prekillWindowMs then return
    let sessionId := Jellyfin.controlSessionId target.sessionKey target.raw
    let _ ← (adapter.sendMessage sessionId v.warnTitle v.warnText config.prekillToastTimeoutMs : m _)
    let wait := min config.prekillTickMs (config.prekillWindowMs - elapsed)
    if wait ≤ 0 then return
    pauseFor W wait
    prekillRound W config adapter v target start fuel

/-- How many rounds of pre-kill messages fit in the window, with room for the last check, when
each pause lasts at least its wait. -/
def prekillRounds (config : EnforcerConfig) : Nat :=
  (config.prekillWindowMs / max config.prekillTickMs 1).toNat + 2

/-- The messages before a Jellyfin kill, over the pre-kill window from now. -/
def prekillToasts (W : TickWorld m) (config : EnforcerConfig) (adapter : Adapter m)
    (v : Violation) (target : LiveSession) : ExceptT AppError m Unit := do
  let start ← (W.instant : m Int)
  prekillRound W config adapter v target start (prekillRounds config)

/-- Whether a kill succeeded, and the reason to log, from the answer of the stop. -/
def killResult (v : Violation) : Except ProviderError Bool → Bool × String
  | .ok true => (true, v.reason)
  | .ok false => (false, v.reason ++ " (terminate not supported)")
  | .error e => (false, v.reason ++ " (" ++ e.message ++ ")")

/-- Stops the selected session of a violation and logs the kill. -/
def killTarget (W : TickWorld m) (adapter : Adapter m) (v : Violation) (target : LiveSession) :
    ExceptT AppError m ViolationOutcome := do
  let answer ← (adapter.terminate target.sessionKey v.killReason : m _)
  let (succeeded, reason) := killResult v answer
  logAction W (enforcementEntry v target .kill reason succeeded)
  pure (if succeeded then .killed else .killFailed)

/-- Stops the selected session of a violation, after the pre-kill messages to a Jellyfin
client. -/
def killWithNotice (W : TickWorld m) (config : EnforcerConfig) (adapter : Adapter m) (v : Violation)
    (target : LiveSession) : ExceptT AppError m ViolationOutcome := do
  if adapter.kind == .jellyfin then
    prekillToasts W config adapter v target
  killTarget W adapter v target

/-- After the warning: the pause, the recheck over a fresh live view, and the kill when the
violation persists. -/
def recheckAndKill (W : TickWorld m) (config : EnforcerConfig) (adapter : Adapter m)
    (policy : Policy) (overrides : Overrides) (v : Violation) :
    ExceptT AppError m ViolationOutcome := do
  pauseFor W config.recheckDelayMs
  let now ← (W.now : m Int)
  let live := (← get).liveView (liveSince config now)
  match (policy.evaluate live overrides).find? (·.sameAs v) with
  | none => pure .cleared
  | some current =>
    match selectTarget current.sessions current.selector with
    | none => pure .cleared
    | some target => killWithNotice W config adapter current target

/-- Warns the actor of a violation unless it was warned under the policy on the server within
the cooldown; tells whether it warned. -/
def warnUnlessRecent (W : TickWorld m) (config : EnforcerConfig) (adapter : Adapter m)
    (policy : Policy) (v : Violation) (target : LiveSession) : ExceptT AppError m Bool := do
  let lastWarned := (← get).lastWarnedAt policy.id v.serverId v.actorKey
  let now ← (W.now : m Int)
  if warnedRecently config lastWarned now then
    pure false
  else
    warnActor W config adapter v target
    pure true

/-- Handles one violation: whether a warning was given, and what became of it. -/
def handleViolation (W : TickWorld m) (factory : ServerConfig → Except ProviderError (Adapter m))
    (config : EnforcerConfig) (policy : Policy) (overrides : Overrides) (v : Violation) :
    m (Bool × Except AppError ViolationOutcome) := do
  match selectTarget v.sessions v.selector with
  | none => pure (false, .ok .skipped)
  | some target =>
    match (← get).server? v.serverId with
    | none => pure (false, .ok .skipped)
    | some server =>
      match factory server.config with
      | .error e => pure (false, .error (.provider e))
      | .ok adapter =>
        match ← (warnUnlessRecent W config adapter policy v target).run with
        | .error e => pure (false, .error e)
        | .ok w => pure (w, ← (recheckAndKill W config adapter policy overrides v).run)

/-- Handles the violations in turn, adding to the report; stops when shutdown was requested. -/
def handleEach (W : TickWorld m) (factory : ServerConfig → Except ProviderError (Adapter m))
    (config : EnforcerConfig) (overrides : Overrides) :
    List (Policy × Violation) → TickReport → m TickReport
  | [], report => pure report
  | (policy, v) :: rest, report => do
    let report := { report with violations := report.violations + 1 }
    let (warned, outcome) ← handleViolation W factory config policy overrides v
    let report := if warned then { report with warned := report.warned + 1 } else report
    match outcome with
    | .ok .skipped => handleEach W factory config overrides rest report
    | .ok .cleared => handleEach W factory config overrides rest { report with cleared := report.cleared + 1 }
    | .ok .killed => handleEach W factory config overrides rest { report with killed := report.killed + 1 }
    | .ok .killFailed => handleEach W factory config overrides rest { report with failed := report.failed + 1 }
    | .error .unavailable => pure { report with abandoned := true }
    | .error _ => handleEach W factory config overrides rest { report with failed := report.failed + 1 }

/-- One enforcement pass over every enabled policy. -/
def runTick (W : TickWorld m) (factory : ServerConfig → Except ProviderError (Adapter m))
    (config : EnforcerConfig) : m TickReport := do
  let store ← get
  if !store.currentSettings.enforcementEnabled then return {}
  let policies := store.enabledPolicies.filterMap fun row => (Policy.ofRow row).toOption
  if policies.isEmpty then return { policies := policies.length }
  let overrides := store.streamOverrides
  let now ← W.now
  let live := (← get).liveView (liveSince config now)
  let report : TickReport := { policies := policies.length, liveSessions := live.length }
  if live.isEmpty then return report
  let work := policies.flatMap fun p => (p.evaluate live overrides).map (p, ·)
  handleEach W factory config overrides work report

end Tick

end StreamWarden
