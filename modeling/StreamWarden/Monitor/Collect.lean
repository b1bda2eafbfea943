import StreamWarden.Store.Sessions
import StreamWarden.Store.Users
import StreamWarden.Store.Retention
import StreamWarden.Media.Adapter

/-!
# Collecting sessions

A poll of a server asks its adapter for the sessions playing now and brings the store in line
with the answer:

1. each session seen (the last report of a key winning) is written, with the account it
   resolves to, in key order;
2. each change against the previous poll is logged as a lifecycle event, in key order, with a
   payload giving both states, the progress and whether it is transcoded;
3. each session of the previous poll that is gone is finished, in key order.

The writes are not undone when a later one fails. Whatever the outcome, the server's status and
check time are written: `up` after a successful poll; after a failed one, `up` while one of its
sessions was seen within the grace window, else `down` for an unreachable server and `unknown`
for any other failure.
-/

namespace StreamWarden

/-- Settings of the collector. -/
structure CollectorConfig where
  /-- A failing server whose sessions were seen this recently (ms) stays up. -/
  graceWindowMs : Int := 180000
  deriving Repr

/-- What one successful poll did. -/
structure CollectOutcome where
  serverId : Int
  sessionsSeen : Nat
  /-- Lifecycle events logged, `stop` events included. -/
  events : Nat
  stopped : Nat
  deriving DecidableEq, Repr

/-- A failed poll in a round over all servers. -/
structure CollectFailure where
  serverId : Int
  message : String
  deriving DecidableEq, Repr

/-- What a round over all servers did. -/
structure CollectReport where
  servers : Nat := 0
  sessionsSeen : Nat := 0
  events : Nat := 0
  errors : List CollectFailure := []
  deriving DecidableEq, Repr

/-- Adds the result of one poll to a round's report. -/
def CollectReport.record (r : CollectReport) (serverId : Int) :
    Except AppError CollectOutcome → CollectReport
  | .ok o => { r with servers := r.servers + 1, sessionsSeen := r.sessionsSeen + o.sessionsSeen
                      events := r.events + o.events }
  | .error e => { r with servers := r.servers + 1, errors := r.errors ++ [⟨serverId, e.message⟩] }

/-- The class of a failed poll. -/
def failureClass : AppError → FailureClass
  | .provider p => p.classify
  | .configuration _ => .config
  | _ => .other

/-- The status a failed poll leaves when no session is within the grace window. -/
def statusForFailure : FailureClass → ServerStatus
  | .unreachable => .down
  | _ => .unknown

/-- The payload of a lifecycle event. -/
def eventPayload (t : Transition) (x : NormalizedSession) : Json :=
  Json.object [("from", .optStr (t.fromState.map (·.name))), ("to", .str t.toState.name),
    ("progress_ms", .optInt x.progressMs), ("is_transcode", .bool x.isTranscode)]

/-- The states of a server's live sessions, in key order: what its next poll compares with. -/
def Store.previousStates (s : Store) (serverId : Int) : PreviousStates :=
  (s.liveOf serverId).map fun r => (r.sessionKey, r.state)

/-- The lifecycle event a transition logs (its id is given by the store). -/
def transitionEvent (serverId : Int) (provider : ProviderKind) (now : Int)
    (accounts : List (String × Option Int)) (t : Transition) (x : NormalizedSession) : EventRow :=
  { id := 0, serverId, provider, eventType := t.event, ts := now, sessionKey := t.sessionKey
    mediaUserId := (accounts.lookup t.sessionKey).bind id
    externalUserId := x.externalUserId, mediaKey := x.mediaKey, title := x.title
    payloadJson := some (eventPayload t x) }

section Collect

variable {m : Type → Type} [Monad m] [MonadStateOf Store m]

/-- Applies a write to the store, failing without a change when it is refused. -/
def writeStore {α : Type} (f : Store → Except AppError (α × Store)) : ExceptT AppError m α := do
  match f (← get) with
  | .ok (a, s) => set s; pure a
  | .error e => throw e

/-- Writes each session of a poll with its account, in key order. -/
def writeSessions (serverId now : Int) :
    List (String × NormalizedSession) → ExceptT AppError m (List (String × Option Int))
  | [] => pure []
  | (key, x) :: rest => do
    let account := (← get).resolveAccount serverId x.externalUserId x.username
    writeStore fun s => (s.upsertLive x account now).map ((), ·)
    let others ← writeSessions serverId now rest
    pure ((key, account) :: others)

/-- Logs the lifecycle events of a poll. -/
def logTransitions (serverId : Int) (provider : ProviderKind) (now : Int)
    (newMap : List (String × NormalizedSession)) (accounts : List (String × Option Int)) :
    List Transition → ExceptT AppError m Unit
  | [] => pure ()
  | t :: rest => do
    match newMap.lookup t.sessionKey with
    | none => pure ()
    | some x =>
      writeStore fun s =>
        (s.appendEvent (transitionEvent serverId provider now accounts t x)).map ((), ·)
    logTransitions serverId provider now newMap accounts rest

/-- Finishes the sessions that are gone; the number actually finished. -/
def finishVanished (serverId : Int) (provider : ProviderKind) (now : Int) :
    List String → ExceptT AppError m Nat
  | [] => pure 0
  | key :: rest => do
    let done ← writeStore fun s => s.finalize serverId provider key now
    let others ← finishVanished serverId provider now rest
    pure ((if done.isSome then 1 else 0) + others)

/-- Polls a server and brings the store in line with what it reports. -/
def pollAndPersist (factory : ServerConfig → Except ProviderError (Adapter m)) (server : ServerRow)
    (now : Int) : ExceptT AppError m CollectOutcome := do
  let config := server.config
  let adapter ← match factory config with
    | .ok a => pure a
    | .error e => throw (AppError.provider e)
  let previous := (← get).previousStates server.id
  let observed ← match ← (adapter.listSessions now : m _) with
    | .ok xs => pure xs
    | .error e => throw (AppError.provider e)
  let newMap := sessionMap observed
  let events := transitions previous newMap
  let accounts ← writeSessions server.id now newMap
  logTransitions server.id config.provider now newMap accounts events
  let stopped ← finishVanished server.id config.provider now (vanishedKeys previous newMap)
  pure { serverId := server.id, sessionsSeen := newMap.length, events := events.length + stopped
         stopped }

/-- Polls one server at `now`, then records its status. -/
def collectServer (factory : ServerConfig → Except ProviderError (Adapter m)) (config : CollectorConfig)
    (server : ServerRow) (now : Int) : m (Except AppError CollectOutcome) := do
  match ← (pollAndPersist factory server now).run with
  | .ok outcome =>
    modify (·.updateStatus server.id (some .up) now)
    pure (.ok outcome)
  | .error err =>
    let since := clampI64 (now - config.graceWindowMs)
    let status := if (← get).hasRecentLive server.id since then .up
      else statusForFailure (failureClass err)
    modify (·.updateStatus server.id (some status) now)
    pure (.error err)

/-- Polls the given servers one after another, each at the time the clock tells when its poll
starts. -/
def collectEach (factory : ServerConfig → Except ProviderError (Adapter m)) (config : CollectorConfig)
    (clock : m Int) : List ServerRow → CollectReport → m CollectReport
  | [], report => pure report
  | server :: rest, report => do
    let now ← clock
    let result ← collectServer factory config server now
    collectEach factory config clock rest (report.record server.id result)

/-- Polls every enabled server once, in id order. -/
def collectAll (factory : ServerConfig → Except ProviderError (Adapter m)) (config : CollectorConfig)
    (clock : m Int) : m CollectReport := do
  collectEach factory config clock (← get).enabledServers {}

end Collect

end StreamWarden
