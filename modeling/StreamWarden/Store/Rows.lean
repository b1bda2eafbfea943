import StreamWarden.Media.Session
import StreamWarden.Media.Server
import StreamWarden.Monitor.Diff

/-!
# Rows of the monitor's store

The store holds the configured servers and users, the sessions playing now (one row per server
and session key), the lifecycle events of sessions, the history of finished sessions, and the
enforcement log with its per-actor projection. Each row has an id that is unique in its table;
times are milliseconds since the epoch.
-/

namespace StreamWarden

/-- What the last poll of a server found out about it. -/
inductive ServerStatus where
  | up
  | down
  | unknown
  deriving DecidableEq, Repr, Inhabited

/-- The name of a server status. -/
def ServerStatus.name : ServerStatus → String
  | .up => "up"
  | .down => "down"
  | .unknown => "unknown"

/-- A configured media server. -/
structure ServerRow where
  id : Int
  name : String := ""
  kind : ProviderKind
  serverIdentifier : String := ""
  url : Option String := none
  localUrl : Option String := none
  publicUrl : Option String := none
  token : Option String := none
  settingsJson : Option String := none
  isEnabled : Bool := true
  status : ServerStatus := .unknown
  lastChecked : Option Int := none
  deriving Repr, Inhabited

/-- How to reach a configured server. -/
def ServerRow.config (s : ServerRow) : ServerConfig :=
  { id := s.id, provider := s.kind, name := s.name, url := s.url, localUrl := s.localUrl
    publicUrl := s.publicUrl, token := s.token, serverIdentifier := s.serverIdentifier
    settingsJson := s.settingsJson }

/-- A person known to the monitor, across servers. -/
structure PersonRow where
  id : Int
  username : Option String := none
  maxStreamsOverride : Option Int := none
  deriving Repr, Inhabited

/-- An account on one media server, possibly tied to a person. -/
structure AccountRow where
  id : Int
  serverId : Int
  vodumUserId : Option Int := none
  externalUserId : Option String := none
  username : Option String := none
  deriving Repr, Inhabited

/-- A library section of a server. -/
structure LibraryRow where
  id : Nat
  serverId : Int
  sectionId : String
  name : String
  deriving Repr, Inhabited

/-- A session playing now. -/
structure LiveRow where
  id : Nat
  serverId : Int
  sessionKey : String
  mediaUserId : Option Int := none
  externalUserId : Option String := none
  username : Option String := none
  mediaKey : Option String := none
  mediaType : MediaType := .other
  title : Option String := none
  grandparentTitle : Option String := none
  parentTitle : Option String := none
  seasonEpisode : Option String := none
  state : PlaybackState := .unknown
  progressMs : Option Int := none
  durationMs : Option Int := none
  isTranscode : Bool := false
  wasTranscode : Bool := false
  playMethod : PlayMethod := .unknown
  videoDecision : Option String := none
  audioDecision : Option String := none
  bitrateKbps : Option Int := none
  peakBitrateKbps : Option Int := none
  videoCodec : Option String := none
  audioCodec : Option String := none
  mediaHeight : Option Int := none
  clientName : Option String := none
  clientProduct : Option String := none
  device : Option String := none
  ip : Option String := none
  librarySectionId : Option String := none
  startedAt : Int
  lastSeenAt : Int
  rawJson : Option String := none
  deriving Repr, Inhabited

/-- A lifecycle event of a session. -/
structure EventRow where
  id : Nat
  serverId : Int
  provider : ProviderKind
  eventType : LifecycleEvent
  ts : Int
  sessionKey : String
  mediaUserId : Option Int := none
  externalUserId : Option String := none
  mediaKey : Option String := none
  title : Option String := none
  /-- The payload, a JSON object; the store keeps its compact text. -/
  payloadJson : Option Json := none
  deriving Repr, Inhabited

/-- A finished session. -/
structure HistoryRow where
  id : Nat
  serverId : Int
  provider : ProviderKind
  sessionKey : String
  mediaKey : Option String := none
  externalUserId : Option String := none
  mediaUserId : Option Int := none
  mediaType : MediaType := .other
  title : Option String := none
  grandparentTitle : Option String := none
  parentTitle : Option String := none
  seasonEpisode : Option String := none
  startedAt : Int
  stoppedAt : Int
  durationMs : Option Int := none
  watchMs : Int := 0
  peakBitrateKbps : Option Int := none
  wasTranscode : Bool := false
  playMethod : PlayMethod := .unknown
  clientName : Option String := none
  clientProduct : Option String := none
  device : Option String := none
  ip : Option String := none
  librarySectionId : Option String := none
  libraryName : Option String := none
  rawJson : Option String := none
  deriving Repr, Inhabited

/-- The checks of the history table: the time watched is not negative, and a session does not
stop before it starts. -/
def HistoryRow.passesChecks (h : HistoryRow) : Bool :=
  decide (0 ≤ h.watchMs) && decide (h.startedAt ≤ h.stoppedAt)

/-- What the enforcer did about an actor: warn first, kill later. -/
inductive EnforcementAction where
  | warn
  | kill
  deriving DecidableEq, Repr, Inhabited

/-- The name of an enforcement action. -/
def EnforcementAction.name : EnforcementAction → String
  | .warn => "warn"
  | .kill => "kill"

/-- An entry of the enforcement log. -/
structure EnforcementRow where
  id : Nat
  policyId : Int
  serverId : Int
  provider : String
  sessionKey : String
  actorKey : String
  vodumUserId : Option Int := none
  externalUserId : Option String := none
  action : EnforcementAction
  reason : String
  succeeded : Bool
  createdAt : Int
  deriving Repr, Inhabited

/-- What the enforcement log says about one actor under one policy on one server. -/
structure EnforcementState where
  id : Nat
  policyId : Int
  serverId : Int
  actorKey : String
  firstSeenAt : Int
  lastSeenAt : Int
  warnedAt : Option Int := none
  killedAt : Option Int := none
  lastReason : Option String := none
  deriving Repr, Inhabited

/-- The global switches. -/
structure Settings where
  enforcementEnabled : Bool := true
  monitoringEnabled : Bool := true
  dataRetentionYears : Int := 0
  logFilter : Option String := none
  deriving DecidableEq, Repr, Inhabited

end StreamWarden
