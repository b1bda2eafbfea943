import StreamWarden.Store.Basic
import StreamWarden.Enforce.LiveSession
import StreamWarden.Json.Writer

/-!
# Sessions in the store

A poll writes each session it sees into the row of its server and session key. A new row
starts when the session says it started, but not later than now; an existing row keeps its
start, its first known titles and its highest bit rate, remembers whether it was ever
transcoded, keeps its earlier user, media and library details when the new report lacks them,
and takes everything else from the new report. Its last sighting is now, but never before its
start.

A session that is gone is finished at once: a `stop` event is logged, a history row is written
(unless one for the same server, key and start exists, or the row fails the history table's
checks: the write ignores such a row), and the live row is deleted.
-/

namespace StreamWarden

/-- What finishing a session wrote. -/
structure Finalized where
  sessionKey : String
  startedAt : Int
  stoppedAt : Int
  watchMs : Int
  historyWritten : Bool
  deriving DecidableEq, Repr

/-- The later of two optional values: a missing one is ignored. -/
def maxKnown : Option Int → Option Int → Option Int
  | some a, some b => some (max a b)
  | some a, none => some a
  | none, b => b

namespace Store

/-- The live rows of a server, in session key order. -/
def liveOf (s : Store) (serverId : Int) : List LiveRow :=
  (s.live.filter (·.serverId == serverId)).mergeSort fun a b => decide (a.sessionKey ≤ b.sessionKey)

/-- The live row of a server and session key. -/
def liveRow? (s : Store) (serverId : Int) (key : String) : Option LiveRow :=
  s.live.find? fun r => r.serverId == serverId && r.sessionKey == key

/-- The account with an id exists. -/
def hasAccount (s : Store) (id : Int) : Bool := s.accounts.any (·.id == id)

/-- The raw report of a session as it is stored: its JSON text, none for `null`. -/
def rawText (raw : Json) : Option String :=
  match raw with
  | .null => none
  | j => some j.render

/-- The row a first report of a session makes, with a given id. -/
def freshRow (id : Nat) (x : NormalizedSession) (account : Option Int) (now : Int) : LiveRow :=
  { id, serverId := x.serverId, sessionKey := x.sessionKey, mediaUserId := account
    externalUserId := x.externalUserId, username := x.username, mediaKey := x.mediaKey
    mediaType := x.mediaType, title := x.title, grandparentTitle := x.grandparentTitle
    parentTitle := x.parentTitle, seasonEpisode := x.seasonEpisode, state := x.state
    progressMs := x.progressMs, durationMs := x.durationMs, isTranscode := x.isTranscode
    wasTranscode := x.isTranscode, playMethod := x.playMethod, videoDecision := x.videoDecision
    audioDecision := x.audioDecision, bitrateKbps := x.bitrateKbps
    peakBitrateKbps := x.bitrateKbps, videoCodec := x.videoCodec, audioCodec := x.audioCodec
    mediaHeight := x.mediaHeight, clientName := x.clientName, clientProduct := x.clientProduct
    device := x.device, ip := x.ip, librarySectionId := x.librarySectionId
    startedAt := min (x.startedAt.getD now) now, lastSeenAt := now, rawJson := rawText x.raw }

/-- A row refreshed by a new report of its session. -/
def refreshRow (old : LiveRow) (x : NormalizedSession) (account : Option Int) (now : Int) : LiveRow :=
  { old with
    mediaUserId := account.orElse fun _ => old.mediaUserId
    externalUserId := x.externalUserId.orElse fun _ => old.externalUserId
    username := x.username.orElse fun _ => old.username
    mediaKey := x.mediaKey.orElse fun _ => old.mediaKey
    mediaType := x.mediaType
    title := old.title.orElse fun _ => x.title
    grandparentTitle := old.grandparentTitle.orElse fun _ => x.grandparentTitle
    parentTitle := old.parentTitle.orElse fun _ => x.parentTitle
    seasonEpisode := old.seasonEpisode.orElse fun _ => x.seasonEpisode
    state := x.state
    progressMs := x.progressMs.orElse fun _ => old.progressMs
    durationMs := x.durationMs.orElse fun _ => old.durationMs
    isTranscode := x.isTranscode
    wasTranscode := old.wasTranscode || x.isTranscode
    playMethod := x.playMethod
    videoDecision := x.videoDecision
    audioDecision := x.audioDecision
    bitrateKbps := x.bitrateKbps
    peakBitrateKbps := maxKnown old.peakBitrateKbps x.bitrateKbps
    videoCodec := x.videoCodec
    audioCodec := x.audioCodec
    mediaHeight := x.mediaHeight.orElse fun _ => old.mediaHeight
    clientName := x.clientName
    clientProduct := x.clientProduct
    device := x.device
    ip := x.ip
    librarySectionId := x.librarySectionId.orElse fun _ => old.librarySectionId
    lastSeenAt := max now old.startedAt
    rawJson := rawText x.raw }

/-- Puts a report of a session seen at `now` into the live table: the row of its server and key
is refreshed, or a new row is added. -/
def putLive (s : Store) (x : NormalizedSession) (account : Option Int) (now : Int) : Store :=
  match s.liveRow? x.serverId x.sessionKey with
  | some old =>
    { s with live := s.live.map fun r => if r.id == old.id then refreshRow old x account now else r }
  | none =>
    { s with live := s.live ++ [freshRow (nextRowId (s.live.map (·.id))) x account now] }

/-- Writes a report of a session seen at `now`, with the account it belongs to. -/
def upsertLive (s : Store) (x : NormalizedSession) (account : Option Int) (now : Int) :
    Except AppError Store :=
  if (s.server? x.serverId).isNone then .error Constraint.foreignKey.toAppError
  else if (account.map fun a => !s.hasAccount a).getD false then .error Constraint.foreignKey.toAppError
  else .ok (s.putLive x account now)

/-- Appends a lifecycle event (its id is given by the store). -/
def appendEvent (s : Store) (e : EventRow) : Except AppError Store :=
  if (s.server? e.serverId).isNone then .error Constraint.foreignKey.toAppError
  else .ok { s with events := s.events ++ [{ e with id := nextRowId (s.events.map (·.id)) }] }

/-- Whether any live row of a server was seen at or after `since`. -/
def hasRecentLive (s : Store) (serverId since : Int) : Bool :=
  s.live.any fun r => r.serverId == serverId && r.lastSeenAt ≥ since

/-- The start a finished session is recorded with: its start, else its last sighting, else now
(a time that is not positive is unset). -/
def historyStart (row : LiveRow) (now : Int) : Int :=
  if row.startedAt > 0 then row.startedAt else if row.lastSeenAt > 0 then row.lastSeenAt else now

/-- The name of a library section of a server. -/
def libraryName? (s : Store) (serverId : Int) (sectionId : Option String) : Option String :=
  sectionId.bind fun sec =>
    (s.libraries.find? fun l => l.serverId == serverId && l.sectionId == sec).map (·.name)

/-- The payload of a `stop` event: the last state, progress and duration. -/
def stopPayload (row : LiveRow) : Json :=
  Json.object [("state", .str row.state.name), ("progress_ms", .optInt row.progressMs),
    ("duration_ms", .optInt row.durationMs)]

/-- The history row finishing the live row `row` of a server and key at `now` writes. -/
def historyEntry (s : Store) (sid : Int) (prov : ProviderKind) (k : String) (now : Int)
    (row : LiveRow) : HistoryRow :=
  let startedAt := historyStart row now
  { id := nextRowId (s.history.map (·.id)), serverId := sid, provider := prov, sessionKey := k
    mediaKey := row.mediaKey, externalUserId := row.externalUserId
    mediaUserId := row.mediaUserId, mediaType := row.mediaType, title := row.title
    grandparentTitle := row.grandparentTitle, parentTitle := row.parentTitle
    seasonEpisode := row.seasonEpisode, startedAt, stoppedAt := max now startedAt
    durationMs := row.durationMs, watchMs := max (row.progressMs.getD 0) 0
    peakBitrateKbps := row.peakBitrateKbps, wasTranscode := row.wasTranscode || row.isTranscode
    playMethod := row.playMethod, clientName := row.clientName
    clientProduct := row.clientProduct, device := row.device, ip := row.ip
    librarySectionId := row.librarySectionId
    libraryName := s.libraryName? sid row.librarySectionId, rawJson := row.rawJson }

/-- The history already has a row of the server and key with this start. -/
def historyHas (s : Store) (sid : Int) (k : String) (startedAt : Int) : Bool :=
  s.history.any fun h => h.serverId == sid && h.sessionKey == k && h.startedAt == startedAt

/-- Finishes the live session of a server and key at `now`; nothing when there is none. -/
def finalize (s : Store) (serverId : Int) (provider : ProviderKind) (key : String) (now : Int) :
    Except AppError (Option Finalized × Store) := do
  match s.liveRow? serverId key with
  | none => pure (none, s)
  | some row =>
    let s ← s.appendEvent { id := 0, serverId, provider, eventType := .stop, ts := now
                            sessionKey := key, mediaUserId := row.mediaUserId
                            externalUserId := row.externalUserId, mediaKey := row.mediaKey
                            title := row.title, payloadJson := some (stopPayload row) }
    let entry := s.historyEntry serverId provider key now row
    let written := !s.historyHas serverId key entry.startedAt && entry.passesChecks
    let s := if written then { s with history := s.history ++ [entry] } else s
    let s := { s with live := s.live.filter (·.id != row.id) }
    pure (some ⟨key, entry.startedAt, entry.stoppedAt, entry.watchMs, written⟩, s)

/-- The person behind an account. -/
def personOf (s : Store) (account : Option Int) : Option Int :=
  account.bind fun a => (s.accounts.find? (·.id == a)).bind (·.vodumUserId)

/-- A live row as the enforcer sees it, with its server's family and its person. -/
def viewOf (s : Store) (r : LiveRow) : Option LiveSession :=
  (s.server? r.serverId).map fun srv =>
    { serverId := r.serverId, provider := srv.kind.name, sessionKey := r.sessionKey
      mediaUserId := r.mediaUserId, vodumUserId := s.personOf r.mediaUserId
      externalUserId := r.externalUserId, username := r.username, title := r.title, ip := r.ip
      device := r.device, clientName := r.clientName, clientProduct := r.clientProduct
      isTranscode := r.isTranscode, bitrateKbps := r.bitrateKbps, mediaHeight := r.mediaHeight
      startedAt := r.startedAt, lastSeenAt := r.lastSeenAt, rawJson := r.rawJson }

/-- The order of the live view: by server, then start, then session key. -/
def viewBefore (a b : LiveSession) : Bool :=
  a.serverId < b.serverId ||
    (a.serverId == b.serverId && (a.startedAt < b.startedAt ||
      (a.startedAt == b.startedAt && decide (a.sessionKey ≤ b.sessionKey))))

/-- The live sessions seen at or after `since`, by server, start and session key. -/
def liveView (s : Store) (since : Int) : List LiveSession :=
  ((s.live.filter (·.lastSeenAt ≥ since)).filterMap s.viewOf).mergeSort viewBefore

/-- Moves every live session and every warning `ms` milliseconds into the past. -/
def age (s : Store) (ms : Int) : Store :=
  { s with
    live := s.live.map fun r => { r with startedAt := r.startedAt - ms, lastSeenAt := r.lastSeenAt - ms }
    states := s.states.map fun st => { st with warnedAt := st.warnedAt.map (· - ms) } }

end Store

end StreamWarden
