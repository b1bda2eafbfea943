import StreamWarden.Enforce.LiveSession
import StreamWarden.Policy.Options

/-!
# Choosing the session to stop

Sessions are ordered by when they started (the start time when it is positive, else the time
they were last seen), then by server id, then by session key in code point order. The newest
session is a greatest one in this order, the last of them when several are equal; the oldest is
a least one, the first of them when several are equal. Stopping transcodes first takes the
newest transcoding session when there is one, and the newest session otherwise.
-/

namespace StreamWarden

namespace LiveSession

/-- When a session started, for ordering: its start time if positive, else its last sighting. -/
def startTs (s : LiveSession) : Int := if s.startedAt > 0 then s.startedAt else s.lastSeenAt

/-- The order of sessions by start, then server, then key. -/
def byStart (a b : LiveSession) : Ordering :=
  (compare a.startTs b.startTs).then ((compare a.serverId b.serverId).then
    (compare a.sessionKey b.sessionKey))

end LiveSession

/-- The last of the greatest sessions. -/
def newestSession : List LiveSession → Option LiveSession
  | [] => none
  | x :: xs => some (xs.foldl (fun best y => if LiveSession.byStart best y == .gt then best else y) x)

/-- The first of the least sessions. -/
def oldestSession : List LiveSession → Option LiveSession
  | [] => none
  | x :: xs => some (xs.foldl (fun best y => if LiveSession.byStart best y == .gt then y else best) x)

/-- The session a selector chooses to stop; none only for an empty list. -/
def selectTarget (sessions : List LiveSession) : Selector → Option LiveSession
  | .killNewest => newestSession sessions
  | .killOldest => oldestSession sessions
  | .killTranscodingFirst =>
    match newestSession (sessions.filter (·.isTranscode)) with
    | some s => some s
    | none => newestSession sessions

end StreamWarden
