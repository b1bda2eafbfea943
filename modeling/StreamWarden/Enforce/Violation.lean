import StreamWarden.Enforce.LiveSession
import StreamWarden.Policy.Options

/-!
# Violations

A violation is what one policy finds wrong with the live sessions: its kind, the server, the
actor (a user, an address, or the rule itself for server-wide rules), the sessions involved, a
reason, and the settings of the policy that say how to warn and whom to stop.

Two violations are the same one seen again when their kind, server and actor agree.
-/

namespace StreamWarden

/-- The kinds of violation, one per rule. -/
inductive ViolationKind where
  | userStreams
  | userIps
  | ipStreams
  | serverTranscodes
  | transcode4k
  | bitrate
  | device
  deriving DecidableEq, Repr, Inhabited

/-- The name of a kind. -/
def ViolationKind.name : ViolationKind → String
  | .userStreams => "user_streams"
  | .userIps => "user_ips"
  | .ipStreams => "ip_streams"
  | .serverTranscodes => "server_transcodes"
  | .transcode4k => "4k_transcode"
  | .bitrate => "bitrate"
  | .device => "device"

/-- The actor of a user: the monitor user, else the trimmed server account, else unknown. -/
def userActorKey (vodumUserId : Option Int) (externalUserId : String) : String :=
  match vodumUserId with
  | some id => s!"vodum:{id}"
  | none =>
    let ext := Text.trim externalUserId
    if ext.isEmpty then "ext:unknown" else "ext:" ++ ext

/-- What one policy finds wrong. -/
structure Violation where
  policyId : Int
  kind : ViolationKind
  serverId : Int
  provider : String
  actorKey : String
  vodumUserId : Option Int
  externalUserId : Option String
  sessions : List LiveSession
  reason : String
  selector : Selector
  warnTitle : String
  warnText : String
  deriving Repr, Inhabited

namespace Violation

/-- The same violation seen again: same kind, server and actor. -/
def sameAs (v w : Violation) : Bool :=
  v.kind == w.kind && v.serverId == w.serverId && v.actorKey == w.actorKey

/-- The message shown when the stream is stopped: the warning text, or the reason when the
warning text is blank. -/
def killReason (v : Violation) : String :=
  if Text.isBlankText v.warnText then v.reason else v.warnText

end Violation

end StreamWarden
