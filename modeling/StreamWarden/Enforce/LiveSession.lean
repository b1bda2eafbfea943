import StreamWarden.Json.Reader
import StreamWarden.Media.Session

/-!
# Live sessions as the enforcer sees them

A live session joins a stored playback with the family of its server and with the monitor's
own user behind the server account. Policies are evaluated over lists of these.
-/

namespace StreamWarden

/-- A live playback with its server family and its monitor user. Times are milliseconds. -/
structure LiveSession where
  serverId : Int := 1
  provider : String := "plex"
  sessionKey : String := "s"
  mediaUserId : Option Int := none
  vodumUserId : Option Int := none
  externalUserId : Option String := none
  username : Option String := none
  title : Option String := none
  ip : Option String := none
  device : Option String := none
  clientName : Option String := none
  clientProduct : Option String := none
  isTranscode : Bool := false
  bitrateKbps : Option Int := none
  mediaHeight : Option Int := none
  startedAt : Int := 0
  lastSeenAt : Int := 0
  rawJson : Option String := none
  deriving Repr, Inhabited

namespace LiveSession

/-- The server family, when its name is one of the known ones (in any ASCII case). -/
def providerKind? (s : LiveSession) : Option ProviderKind := ProviderKind.parse? s.provider

/-- The stored raw report, or `null` when it is absent or unreadable. -/
def raw (s : LiveSession) : Json :=
  match s.rawJson with
  | some t => match Json.parse t with
    | .ok v => v
    | .error _ => .null
  | none => .null

end LiveSession

end StreamWarden
