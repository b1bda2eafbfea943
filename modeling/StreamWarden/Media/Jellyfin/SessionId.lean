import StreamWarden.Json.Basic
import StreamWarden.Text.Blank

/-!
# Jellyfin session ids

A Jellyfin session key is the session id and the item id joined by `:`. The control endpoints
want the session id: the `Id` of the session's raw report when it is a nonblank string
(trimmed), and otherwise the part of the key before the first `:`.
-/

namespace StreamWarden.Jellyfin

/-- The session id part of a session key: the text before the first `:`. -/
def sessionIdFromKey (key : String) : String :=
  String.ofList (key.toList.takeWhile (· ≠ ':'))

/-- The session id the control endpoints take. -/
def controlSessionId (key : String) (raw : Json) : String :=
  match raw.get? "Id" with
  | some (.str s) => (Text.nonBlank s).getD (sessionIdFromKey key)
  | _ => sessionIdFromKey key

end StreamWarden.Jellyfin
