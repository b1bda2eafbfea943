import StreamWarden.Store.Basic
import StreamWarden.Text.Blank
import StreamWarden.Text.Ascii

/-!
# Accounts in the store

A session names its user by the server's id for the account and by a user name. The account is
found by the trimmed external id on the same server first; failing that, by the trimmed user
name on the same server, compared without regard to ASCII case, the lowest account id winning.
No account is ever created this way.
-/

namespace StreamWarden

namespace Store

/-- The account of a server's user, by external id, then by user name. -/
def resolveAccount (s : Store) (serverId : Int) (externalUserId username : Option String) :
    Option Int :=
  let byExternal := (externalUserId.bind Text.nonBlank).bind fun ext =>
    (s.accounts.find? fun a => a.serverId == serverId && a.externalUserId == some ext).map (·.id)
  byExternal.orElse fun _ => (username.bind Text.nonBlank).bind fun name =>
    let lower := Text.asciiLower name
    let matching := s.accounts.filter fun a =>
      a.serverId == serverId && (a.username.map Text.asciiLower) == some lower
    (matching.map (·.id)).min?

end Store

end StreamWarden
