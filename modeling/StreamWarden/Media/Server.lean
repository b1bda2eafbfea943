import StreamWarden.Media.Session
import StreamWarden.Media.Error

/-!
# Media server connection settings

A server is reached at one of up to three base URLs, tried in the order canonical, local,
public. A base is usable when, after trimming blanks and then every trailing `/`, it is not
empty, is not one of the placeholders `none`, `null`, `undefined` (in any ASCII case), and starts
with exactly `http://` or `https://`; a base equal to an earlier one is dropped. The access
token is used trimmed and must not be blank.
-/

namespace StreamWarden

/-- How to reach one media server. -/
structure ServerConfig where
  id : Int := 1
  provider : ProviderKind := .plex
  name : String := ""
  url : Option String := none
  localUrl : Option String := none
  publicUrl : Option String := none
  token : Option String := none
  serverIdentifier : String := ""
  settingsJson : Option String := none
  deriving Repr, Inhabited

/-- Drops every `/` at the end of a list of characters. -/
def dropTrailingSlashes (cs : List Char) : List Char :=
  (cs.reverse.dropWhile (· = '/')).reverse

/-- A base URL as it is used: trimmed, without trailing slashes. -/
def normalizeBase (raw : String) : String :=
  String.ofList (dropTrailingSlashes (Text.trim raw).toList)

/-- A normalized base is usable: not empty, not a placeholder, and with an HTTP scheme. -/
def usableBase (base : String) : Bool :=
  !base.isEmpty &&
    !(["none", "null", "undefined"].any fun lit => Text.eqIgnoreAsciiCase base lit) &&
    (base.startsWith "http://" || base.startsWith "https://")

namespace ServerConfig

/-- The usable base URLs in the order canonical, local, public, without repeats. -/
def candidateBases (c : ServerConfig) : List String :=
  ([c.url, c.localUrl, c.publicUrl].filterMap fun u => u).foldl (fun acc raw =>
    let base := normalizeBase raw
    if usableBase base && !acc.contains base then acc ++ [base] else acc) []

/-- The usable base URLs, or a configuration failure when there is none. -/
def requireBases (c : ServerConfig) : Except ProviderError (List String) :=
  match c.candidateBases with
  | [] => .error (.config s!"{c.provider.name} server {c.id} has no usable URL")
  | bases => .ok bases

/-- The trimmed token, or a configuration failure when it is absent or blank. -/
def requireToken (c : ServerConfig) : Except ProviderError String :=
  match c.token.map Text.trim with
  | some t => if t.isEmpty then .error (.config s!"{c.provider.name} server {c.id} has no token")
    else .ok t
  | none => .error (.config s!"{c.provider.name} server {c.id} has no token")

end ServerConfig

end StreamWarden
