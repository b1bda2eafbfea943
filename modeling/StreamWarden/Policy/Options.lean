import StreamWarden.Json.Reader
import StreamWarden.Json.Writer
import StreamWarden.Text.Lower
import StreamWarden.Text.Integer

/-!
# Rule options

A policy carries its settings as a JSON object, and every setting has a default: no explicit
limit, no bitrate cap, counting per server, ignoring unknown addresses, counting local
addresses, no device allow-list, stopping the newest stream, and a standard warning.

Each setting is read only from its own key and only when its value can be read:

* a limit reads an integer, the integer part of a float (clamped to 64 bits), an integer text
  after trimming, or a boolean as `0` or `1`;
* a switch reads a boolean, an integer (nonzero is on), or a text that is, after trimming and
  ASCII lowercasing, one of `true`, `1`, `yes`, `on` or one of `false`, `0`, `no`, `off` and
  the empty text;
* a warning text is taken verbatim from a string, and from any other value but `null` as its
  compact JSON text;
* the allow-list is an array (its non-null items, strings as they are and other values as JSON
  text), or else a comma-separated text; each entry is trimmed and lowercased, and empty
  entries are dropped.

A text that is blank or not JSON gives all the defaults, and so does a value that is not an
object.
-/

namespace StreamWarden

/-- How the session to stop is chosen among several. -/
inductive Selector where
  | killNewest
  | killOldest
  | killTranscodingFirst
  deriving DecidableEq, Repr, Inhabited

namespace Selector

/-- The name of a selector. -/
def name : Selector → String
  | .killNewest => "kill_newest"
  | .killOldest => "kill_oldest"
  | .killTranscodingFirst => "kill_transcoding_first"

/-- Reads a selector name, ignoring ASCII case. -/
def parse? (s : String) : Option Selector :=
  [Selector.killNewest, .killOldest, .killTranscodingFirst].find? fun m =>
    Text.eqIgnoreAsciiCase m.name s

/-- Reads a selector leniently: trimmed, and the newest stream when unrecognised. -/
def parseLenient (s : String) : Selector := (parse? (Text.trim s)).getD .killNewest

end Selector

/-- The title of the standard warning. -/
def defaultWarnTitle : String := "Stream limit"

/-- The text of the standard warning. -/
def defaultWarnText : String :=
  "You have reached your streaming limit. The most recent stream will be stopped if it continues."

/-- The settings of a rule. -/
structure RuleOptions where
  max : Option Int := none
  maxKbps : Int := 0
  perServer : Bool := true
  ignoreUnknown : Bool := true
  allowLocalIp : Bool := false
  allowed : List String := []
  selector : Selector := .killNewest
  warnTitle : String := defaultWarnTitle
  warnText : String := defaultWarnText
  deriving Repr, Inhabited

namespace RuleOptions

/-- Reads a limit from a JSON value. -/
def intValue : Json → Option Int
  | .num n => match n.asI64? with
    | some i => some i
    | none => some (n.asF64.truncate Text.i64Min Text.i64Max)
  | .str s => Text.parseI64? (Text.trim s)
  | .bool b => some (if b then 1 else 0)
  | _ => none

/-- Reads a switch from a JSON value. -/
def boolValue : Json → Option Bool
  | .bool b => some b
  | .num n => n.asI64?.map (· ≠ 0)
  | .str s =>
    let t := Text.asciiLower (Text.trim s)
    if t = "true" ∨ t = "1" ∨ t = "yes" ∨ t = "on" then some true
    else if t = "false" ∨ t = "0" ∨ t = "no" ∨ t = "off" ∨ t = "" then some false
    else none
  | _ => none

/-- Reads a text from a JSON value: a string verbatim, `null` as nothing, anything else as its
compact JSON text. -/
def textValue : Json → Option String
  | .str s => some s
  | .null => none
  | v => some v.render

/-- An allow-list entry: trimmed and lowercased, dropped when empty. -/
def allowEntry (s : String) : Option String :=
  let t := Text.toLower (Text.trim s)
  if t.isEmpty then none else some t

/-- The allow-list of an object: the array under `allowed`, or else the comma-separated text
under `allowed_devices`, or under `allowed` when that key is absent. -/
def allowList (v : Json) : List String :=
  match v.get? "allowed" with
  | some (.arr items) =>
    items.filterMap fun
      | .str s => allowEntry s
      | .null => none
      | other => allowEntry other.render
  | _ =>
    let source := match v.get? "allowed_devices" with
      | some d => some d
      | none => v.get? "allowed"
    let raw := (source.bind textValue).getD ""
    (raw.splitOn ",").filterMap allowEntry

/-- Reads the settings from a JSON value; a value that is not an object gives the defaults. -/
def ofJson (v : Json) : RuleOptions :=
  match v with
  | .obj _ =>
    let d : RuleOptions := {}
    { max := (v.get? "max").bind intValue
      maxKbps := ((v.get? "max_kbps").bind intValue).getD d.maxKbps
      perServer := ((v.get? "per_server").bind boolValue).getD d.perServer
      ignoreUnknown := ((v.get? "ignore_unknown").bind boolValue).getD d.ignoreUnknown
      allowLocalIp := ((v.get? "allow_local_ip").bind boolValue).getD d.allowLocalIp
      allowed := allowList v
      selector := match v.get? "selector" with
        | some (.str s) => Selector.parseLenient s
        | _ => d.selector
      warnTitle := ((v.get? "warn_title").bind textValue).getD d.warnTitle
      warnText := ((v.get? "warn_text").bind textValue).getD d.warnText }
  | _ => {}

/-- Reads the settings from a JSON text; a blank or unreadable text gives the defaults. -/
def ofText (raw : String) : RuleOptions :=
  if Text.isBlankText raw then {}
  else match Json.parse raw with
    | .ok v => ofJson v
    | .error _ => {}

end RuleOptions

end StreamWarden
