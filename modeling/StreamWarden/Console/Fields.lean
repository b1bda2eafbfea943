import StreamWarden.Json.Basic
import StreamWarden.Number.Shortest
import StreamWarden.Text.Integer

/-!
# Typed fields of console requests

Console requests are JSON objects. A record in a request (a policy, a session, a server) is
read field by field in the key order of its object; a field of the wrong type stops the reading
with a message of the form `invalid type: <what was found>, expected <what was wanted>`, and a
number of the right type but out of range with `invalid value: ...`. A field that may be absent
also accepts `null`.
-/

namespace StreamWarden.Console

/-- A reading of a request: a value, or a message saying what was wrong. -/
abbrev Decode := Except String

/-- A text as a debugging form shows it: in quotes, with quotes, backslashes and control
characters escaped. -/
def debugQuote (s : String) : String :=
  let esc (c : Char) : List Char :=
    if c = '"' then ['\\', '"']
    else if c = '\\' then ['\\', '\\']
    else if c = '\n' then ['\\', 'n']
    else if c = '\r' then ['\\', 'r']
    else if c = '\t' then ['\\', 't']
    else if c.toNat = 0 then ['\\', '0']
    else if c.toNat < 0x20 || c.toNat = 0x7F then
      "\\u\x7b".toList ++ (Nat.toDigits 16 c.toNat) ++ ['\x7d']
    else [c]
  String.ofList ('"' :: (s.toList.flatMap esc ++ ['"']))

/-- What a value is, as a failure message names it. -/
def unexpected : Json → String
  | .null => "null"
  | .bool b => s!"boolean `{b}`"
  | .num (.nat n) => s!"integer `{n}`"
  | .num (.negInt n) => s!"integer `{n}`"
  | .num (.float x) => s!"floating point `{x.toText}`"
  | .str s => "string " ++ debugQuote s
  | .arr _ => "sequence"
  | .obj _ => "map"

/-- The failure for a value of the wrong type. -/
def invalidType (j : Json) (wanted : String) : String :=
  s!"invalid type: {unexpected j}, expected {wanted}"

/-- A signed 64-bit integer. -/
def asI64 (j : Json) : Decode Int :=
  match j with
  | .num (.nat n) => if n ≤ Text.i64Max.toNat then .ok n
    else .error s!"invalid value: integer `{n}`, expected i64"
  | .num (.negInt n) => .ok n
  | j => .error (invalidType j "i64")

/-- An unsigned integer below `2 ^ bits`. -/
def asUnsigned (bits : Nat) (j : Json) : Decode Nat :=
  match j with
  | .num (.nat n) => if n < Nat.pow 2 bits then .ok n
    else .error s!"invalid value: integer `{n}`, expected u{bits}"
  | .num (.negInt n) => .error s!"invalid value: integer `{n}`, expected u{bits}"
  | j => .error (invalidType j s!"u{bits}")

/-- A text. -/
def asStr (j : Json) : Decode String :=
  match j with
  | .str s => .ok s
  | j => .error (invalidType j "a string")

/-- A truth value. -/
def asBool (j : Json) : Decode Bool :=
  match j with
  | .bool b => .ok b
  | j => .error (invalidType j "a boolean")

/-- A list. -/
def asList (j : Json) : Decode (List Json) :=
  match j with
  | .arr xs => .ok xs
  | j => .error (invalidType j "a sequence")

/-- The members of an object. -/
def asMembers (j : Json) (what : String) : Decode (List (String × Json)) :=
  match j with
  | .obj ms => .ok ms
  | j => .error (invalidType j what)

/-- An optional value: absent and `null` are both nothing. -/
def optional {α : Type} (read : Json → Decode α) : Json → Decode (Option α)
  | .null => .ok none
  | j => (read j).map some

/-- Reads each element of a list. -/
def eachOf {α : Type} (read : Json → Decode α) (xs : List Json) : Decode (List α) :=
  xs.mapM read

/-- A member of a request object, when it is present and not `null`. -/
def member? (req : Json) (key : String) : Option Json :=
  match req.get? key with
  | some .null => none
  | other => other

/-- Prefixes a failure with the name of the record being read. -/
def within {α : Type} (what : String) (d : Decode α) : Decode α :=
  match d with
  | .ok v => .ok v
  | .error e => .error (what ++ ": " ++ e)

end StreamWarden.Console
