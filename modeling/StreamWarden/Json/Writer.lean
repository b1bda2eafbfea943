import StreamWarden.Json.Basic
import StreamWarden.Number.Shortest

/-!
# Compact JSON text

A value is written with no blank between tokens. Inside a string the quote and the backslash
are escaped, and so is every control character below `0x20`: backspace, tab, line feed, form
feed and carriage return by their short escapes, the others as `\u00` and two lowercase hex
digits. Every other character, ASCII or not, is written as it is. Integers are written in
decimal; a binary64 number by its shortest text (`StreamWarden.Binary64.toText`). Members of an
object come in key order, which is the order an object keeps.
-/

namespace StreamWarden

/-- The text of a number. -/
def Numeral.text : Numeral → String
  | .nat n => toString n
  | .negInt n => toString n
  | .float x => x.toText

namespace Json

/-- The lowercase hex digit of a number below sixteen. -/
def hexDigit (n : Nat) : Char :=
  if n < 10 then Char.ofNat (48 + n) else Char.ofNat (87 + n)

/-- The escaped form of one character inside a string. -/
def escapeChar (c : Char) : List Char :=
  if c = '"' then ['\\', '"']
  else if c = '\\' then ['\\', '\\']
  else if c.toNat < 0x20 then
    match c.toNat with
    | 0x08 => ['\\', 'b']
    | 0x09 => ['\\', 't']
    | 0x0A => ['\\', 'n']
    | 0x0C => ['\\', 'f']
    | 0x0D => ['\\', 'r']
    | n => ['\\', 'u', '0', '0', hexDigit (n / 16), hexDigit (n % 16)]
  else [c]

/-- A string in quotes, escaped. -/
def quote (s : String) : String :=
  String.ofList ('"' :: (s.toList.flatMap escapeChar ++ ['"']))

mutual

/-- The compact text of a value. -/
def render : Json → String
  | .null => "null"
  | .bool true => "true"
  | .bool false => "false"
  | .num n => n.text
  | .str s => quote s
  | .arr items => "[" ++ renderItems items ++ "]"
  | .obj members => "\x7b" ++ renderMembers members ++ "\x7d"

/-- The items of an array, separated by commas. -/
def renderItems : List Json → String
  | [] => ""
  | [j] => render j
  | j :: rest => render j ++ "," ++ renderItems rest

/-- The members of an object, separated by commas. -/
def renderMembers : List (String × Json) → String
  | [] => ""
  | [(k, v)] => quote k ++ ":" ++ render v
  | (k, v) :: rest => quote k ++ ":" ++ render v ++ "," ++ renderMembers rest

end

end Json

end StreamWarden
