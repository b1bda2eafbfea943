import StreamWarden.Json.Basic
import StreamWarden.Text.Ascii

/-!
# Reading JSON text

The reader takes a whole text: blanks (space, tab, line feed, carriage return), one value,
blanks, and nothing else. It is strict: no trailing comma, no leading zero, no literal control
character in a string, no lone surrogate in a `\u` escape, and at most 127 arrays or objects
open at once.

Numbers follow the three kinds of `StreamWarden.Numeral`. An integer that overflows 64 unsigned
bits keeps its first digits and counts the rest as a power of ten; a number with a fraction or
an exponent keeps at most the digits that fit in 64 bits. The binary64 value is then the
significand, rounded, multiplied or divided by the rounded power of ten; a power beyond `10^308`
is applied in steps of `10^308`, and a product that overflows is an error, not an infinity.

A failure names what was wrong and where: the line and the column, counted in bytes, of the
character at which reading stopped.
-/

namespace StreamWarden

namespace Json

/-- What was wrong with a JSON text. -/
inductive Issue where
  | eofWhileParsingList
  | eofWhileParsingObject
  | eofWhileParsingString
  | eofWhileParsingValue
  | expectedColon
  | expectedListCommaOrEnd
  | expectedObjectCommaOrEnd
  | expectedSomeIdent
  | expectedSomeValue
  | invalidEscape
  | invalidNumber
  | numberOutOfRange
  | invalidUnicodeCodePoint
  | controlCharacterWhileParsingString
  | keyMustBeAString
  | loneLeadingSurrogateInHexEscape
  | trailingComma
  | trailingCharacters
  | unexpectedEndOfHexEscape
  | recursionLimitExceeded
  deriving DecidableEq, Repr

/-- The wording of an issue. -/
def Issue.text : Issue → String
  | .eofWhileParsingList => "EOF while parsing a list"
  | .eofWhileParsingObject => "EOF while parsing an object"
  | .eofWhileParsingString => "EOF while parsing a string"
  | .eofWhileParsingValue => "EOF while parsing a value"
  | .expectedColon => "expected `:`"
  | .expectedListCommaOrEnd => "expected `,` or `]`"
  | .expectedObjectCommaOrEnd => "expected `,` or `\x7d`"
  | .expectedSomeIdent => "expected ident"
  | .expectedSomeValue => "expected value"
  | .invalidEscape => "invalid escape"
  | .invalidNumber => "invalid number"
  | .numberOutOfRange => "number out of range"
  | .invalidUnicodeCodePoint => "invalid unicode code point"
  | .controlCharacterWhileParsingString =>
    "control character (\\u0000-\\u001F) found while parsing a string"
  | .keyMustBeAString => "key must be a string"
  | .loneLeadingSurrogateInHexEscape => "lone leading surrogate in hex escape"
  | .trailingComma => "trailing comma"
  | .trailingCharacters => "trailing characters"
  | .unexpectedEndOfHexEscape => "unexpected end of hex escape"
  | .recursionLimitExceeded => "recursion limit exceeded"

/-- A failure, with the text left where it was found; `ahead` marks one found at the next
character rather than just after the last character read. -/
structure Fault where
  issue : Issue
  rest : List Char
  ahead : Bool

/-- A failure with its place in the text. -/
structure ReadError where
  issue : Issue
  line : Nat
  column : Nat
  deriving DecidableEq, Repr

/-- The wording of a failure, with its place. -/
def ReadError.message (e : ReadError) : String :=
  s!"{e.issue.text} at line {e.line} column {e.column}"

/-- One step of reading: a result and the text after it. -/
abbrev Step (α : Type) := Except Fault (α × List Char)

/-- The characters a JSON text allows between tokens. -/
def isJsonBlank (c : Char) : Bool := c = ' ' || c = '\n' || c = '\t' || c = '\r'

/-- Drops the blanks at the front. -/
def skipBlank (cs : List Char) : List Char := cs.dropWhile isJsonBlank

/-- Expects the rest of a literal such as `null`. -/
def literalRest : List Char → List Char → Except Fault (List Char)
  | [], cs => .ok cs
  | _ :: _, [] => .error ⟨.eofWhileParsingValue, [], false⟩
  | e :: es, c :: rest => if c = e then literalRest es rest else .error ⟨.expectedSomeIdent, rest, false⟩

/-! ### Numbers -/

/-- The binary64 value of `significand * 10 ^ power`, as the reader computes it: the rounded
significand is scaled by the rounded power of ten, in steps of `10 ^ 308` when the power is
below `-308`; `none` when the result overflows. -/
def scaleByTen (x : Binary64) : Nat → Int → Option Binary64
  | 0, _ => some x
  | fuel + 1, e =>
    if e.natAbs ≤ 308 then
      if 0 ≤ e then
        let y := x.mul (Binary64.pow10 e.toNat)
        if y.isInfinite then none else some y
      else some (x.div (Binary64.pow10 e.natAbs))
    else if x.isZero then some x
    else if 0 ≤ e then none
    else scaleByTen (x.div (Binary64.pow10 308)) fuel (e + 308)

/-- A number from its sign, significand and power of ten. -/
def fromParts (positive : Bool) (significand : Nat) (power : Int) (rest : List Char) :
    Step Numeral :=
  match scaleByTen (Binary64.ofNat significand) (power.natAbs / 308 + 2) power with
  | some x => .ok (.float (if positive then x else x.neg), rest)
  | none => .error ⟨.numberOutOfRange, rest, false⟩

/-- The greatest 32-bit signed integer, the bound of a written exponent. -/
def expMax : Nat := 2147483647

/-- Clamps a power of ten to the 32-bit range. -/
def clampExp (e : Int) : Int := max (-2147483648) (min 2147483647 e)

/-- Skips digits. -/
def skipDigits (cs : List Char) : List Char := cs.dropWhile Text.isDigit

/-- Reads the digits of an exponent after its first one. -/
def exponentDigits (positive : Bool) (significand : Nat) (start : Int) (negExp : Bool)
    (acc : Nat) : List Char → Step Numeral
  | c :: rest =>
    if Text.isDigit c then
      let d := c.toNat - 48
      if acc * 10 + d > expMax then
        if significand ≠ 0 ∧ !negExp then .error ⟨.numberOutOfRange, rest, false⟩
        else
          let r := skipDigits rest
          .ok (.float (Binary64.zero (!positive)), r)
      else exponentDigits positive significand start negExp (acc * 10 + d) rest
    else
      let e := if negExp then clampExp (start - acc) else clampExp (start + acc)
      fromParts positive significand e (c :: rest)
  | [] =>
    let e := if negExp then clampExp (start - acc) else clampExp (start + acc)
    fromParts positive significand e []

/-- Reads an exponent; the text starts after the `e`. -/
def exponentPart (positive : Bool) (significand : Nat) (start : Int) (cs : List Char) :
    Step Numeral :=
  let (negExp, cs) := match cs with
    | '+' :: rest => (false, rest)
    | '-' :: rest => (true, rest)
    | cs => (false, cs)
  match cs with
  | [] => .error ⟨.eofWhileParsingValue, [], false⟩
  | c :: rest =>
    if Text.isDigit c then exponentDigits positive significand start negExp (c.toNat - 48) rest
    else .error ⟨.invalidNumber, rest, false⟩

/-- After the digits of a number: an exponent or the end of the number. -/
def afterDigits (positive : Bool) (significand : Nat) (power : Int) : List Char → Step Numeral
  | c :: rest =>
    if c = 'e' || c = 'E' then exponentPart positive significand power rest
    else fromParts positive significand power (c :: rest)
  | [] => fromParts positive significand power []

/-- Reads the digits after the point; `count` is how many have been read. -/
def fractionDigits (positive : Bool) (significand : Nat) (before : Int) (count : Nat) :
    List Char → Step Numeral
  | c :: rest =>
    if Text.isDigit c then
      let d := c.toNat - 48
      if significand * 10 + d > Text.u64Max then
        afterDigits positive significand (before - count) (skipDigits (c :: rest))
      else fractionDigits positive (significand * 10 + d) before (count + 1) rest
    else if count = 0 then .error ⟨.invalidNumber, c :: rest, true⟩
    else afterDigits positive significand (before - count) (c :: rest)
  | [] =>
    if count = 0 then .error ⟨.eofWhileParsingValue, [], true⟩
    else fromParts positive significand (before - count) []

/-- After the integer digits: a fraction, an exponent, or an integer. -/
def integerEnd (positive : Bool) (significand : Nat) : List Char → Step Numeral
  | '.' :: rest => fractionDigits positive significand 0 0 rest
  | c :: rest =>
    if c = 'e' || c = 'E' then exponentPart positive significand 0 rest
    else integerValue positive significand (c :: rest)
  | [] => integerValue positive significand []
where
  /-- An integer: unsigned when positive, signed when it fits, and otherwise binary64. -/
  integerValue (positive : Bool) (significand : Nat) (rest : List Char) : Step Numeral :=
    if positive then .ok (.nat significand, rest)
    else if significand = 0 ∨ significand > Nat.pow 2 63 then
      .ok (.float (Binary64.ofNat significand).neg, rest)
    else .ok (.negInt (-(significand : Int)), rest)

/-- Digits beyond 64 bits of an integer: each one counts as a power of ten. -/
def longInteger (positive : Bool) (significand : Nat) (count : Nat) : List Char → Step Numeral
  | c :: rest =>
    if Text.isDigit c then longInteger positive significand (count + 1) rest
    else if c = '.' then fractionDigits positive significand count 0 rest
    else if c = 'e' || c = 'E' then exponentPart positive significand count rest
    else fromParts positive significand count (c :: rest)
  | [] => fromParts positive significand count []

/-- Reads the integer digits after the first one. -/
def integerDigits (positive : Bool) (significand : Nat) : List Char → Step Numeral
  | c :: rest =>
    if Text.isDigit c then
      let d := c.toNat - 48
      if significand * 10 + d > Text.u64Max then longInteger positive significand 0 (c :: rest)
      else integerDigits positive (significand * 10 + d) rest
    else integerEnd positive significand (c :: rest)
  | [] => integerEnd positive significand []

/-- Reads a number after its optional minus sign. -/
def number (positive : Bool) : List Char → Step Numeral
  | [] => .error ⟨.eofWhileParsingValue, [], false⟩
  | '0' :: rest =>
    match rest with
    | c :: _ => if Text.isDigit c then .error ⟨.invalidNumber, rest, true⟩
      else integerEnd positive 0 rest
    | [] => integerEnd positive 0 rest
  | c :: rest =>
    if Text.isDigit c then integerDigits positive (c.toNat - 48) rest
    else .error ⟨.invalidNumber, rest, false⟩

/-! ### Strings -/

/-- The value of a hex digit. -/
def hexValue? (c : Char) : Option Nat :=
  if '0' ≤ c ∧ c ≤ '9' then some (c.toNat - 48)
  else if 'a' ≤ c ∧ c ≤ 'f' then some (c.toNat - 87)
  else if 'A' ≤ c ∧ c ≤ 'F' then some (c.toNat - 55)
  else none

/-- The value of four hex digits. -/
def hex4? (a b c d : Char) : Option Nat := do
  let a ← hexValue? a
  let b ← hexValue? b
  let c ← hexValue? c
  let d ← hexValue? d
  pure (((a * 16 + b) * 16 + c) * 16 + d)

/-- Reads the body of a string up to its closing quote; `acc` holds what was read, last first. -/
def stringBody (acc : List Char) : List Char → Step String
  | [] => .error ⟨.eofWhileParsingString, [], false⟩
  | '"' :: rest => .ok (String.ofList acc.reverse, rest)
  | '\\' :: rest =>
    match rest with
    | [] => .error ⟨.eofWhileParsingString, [], false⟩
    | '"' :: r => stringBody ('"' :: acc) r
    | '\\' :: r => stringBody ('\\' :: acc) r
    | '/' :: r => stringBody ('/' :: acc) r
    | 'b' :: r => stringBody (Char.ofNat 8 :: acc) r
    | 'f' :: r => stringBody (Char.ofNat 12 :: acc) r
    | 'n' :: r => stringBody ('\n' :: acc) r
    | 'r' :: r => stringBody ('\r' :: acc) r
    | 't' :: r => stringBody ('\t' :: acc) r
    | 'u' :: a :: b :: c :: d :: r =>
      match hex4? a b c d with
      | none => .error ⟨.invalidEscape, r, false⟩
      | some n =>
        if 0xDC00 ≤ n ∧ n ≤ 0xDFFF then .error ⟨.loneLeadingSurrogateInHexEscape, r, false⟩
        else if 0xD800 ≤ n ∧ n ≤ 0xDBFF then
          match r with
          | [] => .error ⟨.eofWhileParsingString, [], false⟩
          | '\\' :: r2 =>
            match r2 with
            | [] => .error ⟨.eofWhileParsingString, [], false⟩
            | 'u' :: a2 :: b2 :: c2 :: d2 :: r3 =>
              match hex4? a2 b2 c2 d2 with
              | none => .error ⟨.invalidEscape, r3, false⟩
              | some n2 =>
                if n2 < 0xDC00 ∨ n2 > 0xDFFF then
                  .error ⟨.loneLeadingSurrogateInHexEscape, r3, false⟩
                else
                  let cp := ((n - 0xD800) * 1024 + (n2 - 0xDC00)) + 0x10000
                  stringBody (Char.ofNat cp :: acc) r3
            | 'u' :: _ => .error ⟨.eofWhileParsingString, [], false⟩
            | _ :: r3 => .error ⟨.unexpectedEndOfHexEscape, r3, false⟩
          | _ :: r2 => .error ⟨.unexpectedEndOfHexEscape, r2, false⟩
        else stringBody (Char.ofNat n :: acc) r
    | 'u' :: _ => .error ⟨.eofWhileParsingString, [], false⟩
    | _ :: r => .error ⟨.invalidEscape, r, false⟩
  | c :: rest =>
    if c.toNat < 0x20 then .error ⟨.controlCharacterWhileParsingString, rest, false⟩
    else stringBody (c :: acc) rest

/-! ### Values -/

mutual

/-- Reads one value; `depth` is how many more arrays or objects may open. -/
def readValue (depth : Nat) : Nat → List Char → Step Json
  | 0, cs => .error ⟨.recursionLimitExceeded, cs, true⟩
  | fuel + 1, cs =>
    match skipBlank cs with
    | [] => .error ⟨.eofWhileParsingValue, [], true⟩
    | c :: rest =>
      if c = 'n' then (literalRest ['u', 'l', 'l'] rest).map fun r => (.null, r)
      else if c = 't' then (literalRest ['r', 'u', 'e'] rest).map fun r => (.bool true, r)
      else if c = 'f' then (literalRest ['a', 'l', 's', 'e'] rest).map fun r => (.bool false, r)
      else if c = '-' then (number false rest).map fun (n, r) => (.num n, r)
      else if Text.isDigit c then (number true (c :: rest)).map fun (n, r) => (.num n, r)
      else if c = '"' then (stringBody [] rest).map fun (s, r) => (.str s, r)
      else if c = '[' then
        if depth ≤ 1 then .error ⟨.recursionLimitExceeded, c :: rest, true⟩
        else (readItems (depth - 1) [] true fuel rest).map fun (xs, r) => (.arr xs, r)
      else if c = '{' then
        if depth ≤ 1 then .error ⟨.recursionLimitExceeded, c :: rest, true⟩
        else (readMembers (depth - 1) [] true fuel rest).map fun (ms, r) => (.obj ms, r)
      else .error ⟨.expectedSomeValue, c :: rest, true⟩

/-- Reads the items of an array after its opening bracket, up to and with the closing one. -/
def readItems (depth : Nat) (acc : List Json) (first : Bool) : Nat → List Char → Step (List Json)
  | 0, cs => .error ⟨.recursionLimitExceeded, cs, true⟩
  | fuel + 1, cs =>
    match skipBlank cs with
    | [] => .error ⟨.eofWhileParsingList, [], true⟩
    | ']' :: rest => .ok (acc.reverse, rest)
    | c :: rest =>
      if c = ',' && !first then
        match skipBlank rest with
        | [] => .error ⟨.eofWhileParsingValue, [], true⟩
        | ']' :: r => .error ⟨.trailingComma, ']' :: r, true⟩
        | r => match readValue depth fuel r with
          | .ok (v, r') => readItems depth (v :: acc) false fuel r'
          | .error e => .error e
      else if first then
        match readValue depth fuel (c :: rest) with
        | .ok (v, r') => readItems depth (v :: acc) false fuel r'
        | .error e => .error e
      else .error ⟨.expectedListCommaOrEnd, c :: rest, true⟩

/-- Reads the members of an object after its opening brace, up to and with the closing one. -/
def readMembers (depth : Nat) (acc : List (String × Json)) (first : Bool) :
    Nat → List Char → Step (List (String × Json))
  | 0, cs => .error ⟨.recursionLimitExceeded, cs, true⟩
  | fuel + 1, cs =>
    match skipBlank cs with
    | [] => .error ⟨.eofWhileParsingObject, [], true⟩
    | '}' :: rest => .ok (acc, rest)
    | c :: rest =>
      let keyStart : Except Fault (List Char) :=
        if c = ',' && !first then
          match skipBlank rest with
          | [] => .error ⟨.eofWhileParsingValue, [], true⟩
          | '"' :: r => .ok r
          | '}' :: r => .error ⟨.trailingComma, '}' :: r, true⟩
          | r => .error ⟨.keyMustBeAString, r, true⟩
        else if first then
          if c = '"' then .ok rest else .error ⟨.keyMustBeAString, c :: rest, true⟩
        else .error ⟨.expectedObjectCommaOrEnd, c :: rest, true⟩
      match keyStart with
      | .error e => .error e
      | .ok afterQuote =>
        match stringBody [] afterQuote with
        | .error e => .error e
        | .ok (key, r) =>
          match skipBlank r with
          | [] => .error ⟨.eofWhileParsingObject, [], true⟩
          | ':' :: r2 =>
            match readValue depth fuel r2 with
            | .ok (v, r3) => readMembers depth (insertMember key v acc) false fuel r3
            | .error e => .error e
          | r2 => .error ⟨.expectedColon, r2, true⟩

end

/-- The place of a failure: line and byte column of the last character read, or of the next
one for a failure found ahead. -/
def placeOf (input : List Char) (f : Fault) : Nat × Nat :=
  let used := input.length - f.rest.length
  let upto := input.take used ++ (if f.ahead then f.rest.take 1 else [])
  let line := 1 + upto.count '\n'
  let lastLine := (upto.reverse.takeWhile (· ≠ '\n'))
  let column := lastLine.foldl (fun n c => n + c.utf8Size) 0
  (line, column)

/-- Reads a whole JSON text. -/
def parse (s : String) : Except ReadError Json :=
  let input := s.toList
  let result : Except Fault Json :=
    match readValue 128 (2 * input.length + 4) input with
    | .error f => .error f
    | .ok (v, rest) =>
      match skipBlank rest with
      | [] => .ok v
      | r => .error ⟨.trailingCharacters, r, true⟩
  match result with
  | .ok v => .ok v
  | .error f =>
    let (line, column) := placeOf input f
    .error ⟨f.issue, line, column⟩

end Json

end StreamWarden
