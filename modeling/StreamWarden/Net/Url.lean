import StreamWarden.Text.Lower
import StreamWarden.Net.Address

/-!
# HTTP URLs

Requests to media servers are addressed by URLs of the `http` and `https` schemes, read and
written as web browsers do:

* tabs and line breaks anywhere are dropped, and slashes (or backslashes) after the scheme are
  skipped;
* the host is lowercased, and a label with characters beyond ASCII is written in punycode with
  the `xn--` prefix; a host whose last label is a number is an IPv4 address;
* the default port of the scheme is dropped;
* in the path, `.` and `..` segments are resolved, and a space, the characters
  `" # < > ? ^ { }` with the backquote, controls and non-ASCII characters are percent-encoded
  (UTF-8); in the query the set is controls, space, `" # < > '` and non-ASCII.

Query parameters added to a URL are form-encoded: ASCII letters, digits and `* - . _` stay, a
space becomes `+`, every other byte is percent-encoded.
-/

namespace StreamWarden.Net

/-- The host of a URL. -/
inductive Host where
  | domain (name : String)
  | ipv4 (value : Nat)
  | ipv6 (groups : List Nat)
  deriving DecidableEq, Repr

/-- A parsed HTTP URL, its parts already in written form. -/
structure Url where
  scheme : String
  userinfo : String
  host : Host
  port : Option Nat
  path : String
  query : Option String
  fragment : Option String
  deriving Repr

/-- The uppercase hex digit of a number below sixteen. -/
def hexUpper (n : Nat) : Char := if n < 10 then Char.ofNat (48 + n) else Char.ofNat (55 + n)

/-- The UTF-8 bytes of a character. -/
def utf8Bytes (c : Char) : List Nat :=
  (String.singleton c).toUTF8.toList.map (·.toNat)

/-- A byte written as `%XX`. -/
def percentByte (b : Nat) : List Char := ['%', hexUpper (b / 16), hexUpper (b % 16)]

/-- Percent-encodes the characters of a set, byte by byte. -/
def percentEncode (inSet : Char → Bool) (s : List Char) : List Char :=
  s.flatMap fun c => if inSet c then (utf8Bytes c).flatMap percentByte else [c]

/-- The characters encoded in a path segment. -/
def pathSet (c : Char) : Bool :=
  c.toNat < 0x21 || c.toNat > 0x7E || c = '"' || c = '#' || c = '<' || c = '>' || c = '?' ||
    c = '^' || c = '{' || c = '}' || c.toNat = 0x60

/-- The characters encoded in the query of an HTTP URL. -/
def querySet (c : Char) : Bool :=
  c.toNat < 0x21 || c.toNat > 0x7E || c = '"' || c = '#' || c = '<' || c = '>' || c = '\''

/-- The characters encoded in a fragment. -/
def fragmentSet (c : Char) : Bool :=
  c.toNat < 0x21 || c.toNat > 0x7E || c = '"' || c = '<' || c = '>' || c.toNat = 0x60

/-- The characters encoded in user information. -/
def userinfoSet (c : Char) : Bool :=
  pathSet c || c = '/' || c = ':' || c = ';' || c = '=' || c = '@' || c = '[' || c = '\\' ||
    c = ']' || c = '|'

/-- Form-encodes a text: letters, digits and `* - . _` stay, a space becomes `+`. -/
def formEncode (s : String) : String :=
  String.ofList (s.toList.flatMap fun c =>
    if ('a' ≤ c ∧ c ≤ 'z') ∨ ('A' ≤ c ∧ c ≤ 'Z') ∨ ('0' ≤ c ∧ c ≤ '9') ∨ c = '*' ∨ c = '-' ∨
        c = '.' ∨ c = '_' then [c]
    else if c = ' ' then ['+']
    else (utf8Bytes c).flatMap percentByte)

/-! ### Hosts -/

/-- A punycode digit. -/
def punyDigit (d : Nat) : Char := if d < 26 then Char.ofNat (97 + d) else Char.ofNat (22 + d)

/-- The bias adaptation of punycode. -/
def punyAdapt (delta numPoints : Nat) (first : Bool) : Nat :=
  let delta := if first then delta / 700 else delta / 2
  let delta := delta + delta / numPoints
  let rec go : Nat → Nat → Nat → Nat
    | 0, d, k => k + (36 * d) / (d + 38)
    | fuel + 1, d, k => if d > 455 then go fuel (d / 35) (k + 36) else k + (36 * d) / (d + 38)
  go 64 delta 0

/-- The digits of one variable-length integer of punycode. -/
def punyInteger (bias : Nat) : Nat → Nat → Nat → List Char
  | 0, q, _ => [punyDigit q]
  | fuel + 1, q, k =>
    let t := if k ≤ bias then 1 else if k ≥ bias + 26 then 26 else k - bias
    if q < t then [punyDigit q]
    else punyDigit (t + (q - t) % (36 - t)) :: punyInteger bias fuel ((q - t) / (36 - t)) (k + 36)

/-- Encodes the code points of a label in punycode (without the `xn--` prefix). -/
def punycode (cps : List Nat) : List Char :=
  let basic := cps.filter (· < 0x80)
  let b := basic.length
  let start := basic.map Char.ofNat ++ (if b > 0 then ['-'] else [])
  -- one round per distinct code point above the basic ones
  let rec rounds : Nat → Nat → Nat → Nat → Nat → List Char → List Char
    | 0, _, _, _, _, out => out
    | fuel + 1, n, delta, bias, h, out =>
      if h ≥ cps.length then out
      else
        let m := (cps.filter (· ≥ n)).foldl Nat.min (cps.foldl Nat.max 0)
        let delta := delta + (m - n) * (h + 1)
        let (delta, bias, h, out) := cps.foldl (fun (acc : Nat × Nat × Nat × List Char) c =>
          let (delta, bias, h, out) := acc
          if c < m then (delta + 1, bias, h, out)
          else if c = m then
            let digits := punyInteger bias 64 delta 36
            (0, punyAdapt delta (h + 1) (h == b), h + 1, out ++ digits)
          else (delta, bias, h, out)) (delta, bias, h, out)
        rounds fuel (m + 1) (delta + 1) bias h out
  rounds (cps.length + 1) 128 0 72 b start

/-- A label of a host in ASCII form. -/
def labelToAscii (label : List Char) : List Char :=
  let lower := (Text.toLower (String.ofList label)).toList
  if lower.all (·.toNat < 0x80) then lower
  else "xn--".toList ++ punycode (lower.map Char.toNat)

/-- Splits a list of characters at a separator. -/
def splitOn (sep : Char) (cs : List Char) : List (List Char) :=
  (cs.foldr (fun c (acc : List (List Char)) =>
    if c = sep then [] :: acc else match acc with
      | cur :: rest => (c :: cur) :: rest
      | [] => [[c]]) [[]])

/-- Decodes `%XX` escapes into bytes; other characters are kept as their UTF-8 bytes. -/
def percentDecodeBytes : List Char → List Nat
  | '%' :: a :: b :: rest =>
    match digitValue? 16 a, digitValue? 16 b with
    | some x, some y => (16 * x + y) :: percentDecodeBytes rest
    | _, _ => 37 :: percentDecodeBytes (a :: b :: rest)
  | c :: rest => utf8Bytes c ++ percentDecodeBytes rest
  | [] => []

/-- The characters a domain may not hold. -/
def forbiddenDomainChar (c : Char) : Bool :=
  c.toNat ≤ 0x20 || c.toNat = 0x7F || c = '#' || c = '%' || c = '/' || c = ':' || c = '<' ||
    c = '>' || c = '?' || c = '@' || c = '[' || c = '\\' || c = ']' || c = '^' || c = '|'

/-- A label is a number as IPv4 parts are written: decimal, or hex after `0x`. -/
def numericLabel (l : List Char) : Bool :=
  match l with
  | '0' :: x :: rest => if x = 'x' ∨ x = 'X' then rest.all (fun c => (digitValue? 16 c).isSome)
    else ('0' :: x :: rest).all Text.isDigit
  | [] => false
  | l => l.all Text.isDigit

/-- A host's last label (ignoring one trailing dot) is a number. -/
def endsInNumber (host : List Char) : Bool :=
  let labels := splitOn '.' host
  let labels := match labels.reverse with
    | [] :: rest => if rest.isEmpty then labels else rest.reverse
    | _ => labels
  match labels.getLast? with
  | some l => numericLabel l
  | none => false

/-- The value of one part of an IPv4 address: decimal, hex after `0x`, octal after `0`. -/
def ipv4Part? (l : List Char) : Option Nat :=
  match l with
  | [] => none
  | '0' :: x :: rest =>
    if x = 'x' ∨ x = 'X' then
      if rest.isEmpty then some 0
      else if rest.all (fun c => (digitValue? 16 c).isSome) then
        some (rest.foldl (fun n c => 16 * n + ((digitValue? 16 c).getD 0)) 0)
      else none
    else if (x :: rest).all (fun c => (digitValue? 8 c).isSome) then
      some ((x :: rest).foldl (fun n c => 8 * n + ((digitValue? 8 c).getD 0)) 0)
    else none
  | l => if l.all Text.isDigit then some (l.foldl (fun n c => 10 * n + (c.toNat - 48)) 0) else none

/-- Reads an IPv4 host in any of its web forms (one to four parts). -/
def ipv4Host? (host : List Char) : Option Nat := do
  let parts := splitOn '.' host
  let parts := match parts.reverse with
    | [] :: rest => if rest.isEmpty then parts else rest.reverse
    | _ => parts
  if parts.length > 4 then none
  let values ← parts.mapM ipv4Part?
  match values.reverse with
  | [] => none
  | last :: firsts =>
    let firsts := firsts.reverse
    if firsts.any (· > 255) then none
    else if last ≥ Nat.pow 256 (5 - values.length) then none
    else some (firsts.zipIdx.foldl (fun acc (v, i) => acc + v * Nat.pow 256 (3 - i)) last)

/-- Reads the host of an HTTP URL. -/
def parseHost? (raw : List Char) : Option Host :=
  match raw with
  | '[' :: rest =>
    match rest.reverse with
    | ']' :: inner => (ipv6Prefix inner.reverse).bind fun (gs, r) => if r.isEmpty then some (.ipv6 gs) else none
    | _ => none
  | _ =>
    if raw.isEmpty then none
    else
      let bytes := percentDecodeBytes raw
      match String.fromUTF8? (ByteArray.mk (bytes.map Nat.toUInt8).toArray) with
      | none => none
      | some decoded =>
        let labels := splitOn '.' decoded.toList
        let ascii := '.'.toString.toList.intercalate (labels.map labelToAscii)
        if ascii.any forbiddenDomainChar then none
        else if endsInNumber ascii then (ipv4Host? ascii).map Host.ipv4
        else some (.domain (String.ofList ascii))

/-- The longest run of zero groups (the first of equal ones), as start and length. -/
def longestZeroRun (gs : List Nat) : Nat × Nat :=
  let (best, _, _) := gs.zipIdx.foldl (fun (acc : (Nat × Nat) × Nat × Nat) (g, i) =>
    let (best, start, len) := acc
    if g = 0 then
      let start := if len = 0 then i else start
      let len := len + 1
      (if len > best.2 then (start, len) else best, start, len)
    else (best, start, 0)) ((0, 0), 0, 0)
  best

/-- The written form of IPv6 groups: lowercase hex, the longest run of two or more zero groups
written as `::`. -/
def ipv6Text (gs : List Nat) : String :=
  let hex (g : Nat) : String := String.ofList (Nat.toDigits 16 g)
  let (start, len) := longestZeroRun gs
  if len < 2 then ":".intercalate (gs.map hex)
  else
    ":".intercalate ((gs.take start).map hex) ++ "::" ++
      ":".intercalate ((gs.drop (start + len)).map hex)

/-- The written form of a host. -/
def Host.text : Host → String
  | .domain n => n
  | .ipv4 v => s!"{v / 16777216}.{v / 65536 % 256}.{v / 256 % 256}.{v % 256}"
  | .ipv6 gs => "[" ++ ipv6Text gs ++ "]"

/-! ### Paths -/

/-- A path segment is `.`, also written `%2e`. -/
def isSingleDot (seg : List Char) : Bool :=
  let s := Text.asciiLower (String.ofList seg)
  s = "." || s = "%2e"

/-- A path segment is `..`, in any of its encoded forms. -/
def isDoubleDot (seg : List Char) : Bool :=
  let s := Text.asciiLower (String.ofList seg)
  s = ".." || s = ".%2e" || s = "%2e." || s = "%2e%2e"

/-- Resolves the segments of a path: `.` is dropped, `..` drops the segment before it; either at
the end leaves an empty last segment. -/
def resolveSegments : List (List Char) → List (List Char) → List (List Char)
  | acc, [] => acc.reverse
  | acc, [seg] =>
    if isDoubleDot seg then (([] :: acc.drop 1)).reverse
    else if isSingleDot seg then ([] :: acc).reverse
    else (seg :: acc).reverse
  | acc, seg :: rest =>
    if isDoubleDot seg then resolveSegments (acc.drop 1) rest
    else if isSingleDot seg then resolveSegments acc rest
    else resolveSegments (seg :: acc) rest

/-- The written path of the text after the host (starting with a slash, or empty). -/
def pathText (raw : List Char) : String :=
  match raw with
  | [] => "/"
  | _ :: rest =>
    let segs := splitOn '/' (rest.map fun c => if c = '\\' then '/' else c)
    let segs := resolveSegments [] segs
    String.ofList ('/' :: '/'.toString.toList.intercalate (segs.map (percentEncode pathSet)))

/-! ### Whole URLs -/

/-- The default port of a scheme. -/
def defaultPort (scheme : String) : Nat := if scheme = "https" then 443 else 80

/-- Reads an HTTP or HTTPS URL. -/
def Url.parse? (s : String) : Option Url := do
  let cs := s.toList.filter fun c => c ≠ '\t' ∧ c ≠ '\n' ∧ c ≠ '\r'
  let cs := ((cs.dropWhile (·.toNat ≤ 0x20)).reverse.dropWhile (·.toNat ≤ 0x20)).reverse
  let (scheme, rest) ← match cs with
    | 'h' :: 't' :: 't' :: 'p' :: ':' :: rest => some ("http", rest)
    | 'h' :: 't' :: 't' :: 'p' :: 's' :: ':' :: rest => some ("https", rest)
    | _ => none
  let rest := rest.dropWhile fun c => c = '/' ∨ c = '\\'
  let isEnd (c : Char) : Bool := c = '/' || c = '\\' || c = '?' || c = '#'
  let authority := rest.takeWhile (!isEnd ·)
  let afterAuthority := rest.dropWhile (!isEnd ·)
  let (userinfo, hostPort) :=
    if authority.contains '@' then
      let before := (authority.reverse.dropWhile (· ≠ '@')).reverse.dropLast
      let after := (authority.reverse.takeWhile (· ≠ '@')).reverse
      let user := before.takeWhile (· ≠ ':')
      let password := match before.dropWhile (· ≠ ':') with
        | ':' :: p => if p.isEmpty then "" else ":" ++ String.ofList (percentEncode userinfoSet p)
        | _ => ""
      let written := String.ofList (percentEncode userinfoSet user) ++ password
      (if written.isEmpty then "" else written ++ "@", after)
    else ("", authority)
  let (hostRaw, portRaw) :=
    match hostPort with
    | '[' :: _ =>
      let inside := hostPort.takeWhile (· ≠ ']')
      let after := hostPort.dropWhile (· ≠ ']')
      match after with
      | ']' :: ':' :: p => (inside ++ [']'], some p)
      | ']' :: [] => (inside ++ [']'], none)
      | _ => (hostPort, none)
    | _ =>
      match hostPort.dropWhile (· ≠ ':') with
      | ':' :: p => (hostPort.takeWhile (· ≠ ':'), some p)
      | _ => (hostPort, none)
  let host ← parseHost? hostRaw
  let port ← match portRaw with
    | none => some none
    | some [] => some none
    | some p =>
      if p.all Text.isDigit then
        let n := p.foldl (fun n c => 10 * n + (c.toNat - 48)) 0
        if n > 65535 then none else some (if n = defaultPort scheme then none else some n)
      else none
  let pathPart := afterAuthority.takeWhile fun c => c ≠ '?' ∧ c ≠ '#'
  let afterPath := afterAuthority.dropWhile fun c => c ≠ '?' ∧ c ≠ '#'
  let (query, fragment) := match afterPath with
    | '?' :: r =>
      let q := r.takeWhile (· ≠ '#')
      let f := match r.dropWhile (· ≠ '#') with
        | '#' :: fr => some (String.ofList (percentEncode fragmentSet fr))
        | _ => none
      (some (String.ofList (percentEncode querySet q)), f)
    | '#' :: fr => (none, some (String.ofList (percentEncode fragmentSet fr)))
    | _ => (none, none)
  pure { scheme, userinfo, host, port, path := pathText pathPart, query, fragment }

/-- The written form of a URL. -/
def Url.text (u : Url) : String :=
  u.scheme ++ "://" ++ u.userinfo ++ u.host.text ++
    (match u.port with | some p => ":" ++ toString p | none => "") ++ u.path ++
    (match u.query with | some q => "?" ++ q | none => "") ++
    (match u.fragment with | some f => "#" ++ f | none => "")

/-- Adds form-encoded parameters to the query of a URL. -/
def Url.withParams (u : Url) (params : List (String × String)) : Url :=
  if params.isEmpty then u
  else
    let added := "&".intercalate (params.map fun (k, v) => formEncode k ++ "=" ++ formEncode v)
    let query := match u.query with
      | some q => if q.isEmpty then added else q ++ "&" ++ added
      | none => added
    { u with query := some query }

end StreamWarden.Net
