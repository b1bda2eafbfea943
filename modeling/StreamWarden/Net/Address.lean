import StreamWarden.Text.Blank
import StreamWarden.Text.Ascii

/-!
# Network addresses

Sessions report the address of the playing device as text. An address is local when it is an
IPv4 private, loopback or link-local address, an IPv6 loopback, unique-local (`fc00::/7`) or
link-local (`fe80::/10`) address, or an IPv4 address mapped into IPv6 (`::ffff:a.b.c.d`) that is
local by the IPv4 rules.

The textual forms accepted are the plain ones: four decimal octets of one to three digits with
no leading zero; eight groups of one to four hex digits, where one `::` stands for one or more
zero groups and the last two groups may be written as an IPv4 address. Ports, brackets, zone
indices and any other decoration make the text unreadable, and an unreadable address is not
local.
-/

namespace StreamWarden.Net

/-- A parsed IP address: four octets, or eight 16-bit groups. -/
inductive Address where
  | v4 (a b c d : Nat)
  | v6 (groups : List Nat)
  deriving DecidableEq, Repr

/-- The value of an ASCII digit in a radix of at most sixteen. -/
def digitValue? (radix : Nat) (c : Char) : Option Nat :=
  let v? :=
    if '0' ≤ c ∧ c ≤ '9' then some (c.toNat - 48)
    else if 'a' ≤ c ∧ c ≤ 'f' then some (c.toNat - 87)
    else if 'A' ≤ c ∧ c ≤ 'F' then some (c.toNat - 55)
    else none
  match v? with
  | some v => if v < radix then some v else none
  | none => none

/-- The longest run of digits at the front, as values, and the text after it. -/
def takeDigits (radix : Nat) : List Char → List Nat × List Char
  | [] => ([], [])
  | c :: rest =>
    match digitValue? radix c with
    | some v => let (ds, r) := takeDigits radix rest; (v :: ds, r)
    | none => ([], c :: rest)

/-- The value of a list of digits. -/
def digitsNumber (radix : Nat) (ds : List Nat) : Nat := ds.foldl (fun n d => radix * n + d) 0

/-- A decimal octet: one to three digits, no leading zero, at most 255. -/
def octet (cs : List Char) : Option (Nat × List Char) :=
  let (ds, rest) := takeDigits 10 cs
  let n := digitsNumber 10 ds
  if ds.length = 0 ∨ ds.length > 3 then none
  else if ds.length > 1 ∧ ds.head? = some 0 then none
  else if n > 255 then none
  else some (n, rest)

/-- A hex group: one to four hex digits. -/
def hexGroup (cs : List Char) : Option (Nat × List Char) :=
  let (ds, rest) := takeDigits 16 cs
  if ds.length = 0 ∨ ds.length > 4 then none else some (digitsNumber 16 ds, rest)

/-- Four octets separated by points, at the front of a text. -/
def ipv4Prefix (cs : List Char) : Option ((Nat × Nat × Nat × Nat) × List Char) := do
  let (a, r) ← octet cs
  let r ← match r with | '.' :: r => some r | _ => none
  let (b, r) ← octet r
  let r ← match r with | '.' :: r => some r | _ => none
  let (c, r) ← octet r
  let r ← match r with | '.' :: r => some r | _ => none
  let (d, r) ← octet r
  pure ((a, b, c, d), r)

/-- Reads at most `slots` colon-separated groups at the front of a text; while two slots are
left, an IPv4 address may stand for the last two groups and ends the run. Returns the groups,
whether an IPv4 address ended them, and the text after them. -/
def readGroups : Nat → Bool → List Char → List Nat × Bool × List Char
  | 0, _, cs => ([], false, cs)
  | slots + 1, first, cs =>
    let afterSep? : Option (List Char) :=
      if first then some cs else match cs with
        | ':' :: r => some r
        | _ => none
    match afterSep? with
    | none => ([], false, cs)
    | some r =>
      match (if slots ≥ 1 then ipv4Prefix r else none) with
      | some ((a, b, c, d), r') => ([a * 256 + b, c * 256 + d], true, r')
      | none =>
        match hexGroup r with
        | some (g, r') =>
          let (gs, v4, r'') := readGroups slots false r'
          (g :: gs, v4, r'')
        | none => ([], false, cs)

/-- Eight groups at the front of a text, with at most one `::`. -/
def ipv6Prefix (cs : List Char) : Option (List Nat × List Char) :=
  let (head, headV4, r) := readGroups 8 true cs
  if head.length = 8 then some (head, r)
  else if headV4 then none
  else match r with
    | ':' :: ':' :: r2 =>
      let (tail, _, r3) := readGroups (8 - (head.length + 1)) true r2
      some (head ++ List.replicate (8 - head.length - tail.length) 0 ++ tail, r3)
    | _ => none

/-- Reads a whole text as an IP address. -/
def Address.parse? (s : String) : Option Address :=
  let cs := s.toList
  match ipv4Prefix cs with
  | some ((a, b, c, d), []) => some (.v4 a b c d)
  | some _ => none
  | none =>
    match ipv6Prefix cs with
    | some (gs, []) => some (.v6 gs)
    | _ => none

/-- An IPv4 address is local: private (`10/8`, `172.16/12`, `192.168/16`), loopback (`127/8`)
or link-local (`169.254/16`). -/
def v4Local (a b _c _d : Nat) : Bool :=
  a == 10 || (a == 172 && 16 ≤ b && b ≤ 31) || (a == 192 && b == 168) || a == 127 ||
    (a == 169 && b == 254)

/-- An address is local by the rules above. -/
def Address.isLocal : Address → Bool
  | .v4 a b c d => v4Local a b c d
  | .v6 gs =>
    match gs with
    | [0, 0, 0, 0, 0, 0xFFFF, x, y] => v4Local (x / 256) (x % 256) (y / 256) (y % 256)
    | [0, 0, 0, 0, 0, 0, 0, 1] => true
    | g :: _ => (g / 512 == 0xFC00 / 512) || (g / 64 == 0xFE80 / 64)
    | [] => false

/-- The address text of a session is local; blank, `unknown` (in any case) and unreadable
texts are not. -/
def isLocalIp (ip : String) : Bool :=
  let t := Text.trim ip
  if t.isEmpty || Text.eqIgnoreAsciiCase t "unknown" then false
  else match Address.parse? t with
    | some a => a.isLocal
    | none => false

/-- The address of a session as counted: its trimmed text, or `unknown` when it is absent,
blank or `unknown` in any case. -/
def normalizeIp (ip : Option String) : String :=
  match ip.map Text.trim with
  | some t => if t.isEmpty || Text.eqIgnoreAsciiCase t "unknown" then "unknown" else t
  | none => "unknown"

end StreamWarden.Net
