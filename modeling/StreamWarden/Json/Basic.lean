import StreamWarden.Number.Binary64
import StreamWarden.Text.Integer

/-!
# JSON values

A JSON number is one of three kinds, fixed when the text is read: a nonnegative integer that
fits in 64 unsigned bits, a negative integer that fits in 64 signed bits, or a binary64 value
(every number written with a fraction or an exponent, every integer too large for the other
two kinds, and `-0`).

An object keeps its members sorted by key, in code point order, with one member per key: a
later member with a key already present replaces the earlier one. So two objects with the same
members in any order are the same value, and reading a key finds the last one written.
-/

namespace StreamWarden

/-- A JSON number of one of the three kinds. -/
inductive Numeral where
  | nat (n : Nat)
  | negInt (n : Int)
  | float (x : Binary64)
  deriving DecidableEq, Repr

/-- A JSON value; the members of an object are sorted by key, with no key twice. -/
inductive Json where
  | null
  | bool (b : Bool)
  | num (n : Numeral)
  | str (s : String)
  | arr (items : List Json)
  | obj (members : List (String × Json))
  deriving Repr, Inhabited

namespace Numeral

/-- The number as a signed 64-bit integer, when it is an integer of that range. -/
def asI64? : Numeral → Option Int
  | .nat n => if n ≤ Text.i64Max.toNat then some n else none
  | .negInt n => some n
  | .float _ => none

/-- The number as an unsigned 64-bit integer, when it is a nonnegative integer. -/
def asU64? : Numeral → Option Nat
  | .nat n => some n
  | _ => none

/-- The number as a binary64 value, rounded when it is a large integer. -/
def asF64 : Numeral → Binary64
  | .nat n => Binary64.ofNat n
  | .negInt n => (Binary64.ofNat n.natAbs).neg
  | .float x => x

/-- An integer as a JSON number of the kind its sign calls for. -/
def ofInt (i : Int) : Numeral := if i < 0 then .negInt i else .nat i.toNat

end Numeral

namespace Json

/-- Puts a member into a sorted member list, replacing the member with the same key. -/
def insertMember (key : String) (value : Json) : List (String × Json) → List (String × Json)
  | [] => [(key, value)]
  | (k, v) :: rest =>
    if key < k then (key, value) :: (k, v) :: rest
    else if key = k then (key, value) :: rest
    else (k, v) :: insertMember key value rest

/-- The object with the given members, later members replacing earlier ones of the same key. -/
def object (members : List (String × Json)) : Json :=
  .obj (members.foldl (fun acc m => insertMember m.1 m.2 acc) [])

/-- The value of a member of an object; nothing for an absent key or a value of another kind. -/
def get? (j : Json) (key : String) : Option Json :=
  match j with
  | .obj members => members.lookup key
  | _ => none

/-- An integer as a JSON value. -/
def int (i : Int) : Json := .num (Numeral.ofInt i)

/-- An optional integer as a JSON value, `null` when absent. -/
def optInt : Option Int → Json
  | some i => int i
  | none => .null

/-- An optional text as a JSON value, `null` when absent. -/
def optStr : Option String → Json
  | some s => .str s
  | none => .null

/-- The value is `null`. -/
def isNull : Json → Bool
  | .null => true
  | _ => false

/-- The members of an object. -/
def members? : Json → Option (List (String × Json))
  | .obj ms => some ms
  | _ => none

/-- The items of an array. -/
def items? : Json → Option (List Json)
  | .arr xs => some xs
  | _ => none

/-- The text of a string value. -/
def str? : Json → Option String
  | .str s => some s
  | _ => none

/-- The truth value of a boolean. -/
def bool? : Json → Option Bool
  | .bool b => some b
  | _ => none

/-- The value as a signed 64-bit integer. -/
def i64? : Json → Option Int
  | .num n => n.asI64?
  | _ => none

end Json

end StreamWarden
