import StreamWarden.Text.Ascii

/-!
# Integer texts

Settings, rule values and attributes carry integers as text. A signed 64-bit integer is read as
an optional `+` or `-` followed by at least one ASCII digit, and is refused when it falls outside
the 64-bit range; an unsigned one takes only an optional `+`. Nothing else is allowed: no blank,
no separator, no fraction.
-/

namespace StreamWarden.Text

/-- The least signed 64-bit integer. -/
def i64Min : Int := -9223372036854775808

/-- The greatest signed 64-bit integer. -/
def i64Max : Int := 9223372036854775807

/-- The greatest unsigned 64-bit integer. -/
def u64Max : Nat := 18446744073709551615

/-- Reads an unsigned 64-bit integer: an optional `+`, then digits, at most `u64Max`. -/
def parseU64? (s : String) : Option Nat :=
  let digits := match s.toList with
    | '+' :: rest => rest
    | cs => cs
  match digitsValue? digits with
  | some n => if n ≤ u64Max then some n else none
  | none => none

/-- Reads a signed 64-bit integer: an optional sign, then digits, within the 64-bit range. -/
def parseI64? (s : String) : Option Int :=
  let (negative, digits) := match s.toList with
    | '+' :: rest => (false, rest)
    | '-' :: rest => (true, rest)
    | cs => (false, cs)
  match digitsValue? digits with
  | some n =>
    let v : Int := if negative then -(n : Int) else n
    if i64Min ≤ v ∧ v ≤ i64Max then some v else none
  | none => none

example : parseI64? "+30" = some 30 ∧ parseI64? "-9223372036854775808" = some i64Min := by decide
example : parseU64? "-0" = none ∧ parseU64? "18446744073709551616" = none := by decide

end StreamWarden.Text
