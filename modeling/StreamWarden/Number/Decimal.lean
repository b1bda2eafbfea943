import StreamWarden.Number.Binary64
import StreamWarden.Text.Ascii

/-!
# Decimal texts of binary64 values

A decimal text is read as the binary64 value nearest to the number it denotes (ties to even):
an optional sign, then digits with at most one point and at least one digit, then optionally
`e` or `E`, an optional sign and at least one digit. The words `inf`, `infinity` and `nan`, in
any case, stand for infinity and NaN. Nothing else is accepted: no blank, no `_`.

A number of more than 400 decimal places above the point is infinite as a binary64 value and one
below 400 places after it is zero, so only numbers between those bounds need exact rounding.
-/

namespace StreamWarden.Binary64

/-- The quiet NaN. -/
def nan : Binary64 := ⟨false, 2047, Nat.pow 2 51⟩

/-- The value of a run of decimal digits. -/
def digitsNumber (ds : List Char) : Nat := ds.foldl (fun n c => 10 * n + (c.toNat - 48)) 0

/-- The nearest binary64 value to `m * 10 ^ e`, with the sign given apart. -/
def ofScaled (negative : Bool) (m : Nat) (e : Int) : Binary64 :=
  let size : Int := (Nat.toDigits 10 m).length
  if m = 0 then zero negative
  else if e + size > 400 then infinity negative
  else if e + size < -400 then zero negative
  else if e ≥ 0 then round negative (m * Nat.pow 10 e.toNat) 1
  else round negative m (Nat.pow 10 (-e).toNat)

/-- Reads the unsigned part of a decimal text. -/
def unsignedOfText? (negative : Bool) (cs : List Char) : Option Binary64 :=
  let word := String.ofList (cs.map Char.toLower)
  if word = "inf" ∨ word = "infinity" then some (infinity negative)
  else if word = "nan" then some nan
  else
    let whole := cs.takeWhile Text.isDigit
    let rest := cs.drop whole.length
    let (fraction, rest) := match rest with
      | '.' :: more => (more.takeWhile Text.isDigit, more.dropWhile Text.isDigit)
      | _ => ([], rest)
    if whole.isEmpty ∧ fraction.isEmpty then none
    else
      let exponent : Option Int := match rest with
        | [] => some 0
        | c :: more =>
          if c = 'e' ∨ c = 'E' then
            let (sign, ds) : Int × List Char := match more with
              | '+' :: ds => (1, ds)
              | '-' :: ds => (-1, ds)
              | ds => (1, ds)
            if !ds.isEmpty ∧ ds.all Text.isDigit then some (sign * digitsNumber ds) else none
          else none
      exponent.map fun e =>
        ofScaled negative (digitsNumber (whole ++ fraction)) (e - fraction.length)

/-- Reads a decimal text as the nearest binary64 value. -/
def ofText? (s : String) : Option Binary64 :=
  match s.toList with
  | '+' :: cs => unsignedOfText? false cs
  | '-' :: cs => unsignedOfText? true cs
  | cs => unsignedOfText? false cs

example : (ofText? "2.5").map (·.truncate (-10) 10) = some 2 := by decide
example : (ofText? ".").isNone := by decide

end StreamWarden.Binary64
