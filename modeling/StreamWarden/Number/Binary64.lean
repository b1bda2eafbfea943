/-!
# Binary64 values

JSON numbers with a fraction or an exponent are held as IEEE 754 binary64 values. A value is
kept as its three fields (sign, biased exponent, fraction), and every operation is computed
exactly on natural numbers and then rounded once to the nearest value, a tie going to the even
fraction. This is the rounding of IEEE 754 arithmetic, so a product or a quotient computed here
is the one the standard prescribes.

The main definitions are `Binary64.round` (a nonnegative rational, rounded), `Binary64.mul`,
`Binary64.div`, and `Binary64.truncate`, which cuts toward zero and clamps to a given range.
-/

namespace StreamWarden

/-- A binary64 value: sign, biased exponent (`0` to `2047`) and 52-bit fraction. -/
structure Binary64 where
  negative : Bool
  exponent : Nat
  fraction : Nat
  deriving DecidableEq, Repr

namespace Binary64

/-- The number of fraction bits. -/
def fractionBits : Nat := 52

/-- The value `2 ^ 52`, the hidden leading bit of a normal value. -/
def hidden : Nat := Nat.pow 2 52

/-- Zero with the given sign. -/
def zero (negative : Bool) : Binary64 := ⟨negative, 0, 0⟩

/-- Infinity with the given sign. -/
def infinity (negative : Bool) : Binary64 := ⟨negative, 2047, 0⟩

/-- The value is neither infinite nor a NaN. -/
def isFinite (x : Binary64) : Bool := x.exponent < 2047

/-- The value is an infinity. -/
def isInfinite (x : Binary64) : Bool := x.exponent == 2047 && x.fraction == 0

/-- The value is a NaN. -/
def isNaN (x : Binary64) : Bool := x.exponent == 2047 && x.fraction != 0

/-- The value is a zero of either sign. -/
def isZero (x : Binary64) : Bool := x.exponent == 0 && x.fraction == 0

/-- The same magnitude with the other sign. -/
def neg (x : Binary64) : Binary64 := { x with negative := !x.negative }

/-- A finite magnitude as `significand * 2 ^ power`. -/
def significand (x : Binary64) : Nat :=
  if x.exponent == 0 then x.fraction else hidden + x.fraction

/-- The power of two that scales the significand of a finite value. -/
def power (x : Binary64) : Int :=
  if x.exponent == 0 then -1074 else (x.exponent : Int) - 1075

/-- `2 ^ k` when `k` is nonnegative and `1` otherwise. -/
def pow2 (k : Int) : Nat := Nat.pow 2 k.toNat

/-- A finite magnitude as a fraction `num / den`. -/
def ratio (x : Binary64) : Nat × Nat :=
  (x.significand * pow2 x.power, pow2 (-x.power))

/-- The integer part of `log2 (num / den)` for positive `num` and `den`. -/
def floorLog2 (num den : Nat) : Int :=
  let guess : Int := (num.log2 : Int) - (den.log2 : Int)
  if num * pow2 (-guess) ≥ den * pow2 guess then guess else guess - 1

/-- The quotient `num / den` rounded to the nearest integer, a tie going to the even one. -/
def roundHalfEven (num den : Nat) : Nat :=
  let q := num / den
  let r := num % den
  if 2 * r > den || (2 * r == den && q % 2 == 1) then q + 1 else q

/-- Encodes `q * 2 ^ e` where `q < 2 ^ 53`, and `q ≥ 2 ^ 52` unless `e = -1074`; a value too
large for the format becomes infinity. -/
def encode (negative : Bool) (q : Nat) (e : Int) : Binary64 :=
  if q < hidden then ⟨negative, 0, q⟩
  else
    let biased := e + 1075
    if biased ≥ 2047 then infinity negative else ⟨negative, biased.toNat, q - hidden⟩

/-- The binary64 value nearest to `num / den`, a tie going to the even fraction; the sign is
given apart, so that a zero keeps it. -/
def round (negative : Bool) (num den : Nat) : Binary64 :=
  if num = 0 ∨ den = 0 then zero negative
  else
    let e := max (floorLog2 num den - 52) (-1074)
    let q := roundHalfEven (num * pow2 (-e)) (den * pow2 e)
    if q == Nat.pow 2 53 then encode negative hidden (e + 1) else encode negative q e

/-- The binary64 value nearest to a natural number. -/
def ofNat (n : Nat) : Binary64 := round false n 1

/-- The product of two finite values, rounded. -/
def mul (x y : Binary64) : Binary64 :=
  let negative := x.negative != y.negative
  if x.isInfinite || y.isInfinite then infinity negative
  else
    let (a, b) := x.ratio
    let (c, d) := y.ratio
    round negative (a * c) (b * d)

/-- The quotient of a finite value by a finite nonzero value, rounded. -/
def div (x y : Binary64) : Binary64 :=
  let negative := x.negative != y.negative
  let (a, b) := x.ratio
  let (c, d) := y.ratio
  round negative (a * d) (b * c)

/-- The integer part of a finite value, cut toward zero. -/
def truncateFinite (x : Binary64) : Int :=
  let (num, den) := x.ratio
  let q : Int := (num / den : Nat)
  if x.negative then -q else q

/-- Cuts toward zero and clamps to `[lo, hi]`; a NaN gives zero and an infinity the nearer
bound. This is how a float is narrowed to a machine integer. -/
def truncate (x : Binary64) (lo hi : Int) : Int :=
  if x.isNaN then 0
  else if x.isInfinite then (if x.negative then lo else hi)
  else max lo (min hi x.truncateFinite)

/-- The binary64 value nearest to `10 ^ k`, as a literal `1eK` denotes it. -/
def pow10 (k : Nat) : Binary64 := round false (Nat.pow 10 k) 1

example : (ofNat 3).mul (pow10 0) = ofNat 3 := by decide
example : ((ofNat 39).div (pow10 1)).truncate (-10) 10 = 3 := by decide

end Binary64

end StreamWarden
