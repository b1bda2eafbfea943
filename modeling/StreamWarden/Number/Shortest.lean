import StreamWarden.Number.Binary64

/-!
# Shortest decimal text of a binary64 value

A finite value is written with the fewest significant decimal digits that read back to the same
value: among the decimals of that length that lie in the value's rounding interval, the one
nearest to the value is taken, and of two equally near the even one. The interval of a value
holds the reals that round to it; its ends belong to it when the significand is even.

The digits `t` and power `k` (the decimal is `t * 10 ^ k`) are then laid out as the JSON writer
lays out a float: positional with a trailing `.0` for integers below `10 ^ 16`, positional with
a point inside up to sixteen integer digits, `0.000ddd` down to four leading zeros, and
otherwise one digit, a point, the rest and `e` with the exponent, which has no `+` sign. A
single digit drops the point: `1e16`, `5e-324`.
-/

namespace StreamWarden

namespace Binary64

/-- `X * 2 ^ E / 10 ^ k` as a fraction of natural numbers. -/
def scaledRatio (X : Nat) (E k : Int) : Nat × Nat :=
  (X * pow2 E * Nat.pow 10 (-k).toNat, pow2 (-E) * Nat.pow 10 k.toNat)

/-- The least integer at or above (or strictly above) a fraction. -/
def ceilFrom (num den : Nat) (inclusive : Bool) : Nat :=
  if inclusive then (num + den - 1) / den else num / den + 1

/-- The greatest integer at or below (or strictly below) a fraction. -/
def floorTo (num den : Nat) (inclusive : Bool) : Nat :=
  if inclusive then num / den else (num + den - 1) / den - 1

/-- Of the candidates in `[lo, hi]` around the exact quotient `num / den`, the nearest; a tie
goes to the even candidate. -/
def nearestIn (num den lo hi : Nat) : Nat :=
  let f := num / den
  let c := f + 1
  let fIn := lo ≤ f && f ≤ hi
  let cIn := lo ≤ c && c ≤ hi
  if fIn && cIn then
    -- distances are `r / den` and `(den - r) / den`
    let r := num % den
    if r == 0 then f
    else if 2 * r < den then f
    else if 2 * r > den then c
    else if f % 2 == 0 then f else c
  else if fIn then f
  else if cIn then c
  else lo

/-- Searches the decimal powers from `k` downward for the first one whose grid meets the
rounding interval `[mm, mp] * 2 ^ E`, and returns the chosen digits with that power. -/
def searchGrid (mv mm mp : Nat) (E : Int) (inclusive : Bool) : Nat → Int → Nat × Int
  | 0, k => (mv, k)
  | fuel + 1, k =>
    let (ln, ld) := scaledRatio mm E k
    let (hn, hd) := scaledRatio mp E k
    let lo := ceilFrom ln ld inclusive
    let hi := floorTo hn hd inclusive
    if lo ≤ hi ∧ 0 < hi then
      let (vn, vd) := scaledRatio mv E k
      (nearestIn vn vd lo hi, k)
    else searchGrid mv mm mp E inclusive fuel (k - 1)

/-- The shortest decimal `t * 10 ^ k` that reads back to a finite nonzero value. -/
def shortestDigits (x : Binary64) : Nat × Int :=
  let m := x.significand
  let E := x.power - 2
  let lowerShift : Nat := if x.fraction != 0 || x.exponent ≤ 1 then 1 else 0
  let mv := 4 * m
  let mp := 4 * m + 2
  let mm := 4 * m - 1 - lowerShift
  let bits : Int := (mp.log2 : Int) + 1 + E
  let start := bits * 30103 / 100000 + 2
  let (t, k) := searchGrid mv mm mp E (m % 2 == 0) 80 start
  -- drop trailing zeros so that the power carries them
  (t, k)

/-- Removes the factors of ten from `t * 10 ^ k`, moving them into the power. -/
def stripZeros : Nat → Nat → Int → Nat × Int
  | 0, t, k => (t, k)
  | fuel + 1, t, k => if t ≠ 0 ∧ t % 10 = 0 then stripZeros fuel (t / 10) (k + 1) else (t, k)

/-- The decimal digits of a natural number. -/
def digitsOf (n : Nat) : List Char := Nat.toDigits 10 n

/-- Lays out the digits `ds` of a decimal `ds * 10 ^ k` as the JSON writer does. -/
def layout (ds : List Char) (k : Int) : List Char :=
  let n : Int := ds.length
  let kk := n + k
  if 0 ≤ k ∧ kk ≤ 16 then ds ++ List.replicate k.toNat '0' ++ ['.', '0']
  else if 0 < kk ∧ kk ≤ 16 then ds.take kk.toNat ++ '.' :: ds.drop kk.toNat
  else if -5 < kk ∧ kk ≤ 0 then '0' :: '.' :: List.replicate (-kk).toNat '0' ++ ds
  else
    let expo := (toString (kk - 1)).toList
    match ds with
    | [d] => d :: 'e' :: expo
    | d :: rest => d :: '.' :: rest ++ 'e' :: expo
    | [] => 'e' :: expo

/-- The text of a finite value as the JSON writer gives it; a NaN or an infinity, which a JSON
text cannot hold, is written `null`. -/
def toText (x : Binary64) : String :=
  if !x.isFinite then "null"
  else
    let sign := if x.negative then "-" else ""
    if x.isZero then sign ++ "0.0"
    else
      let (t, k) := x.shortestDigits
      let (t, k) := stripZeros 20 t k
      sign ++ String.ofList (layout (digitsOf t) k)

end Binary64

end StreamWarden
