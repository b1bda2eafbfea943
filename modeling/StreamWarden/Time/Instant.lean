import StreamWarden.Text.Ascii
import StreamWarden.Text.Integer

/-!
# Instants and their text

Instants are counted in milliseconds since 1970-01-01T00:00:00Z on the proleptic Gregorian
calendar. The calendar covers the years -262143 to 262142; an instant outside that range is
clamped to its nearer end.

An instant is written in RFC 3339 form with milliseconds and `Z`. A year from 0 to 9999 has
four digits; any other year has a sign and at least four digits (`+10000`, `-0001`).
-/

namespace StreamWarden.Time

/-- The first instant of the calendar: -262143-01-01T00:00:00.000Z. -/
def minMs : Int := -8334601228800000

/-- The last millisecond of the calendar: +262142-12-31T23:59:59.999Z. -/
def maxMs : Int := 8210266876799999

/-- An instant brought into the calendar's range. -/
def clampMs (ms : Int) : Int := max minMs (min maxMs ms)

/-- The day number (days since 1970-01-01) of a calendar date. -/
def daysFromCivil (y : Int) (m d : Nat) : Int :=
  let y := if m ≤ 2 then y - 1 else y
  let era := y / 400
  let yoe := y - era * 400
  let mp : Int := if m > 2 then (m : Int) - 3 else (m : Int) + 9
  let doy := (153 * mp + 2) / 5 + (d : Int) - 1
  let doe := yoe * 365 + yoe / 4 - yoe / 100 + doy
  era * 146097 + doe - 719468

/-- The calendar date (year, month, day) of a day number. -/
def civilFromDays (z : Int) : Int × Nat × Nat :=
  let z := z + 719468
  let era := z / 146097
  let doe := z - era * 146097
  let yoe := (doe - doe / 1460 + doe / 36524 - doe / 146096) / 365
  let y := yoe + era * 400
  let doy := doe - (365 * yoe + yoe / 4 - yoe / 100)
  let mp := (5 * doy + 2) / 153
  let d := doy - (153 * mp + 2) / 5 + 1
  let m := if mp < 10 then mp + 3 else mp - 9
  ((if m ≤ 2 then y + 1 else y), m.toNat, d.toNat)

/-- A natural number with at least `width` digits, zeros in front. -/
def padded (width : Nat) (n : Nat) : String :=
  let ds := Nat.toDigits 10 n
  String.ofList (List.replicate (width - ds.length) '0' ++ ds)

/-- The year as RFC 3339 text: four digits from 0 to 9999, else sign and at least four. -/
def yearText (y : Int) : String :=
  if 0 ≤ y ∧ y ≤ 9999 then padded 4 y.toNat
  else (if y < 0 then "-" else "+") ++ padded 4 y.natAbs

/-- The RFC 3339 text of an instant, with milliseconds and `Z`; clamped to the calendar. -/
def rfc3339Millis (ms : Int) : String :=
  let ms := clampMs ms
  let days := ms / 86400000
  let rest := (ms % 86400000).toNat
  let (y, mo, d) := civilFromDays days
  let h := rest / 3600000
  let mi := rest / 60000 % 60
  let s := rest / 1000 % 60
  let milli := rest % 1000
  s!"{yearText y}-{padded 2 mo}-{padded 2 d}T{padded 2 h}:{padded 2 mi}:{padded 2 s}.{padded 3 milli}Z"

/-- The RFC 3339 text of an instant with `Z`, with milliseconds only when there are some. -/
def rfc3339 (ms : Int) : String :=
  let t := rfc3339Millis ms
  if clampMs ms % 1000 = 0 then String.ofList (t.toList.take (t.length - 5)) ++ "Z" else t

/-- The number of days of a month. -/
def monthDays (y : Int) (m : Nat) : Nat :=
  if m = 2 then (if (y % 4 = 0 ∧ y % 100 ≠ 0) ∨ y % 400 = 0 then 29 else 28)
  else if m = 4 ∨ m = 6 ∨ m = 9 ∨ m = 11 then 30 else 31

/-- Takes exactly `n` ASCII digits. -/
def fixedDigits (n : Nat) (cs : List Char) : Option (Nat × List Char) :=
  let ds := cs.take n
  if ds.length = n ∧ ds.all Text.isDigit then
    some (ds.foldl (fun a c => 10 * a + (c.toNat - 48)) 0, cs.drop n)
  else none

/-- Expects one character. -/
def expectChar (c : Char) : List Char → Option (List Char)
  | d :: rest => if d = c then some rest else none
  | [] => none

/-- Reads an RFC 3339 date and time (`T`, `t` or a space between them; `Z`, `z` or a numeric
offset at the end; any fraction of a second) as milliseconds, the fraction cut to whole
milliseconds. -/
def parseRfc3339? (s : String) : Except String Int := do
  let cs := s.toList
  let some (y, cs) := fixedDigits 4 cs | throw (if cs.length < 4 then "premature end of input" else "input contains invalid characters")
  let some cs := expectChar '-' cs | throw "input contains invalid characters"
  let some (mo, cs) := fixedDigits 2 cs | throw "input contains invalid characters"
  let some cs := expectChar '-' cs | throw "input contains invalid characters"
  let some (d, cs) := fixedDigits 2 cs | throw "input contains invalid characters"
  let cs ← match cs with
    | c :: rest => if c = 'T' ∨ c = 't' ∨ c = ' ' then pure rest else throw "input contains invalid characters"
    | [] => throw "premature end of input"
  let some (h, cs) := fixedDigits 2 cs | throw "input contains invalid characters"
  let some cs := expectChar ':' cs | throw "input contains invalid characters"
  let some (mi, cs) := fixedDigits 2 cs | throw "input contains invalid characters"
  let some cs := expectChar ':' cs | throw "input contains invalid characters"
  let some (sec, cs) := fixedDigits 2 cs | throw "input contains invalid characters"
  let (milli, cs) := match cs with
    | '.' :: rest =>
      let frac := rest.takeWhile Text.isDigit
      let digits := (frac ++ ['0', '0', '0']).take 3
      (digits.foldl (fun a c => 10 * a + (c.toNat - 48)) 0, rest.drop frac.length)
    | cs => (0, cs)
  let offsetMin : Int ← match cs with
    | ['Z'] | ['z'] => pure 0
    | sign :: rest =>
      if sign = '+' ∨ sign = '-' then
        match fixedDigits 2 rest with
        | some (oh, r) =>
          match r with
          | ':' :: r2 => match fixedDigits 2 r2 with
            | some (om, []) =>
              let v : Int := oh * 60 + om
              pure (if sign = '-' then -v else v)
            | _ => throw "input contains invalid characters"
          | _ => throw "input contains invalid characters"
        | none => throw "input contains invalid characters"
      else throw "input contains invalid characters"
    | [] => throw "premature end of input"
  if mo < 1 ∨ mo > 12 ∨ d < 1 ∨ d > monthDays y mo ∨ h > 23 ∨ mi > 59 ∨ sec > 60 then
    throw "input is out of range"
  let sec := if sec = 60 then 59 else sec
  let days := daysFromCivil y mo d
  pure (days * 86400000 + (h * 3600000 + mi * 60000 + sec * 1000 + milli : Nat) - offsetMin * 60000)

/-- Whole milliseconds of a duration, saturating at the largest 64-bit integer. -/
def durationMs (secs nanos : Nat) : Int :=
  min Text.i64Max (secs * 1000 + nanos / 1000000 : Nat)

example : rfc3339Millis 1700000000123 = "2023-11-14T22:13:20.123Z" := by decide
example : rfc3339Millis (-62135596800000) = "0001-01-01T00:00:00.000Z" := by decide

end StreamWarden.Time
