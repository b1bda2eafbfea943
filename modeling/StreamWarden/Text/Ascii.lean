/-!
# ASCII case folding

Names of enumerations, host names and the answers of boolean settings are compared without
regard to ASCII case: only the letters `A` to `Z` fold onto `a` to `z`, and every other character
stays as it is.
-/

namespace StreamWarden.Text

/-- Folds ASCII capitals onto small letters and keeps every other character. -/
def asciiLower (s : String) : String := String.ofList (s.toList.map Char.toLower)

/-- Two texts are equal up to ASCII case when they agree character by character after folding. -/
def eqIgnoreAsciiCase (a b : String) : Bool :=
  a.toList.map Char.toLower == b.toList.map Char.toLower

/-- A character is an ASCII decimal digit. -/
def isDigit (c : Char) : Bool := '0' ≤ c && c ≤ '9'

/-- The value of a nonempty run of ASCII decimal digits. -/
def digitsValue? : List Char → Option Nat
  | [] => none
  | cs => if cs.all isDigit then some (cs.foldl (fun n c => 10 * n + (c.toNat - '0'.toNat)) 0)
    else none

example : asciiLower "ÉcRaN" = "Écran" := by decide
example : eqIgnoreAsciiCase "Kill_Newest" "kill_newest" = true := by decide

end StreamWarden.Text
