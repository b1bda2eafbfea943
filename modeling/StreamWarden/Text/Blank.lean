/-!
# Blank characters and trimming

The blank characters are those of the Unicode `White_Space` property: the ASCII controls from
tab to carriage return, the space, the next-line control, the no-break spaces, the ogham mark,
the typographic spaces, the line and paragraph separators and the ideographic space.

Trimming removes blank characters from both ends of a text and keeps everything between them.
All of the program's free-text fields (user ids, addresses, device names, configuration values)
are compared after this trimming.
-/

namespace StreamWarden.Text

/-- A character is blank when it has the Unicode `White_Space` property. -/
def isBlank (c : Char) : Bool :=
  let n := c.toNat
  (0x09 ≤ n && n ≤ 0x0D) || n == 0x20 || n == 0x85 || n == 0xA0 || n == 0x1680 ||
    (0x2000 ≤ n && n ≤ 0x200A) || n == 0x2028 || n == 0x2029 || n == 0x202F ||
    n == 0x205F || n == 0x3000

/-- Drops the blank characters at the front of a list of characters. -/
def dropBlank (cs : List Char) : List Char := cs.dropWhile isBlank

/-- Removes the blank characters at both ends of a list of characters. -/
def trimList (cs : List Char) : List Char := (dropBlank (dropBlank cs).reverse).reverse

/-- Removes the blank characters at both ends of a text. -/
def trim (s : String) : String := String.ofList (trimList s.toList)

/-- A text is blank when nothing is left of it after trimming. -/
def isBlankText (s : String) : Bool := s.toList.all isBlank

/-- The trimmed text, or nothing when it is blank. -/
def nonBlank (s : String) : Option String :=
  let t := trim s
  if t.isEmpty then none else some t

example : trim " \t a b\u3000" = "a b" := by decide
example : isBlank (Char.ofNat 0x3000) = true ∧ isBlank (Char.ofNat 0x200B) = false := by decide

end StreamWarden.Text
