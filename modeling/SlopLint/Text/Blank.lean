/-!
# Blank characters and stripping

Blank characters are the white space of the Unicode character database together with the four
information separators of ASCII. Stripping removes blank characters from the ends of a text and
nothing else.
-/

namespace SlopLint.Text

/-- White space of any script; the zero width space and the byte order mark are none. -/
def isBlank (c : Char) : Bool :=
  let n := c.toNat
  if n < 128 then (9 ≤ n && n ≤ 13) || (28 ≤ n && n ≤ 32)
  else
    n == 0x85 || n == 0xA0 || n == 0x1680 || (0x2000 ≤ n && n ≤ 0x200A) || n == 0x2028 ||
      n == 0x2029 || n == 0x202F || n == 0x205F || n == 0x3000

/-- White space of ASCII without the information separators. -/
def isBlankAscii (c : Char) : Bool :=
  c == ' ' || (9 ≤ c.toNat && c.toNat ≤ 13)

/-- The text without its leading blanks. -/
def stripLeft (text : List Char) : List Char :=
  text.dropWhile isBlank

/-- The text without its trailing blanks. -/
def stripRight (text : List Char) : List Char :=
  (stripLeft text.reverse).reverse

/-- The text without the blanks at both ends. -/
def strip (text : List Char) : List Char :=
  stripRight (stripLeft text)

end SlopLint.Text
