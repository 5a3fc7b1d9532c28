import SlopLint.Text.Printable
import SlopLint.Json.Writer

/-!
# Quoted texts and literals

Messages show names and values as literals. A text stands in single quotes, or in double quotes
when it holds a single quote and no double one; characters that are not printable are escapes.
-/

namespace SlopLint.Text

/-- The last `width` hexadecimal digits of a number. -/
def hexDigits : Nat → Nat → List Char
  | 0, _ => []
  | width + 1, n => hexDigits width (n / 16) ++ [Json.hexDigit (n % 16)]

/-- One character inside a literal with the given quote. -/
def literalChar (quote : Char) (c : Char) : List Char :=
  let n := c.toNat
  if c = quote ∨ c = '\\' then ['\\', c]
  else if c = '\n' then ['\\', 'n']
  else if c = '\r' then ['\\', 'r']
  else if c = '\t' then ['\\', 't']
  else if isPrintable c then [c]
  else if n < 0x100 then '\\' :: 'x' :: hexDigits 2 n
  else if n < 0x10000 then '\\' :: 'u' :: hexDigits 4 n
  else '\\' :: 'U' :: hexDigits 8 n

/-- The quote that a text is shown in. -/
def literalQuote (text : List Char) : Char :=
  if text.contains '\'' && !text.contains '"' then '"' else '\''

def literal (text : String) : String :=
  let quote := literalQuote text.toList
  String.ofList (quote :: text.toList.flatMap (literalChar quote) ++ [quote])

def literalList (texts : List String) : String :=
  "[" ++ ", ".intercalate (texts.map literal) ++ "]"

mutual

/-- The literal of a value. Integers of any size have one: the bound that an interpreter may set on the
digits of an integer that is written is left out, as such an integer cannot be read either. -/
def valueLiteral : Json → String
  | .null => "None"
  | .bool value => if value then "True" else "False"
  | .int value => toString value
  | .double value => value.render
  | .string value => literal value
  | .array items => "[" ++ ", ".intercalate (itemLiterals items) ++ "]"
  | .object members => "\x7b" ++ ", ".intercalate (memberLiterals members) ++ "\x7d"

/-- The items of a list, each as a literal. -/
def itemLiterals : List Json → List String
  | [] => []
  | item :: items => valueLiteral item :: itemLiterals items

/-- The members of a mapping, each as a literal. -/
def memberLiterals : List (String × Json) → List String
  | [] => []
  | (name, value) :: members =>
    (literal name ++ ": " ++ valueLiteral value) :: memberLiterals members

end

end SlopLint.Text
