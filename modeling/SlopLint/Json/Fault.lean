import SlopLint.Text.Lines

/-!
# Faults of JSON texts

What can be wrong with a JSON text, where it is wrong, and how the fault is told.
-/

namespace SlopLint.Json

/-- What is wrong at a place of a JSON text. -/
inductive Cause where
  | expectedValue
  | expectedName
  | expectedColon
  | expectedComma
  | unterminatedString
  | controlCharacter
  | invalidEscape
  | invalidCodeEscape
  | extraData
  | byteOrderMark
  | integerTooLong (digits : Nat)
deriving DecidableEq, Repr

/-- A cause, with the number of characters that were left to read where it was found. -/
structure Fault where
  cause : Cause
  left : Nat
deriving DecidableEq, Repr

/-- The number of digits that a whole number may have unless another limit is set. -/
def digitLimit : Nat := 4300

def Cause.text : Cause → String
  | expectedValue => "Expecting value"
  | expectedName => "Expecting property name enclosed in double quotes"
  | expectedColon => "Expecting ':' delimiter"
  | expectedComma => "Expecting ',' delimiter"
  | unterminatedString => "Unterminated string starting at"
  | controlCharacter => "Invalid control character at"
  | invalidEscape => "Invalid \\escape"
  | invalidCodeEscape => "Invalid \\uXXXX escape"
  | extraData => "Extra data"
  | byteOrderMark => "Unexpected UTF-8 BOM (decode using utf-8-sig)"
  | integerTooLong digits =>
    s!"Exceeds the limit ({digitLimit} digits) for integer string conversion: " ++
      s!"value has {digits} digits; use sys.set_int_max_str_digits() to increase the limit"

/-- The fault told with its line, its column and its distance from the start of the text. -/
def Fault.message (fault : Fault) (text : List Char) : String :=
  let position := text.length - fault.left
  let (line, column) := Text.lineAndColumn text position
  match fault.cause with
  | .integerTooLong _ => fault.cause.text
  | _ => s!"{fault.cause.text}: line {line} column {column} (char {position})"

end SlopLint.Json
