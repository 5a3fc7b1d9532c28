import SlopLint.Json.Basic
import SlopLint.Number.Shortest

/-!
# Writing JSON

The written form is pure ASCII: every character outside the printable ASCII range is an escape,
those beyond `U+FFFF` as a pair of surrogates. Containers are laid out with two blanks for each
level, one item or member to a line; an empty container stays on its line.
-/

namespace SlopLint.Json

def hexDigit (n : Nat) : Char :=
  if n < 10 then Char.ofNat (48 + n) else Char.ofNat (87 + n)

/-- A code unit of sixteen bits as an escape. -/
def codeUnit (n : Nat) : List Char :=
  ['\\', 'u', hexDigit (n / 4096 % 16), hexDigit (n / 256 % 16), hexDigit (n / 16 % 16),
    hexDigit (n % 16)]

/-- The written form of one character inside a string. -/
def escape (c : Char) : List Char :=
  let n := c.toNat
  if c = '"' then ['\\', '"']
  else if c = '\\' then ['\\', '\\']
  else if c = '\n' then ['\\', 'n']
  else if c = '\r' then ['\\', 'r']
  else if c = '\t' then ['\\', 't']
  else if n = 8 then ['\\', 'b']
  else if n = 12 then ['\\', 'f']
  else if 32 ≤ n ∧ n < 127 then [c]
  else if n < 0x10000 then codeUnit n
  else codeUnit (0xD800 + (n - 0x10000) / 0x400) ++ codeUnit (0xDC00 + (n - 0x10000) % 0x400)

def quote (s : String) : List Char :=
  '"' :: s.toList.flatMap escape ++ ['"']

/-- The blanks in front of a line that stands `level` containers deep. -/
def indent (level : Nat) : List Char :=
  List.replicate (2 * level) ' '

/-- The text of a floating point number; the three that are no numbers are written as words. -/
def doubleText : Number.Double → List Char
  | .nan => "NaN".toList
  | .infinite negative => (if negative then "-Infinity" else "Infinity").toList
  | d => d.render.toList

mutual

/-- A value whose first line is already indented; `level` is the depth it stands at. Integers of any
size are written: the bound on their digits belongs to reading. -/
def render (level : Nat) : Json → List Char
  | .null => "null".toList
  | .bool value => (if value then "true" else "false").toList
  | .int value => (toString value).toList
  | .double value => doubleText value
  | .string value => quote value
  | .array [] => ['[', ']']
  | .array (item :: items) =>
    '[' :: '\n' :: indent (level + 1) ++ render (level + 1) item ++
      renderItems (level + 1) items ++ '\n' :: indent level ++ [']']
  | .object [] => ['{', '}']
  | .object ((name, value) :: members) =>
    '{' :: '\n' :: indent (level + 1) ++ quote name ++ ':' :: ' ' ::
      render (level + 1) value ++ renderMembers (level + 1) members ++ '\n' :: indent level ++ ['}']

/-- The items behind the first one, each with the comma in front of it. -/
def renderItems (level : Nat) : List Json → List Char
  | [] => []
  | item :: items => ',' :: '\n' :: indent level ++ render level item ++ renderItems level items

/-- The members behind the first one, each with the comma in front of it. -/
def renderMembers (level : Nat) : List (String × Json) → List Char
  | [] => []
  | (name, value) :: members =>
    ',' :: '\n' :: indent level ++ quote name ++ ':' :: ' ' :: render level value ++
      renderMembers level members

end

def write (value : Json) : String :=
  String.ofList (render 0 value)

end SlopLint.Json
