import SlopLint.Json.Basic
import SlopLint.Json.Fault

/-!
# Reading JSON

A reader takes the characters that are left and gives a value with the characters behind it, or
the first fault. Beyond the standard it takes `NaN` and the two infinities, and of members with
the same name it keeps the last value.
-/

namespace SlopLint.Json

/-- Fails with a cause in front of the characters that are left. -/
def failAt {α : Type} (cause : Cause) (rest : List Char) : Except Fault α :=
  .error ⟨cause, rest.length⟩

/-- The four blank characters between the parts of a JSON text. -/
def isGap (c : Char) : Bool :=
  c == ' ' || c == '\t' || c == '\n' || c == '\r'

/-- The text from its first character that is not blank. -/
def skipGap (text : List Char) : List Char :=
  text.dropWhile isGap

def hexValue? (c : Char) : Option Nat :=
  if c.isDigit then some (c.toNat - 48)
  else if 'a' ≤ c ∧ c ≤ 'f' then some (c.toNat - 87)
  else if 'A' ≤ c ∧ c ≤ 'F' then some (c.toNat - 55)
  else none

def hexCode? : List Char → Option (Nat × List Char)
  | a :: b :: c :: d :: rest => do
    let a ← hexValue? a
    let b ← hexValue? b
    let c ← hexValue? c
    let d ← hexValue? d
    pure (((a * 16 + b) * 16 + c) * 16 + d, rest)
  | _ => none

/-- The character that an escape letter stands for. -/
def escapeLetter? : Char → Option Char
  | '"' => some '"'
  | '\\' => some '\\'
  | '/' => some '/'
  | 'b' => some '\x08'
  | 'f' => some '\x0c'
  | 'n' => some '\n'
  | 'r' => some '\r'
  | 't' => some '\t'
  | _ => none

/-- Joins two surrogate code units; a pair that is none leaves the first unit alone. -/
def joinSurrogates? (high : Nat) (rest : List Char) : Except Fault (Option (Nat × List Char)) :=
  match rest with
  | '\\' :: 'u' :: digits =>
    if 0xD800 ≤ high ∧ high ≤ 0xDBFF ∧ 5 ≤ digits.length then
      match hexCode? digits with
      | none => failAt .invalidCodeEscape ('u' :: digits)
      | some (low, after) =>
        if 0xDC00 ≤ low ∧ low ≤ 0xDFFF then
          .ok (some (0x10000 + (high - 0xD800) * 0x400 + (low - 0xDC00), after))
        else .ok none
    else .ok none
  | _ => .ok none

/-- The character of a `\u` escape, from the letter `u` on. A lone surrogate is replaced. -/
def codeEscape (text : List Char) : Except Fault (Char × List Char) :=
  match text.drop 1 |>.drop 4, hexCode? (text.drop 1) with
  | _ :: _, some (unit, rest) => do
    match ← joinSurrogates? unit rest with
    | some (code, after) => pure (Char.ofNat code, after)
    | none =>
      pure (if 0xD800 ≤ unit ∧ unit ≤ 0xDFFF then '\ufffd' else Char.ofNat unit, rest)
  | _, _ => failAt .invalidCodeEscape text

/-- The rest of a string behind its opening quote; `opening` is what was left at that quote. -/
def stringTail (opening : Nat) : Nat → List Char → List Char → Except Fault (String × List Char)
  | 0, _, _ => .error ⟨.unterminatedString, opening⟩
  | fuel + 1, read, text =>
    match text with
    | [] => .error ⟨.unterminatedString, opening⟩
    | '"' :: rest => .ok (String.ofList read.reverse, rest)
    | '\\' :: [] => .error ⟨.unterminatedString, opening⟩
    | '\\' :: 'u' :: rest => do
      let (c, after) ← codeEscape ('u' :: rest)
      stringTail opening fuel (c :: read) after
    | '\\' :: letter :: rest =>
      match escapeLetter? letter with
      | some c => stringTail opening fuel (c :: read) rest
      | none => failAt .invalidEscape text
    | c :: rest =>
      if c.toNat < 32 then failAt .controlCharacter text
      else stringTail opening fuel (c :: read) rest

/-- A string, from behind its opening quote. -/
def readString (text : List Char) : Except Fault (String × List Char) :=
  stringTail (text.length + 1) (text.length + 1) [] text

/-- The digits at the start of a text and what follows them. -/
def digits (text : List Char) : List Char × List Char :=
  (text.takeWhile Char.isDigit, text.dropWhile Char.isDigit)

/-- The number that a list of decimal digits denotes. -/
def natOfDigits (ds : List Char) : Nat :=
  ds.foldl (fun n c => n * 10 + (c.toNat - 48)) 0

/-- The digits behind a decimal point, if there are any. -/
def fraction (text : List Char) : List Char × List Char :=
  match text with
  | '.' :: rest => if (digits rest).1.isEmpty then ([], text) else digits rest
  | _ => ([], text)

/-- A decimal exponent, if there is one. -/
def exponent? (text : List Char) : Option (Int × List Char) :=
  let unsigned (sign : Int) (text : List Char) :=
    if (digits text).1.isEmpty then none
    else some (sign * natOfDigits (digits text).1, (digits text).2)
  match text with
  | e :: rest =>
    if e == 'e' || e == 'E' then
      match rest with
      | '-' :: after => unsigned (-1) after
      | '+' :: after => unsigned 1 after
      | _ => unsigned 1 rest
    else none
  | [] => none

/-- The digits before the decimal point: a zero alone, or digits that do not start with one. -/
def wholePart? (text : List Char) : Option (List Char × List Char) :=
  match text with
  | '0' :: rest => some (['0'], rest)
  | _ => if (digits text).1.isEmpty then none else some (digits text)

/-- The number whose digits start `unsigned`; `text` is what was left in front of its sign. It is
whole when it has neither decimals nor an exponent; then it has at most as many digits as the limit
says, if there is one. -/
def readUnsigned (limit : Option Nat) (text : List Char) (negative : Bool) (unsigned : List Char) :
    Except Fault (Json × List Char) :=
  match wholePart? unsigned with
  | none => failAt .expectedValue text
  | some (whole, rest) =>
    let (decimals, afterPoint) := fraction rest
    match exponent? afterPoint with
    | some (exponent, after) =>
      .ok (.double (.ofDecimal negative (natOfDigits (whole ++ decimals))
        (exponent - decimals.length)), after)
    | none =>
      if decimals.isEmpty then
        if limit.any (· < whole.length) then failAt (.integerTooLong whole.length) text
        else
          let n : Int := natOfDigits whole
          .ok (.int (if negative then -n else n), rest)
      else
        .ok (.double (.ofDecimal negative (natOfDigits (whole ++ decimals))
          (-decimals.length)), afterPoint)

/-- A number, with a minus sign in front of it or without. -/
def readNumber (limit : Option Nat) (text : List Char) : Except Fault (Json × List Char) :=
  match text with
  | '-' :: rest => readUnsigned limit text true rest
  | _ => readUnsigned limit text false text

def words : List (String × Json) := [
  ("null", .null), ("true", .bool true), ("false", .bool false), ("NaN", .double .nan),
  ("Infinity", .double (.infinite false)), ("-Infinity", .double (.infinite true))]

/-- A word, or else a number. -/
def readScalar (limit : Option Nat) (text : List Char) : Except Fault (Json × List Char) :=
  match words.find? fun word => word.1.toList.isPrefixOf text with
  | some (word, value) => .ok (value, text.drop word.length)
  | none => readNumber limit text

mutual

/-- A value; `fuel` bounds the nesting and the number of parts. -/
def readValue (limit : Option Nat) : Nat → List Char → Except Fault (Json × List Char)
  | 0, text => failAt .expectedValue text
  | fuel + 1, text =>
    match text with
    | '"' :: rest => do
      let (value, after) ← readString rest
      pure (.string value, after)
    | '[' :: rest =>
      match skipGap rest with
      | ']' :: after => .ok (.array [], after)
      | items => readItems limit fuel [] items
    | '{' :: rest =>
      match skipGap rest with
      | '}' :: after => .ok (.object [], after)
      | members => readMembers limit fuel [] members
    | _ => readScalar limit text

/-- The items of an array that is not empty, in front of the next item; `items` holds those read,
last one first. -/
def readItems (limit : Option Nat) :
    Nat → List Json → List Char → Except Fault (Json × List Char)
  | 0, _, text => failAt .expectedValue text
  | fuel + 1, items, text => do
    let (item, rest) ← readValue limit fuel text
    match skipGap rest with
    | ']' :: after => pure (.array (item :: items).reverse, after)
    | ',' :: after => readItems limit fuel (item :: items) (skipGap after)
    | other => failAt .expectedComma other

/-- The members of an object that is not empty, in front of the next name. -/
def readMembers (limit : Option Nat) :
    Nat → List (String × Json) → List Char → Except Fault (Json × List Char)
  | 0, _, text => failAt .expectedName text
  | fuel + 1, members, text =>
    match text with
    | '"' :: rest => do
      let (name, afterName) ← readString rest
      match skipGap afterName with
      | ':' :: beforeValue =>
        let (value, afterValue) ← readValue limit fuel (skipGap beforeValue)
        match skipGap afterValue with
        | '}' :: after => pure (.object (setMember name value members), after)
        | ',' :: after => readMembers limit fuel (setMember name value members) (skipGap after)
        | other => failAt .expectedComma other
      | other => failAt .expectedColon other
    | _ => failAt .expectedName text

end

/-- The value that a whole text denotes, with at most as many digits in a whole number as the limit
says. -/
def parse (limit : Option Nat) (text : List Char) : Except Fault Json :=
  match text with
  | '\ufeff' :: _ => failAt .byteOrderMark text
  | _ => do
    let (value, rest) ← readValue limit (2 * text.length + 2) (skipGap text)
    match skipGap rest with
    | [] => pure value
    | extra => failAt .extraData extra

end SlopLint.Json
