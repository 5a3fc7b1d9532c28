import SlopLint.Console.Library

/-!
# Emoji codes

The name of an emoji between two colons stands for the emoji, in texts with markup and in plain
texts alike. A code may end in the form that is asked for, of letters or of a picture. Codes without
an emoji are left as they are.
-/

namespace SlopLint.Console.Emoji

/-- The code behind a colon: what stands in front of the next colon, if no blank is among it. -/
def code? : List Char → Option (List Char)
  | [] => none
  | c :: rest =>
    if c = ':' then some []
    else if Text.isBlank c then none
    else (code? rest).map (c :: ·)

/-- The endings of codes, each with the mark of its form. -/
def forms : List (String × Char) := [("-emoji", '\uFE0F'), ("-text", '\uFE0E')]

/-- The emoji of a code. -/
def ofCode? [Library] (code : List Char) : Option (List Char) :=
  match forms.find? fun form => form.1.toList.isSuffixOf code with
  | some (ending, mark) =>
    (Library.emoji? (code.take (code.length - ending.length))).map (· ++ [mark])
  | none => Library.emoji? code

/-- What is shown for a code. -/
def shown [Library] (code : List Char) : List Char :=
  (ofCode? code).getD (':' :: code ++ [':'])

/-- The text with its emoji, behind some characters that belong to the last code. -/
def replaceFrom [Library] : Nat → List Char → List Char
  | _, [] => []
  | skip + 1, _ :: rest => replaceFrom skip rest
  | 0, c :: rest =>
    match if c = ':' then code? rest else none with
    | some code => shown code ++ replaceFrom (code.length + 1) rest
    | none => c :: replaceFrom 0 rest

/-- The text with its emoji. -/
def replace [Library] (text : List Char) : List Char :=
  replaceFrom 0 text

end SlopLint.Console.Emoji
