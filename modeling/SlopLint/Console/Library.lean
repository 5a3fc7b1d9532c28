import SlopLint.Text.Blank

/-!
# The console library

A text with markup is made of plain parts and tags. What the styles and the emoji of the library
are is not said here: it is taken from the library, with the little that all texts rely on.
-/

namespace SlopLint.Console

/-- A tag: its name, and what follows an equals sign. -/
structure Tag where
  name : List Char
  parameters : Option (List Char)
deriving DecidableEq

def Tag.text (tag : Tag) : String :=
  let parameters := (tag.parameters.map ('=' :: ·)).getD []
  "[" ++ String.ofList (tag.name ++ parameters) ++ "]"

/-- A part of a text with markup; a tag has its position. -/
inductive Part where
  | plain (text : List Char)
  | tag (tag : Tag) (position : Nat)
deriving DecidableEq

/-- Whether a part shows a text, opens the style `bold`, or closes what was opened last. -/
def Part.isBasic : Part → Bool
  | plain _ => true
  | tag what _ => what = ⟨"bold".toList, none⟩ || what = ⟨"/".toList, none⟩

/-- What markup takes from the console library. -/
class Library where
  /-- The emoji that goes by a name. -/
  emoji? : List Char → Option (List Char)
  /-- The name under which a style is known, or what is told of a style that cannot be read. -/
  normalize : List Char → Except String (List Char)
  /-- What is told of the parameters of an action that cannot be read. -/
  actionFault? : List Char → Option String
  /-- What is told when parts are shown on a console of some width and one of their styles cannot be
  read. -/
  styleFault? : Nat → List Part → Option String
  emoji?_slashless : ∀ name shown, emoji? name = some shown → '\\' ∉ name ∧ '\\' ∉ shown
  normalize_bold : normalize "bold".toList = .ok "bold".toList
  styleFault?_of_basic : ∀ width parts, (∀ part ∈ parts, part.isBasic = true) →
    styleFault? width parts = none

namespace Library

def attributeNames : List (String × String) := [
  ("b", "bold"), ("d", "dim"), ("i", "italic"), ("u", "underline"), ("r", "reverse"),
  ("c", "conceal"), ("s", "strike"), ("uu", "underline2"), ("o", "overline")]

/-- The name under which an attribute is known, case not counting. -/
def attributeName (name : List Char) : List Char :=
  let plain := String.ofList ((Text.strip name).map Char.toLower)
  ((attributeNames.lookup plain).getD plain).toList

/-- A library with the given emoji, whose styles are single attributes. -/
abbrev plain (emoji : List (String × String)) : Library where
  emoji? name :=
    if '\\' ∈ name then none
    else ((emoji.lookup (String.ofList name)).map String.toList).filter ('\\' ∉ ·)
  normalize name := .ok (attributeName name)
  actionFault? _ := none
  styleFault? _ _ := none
  emoji?_slashless name shown h := by
    split at h
    · cases h
    · exact ⟨‹_›, by simpa using (Option.filter_eq_some_iff.mp h).2⟩
  normalize_bold := congrArg Except.ok (by decide)
  styleFault?_of_basic _ _ _ := rfl

end Library

end SlopLint.Console
