import SlopLint.Text.Blank
import SlopLint.Text.Digit
import SlopLint.Text.Letter
import SlopLint.Text.LetterCase

/-!
# Patterns

A pattern is a tree of regular operators with captures, back-references, look-around, atomic
groups and conditionals. Its leaves test single characters, under a mode that says whether case
counts and whether the character classes are those of ASCII.
-/

namespace SlopLint.Pattern

/-- How characters are compared and classified. -/
structure Mode where
  ignoreCase : Bool
  ascii : Bool
deriving DecidableEq, Repr

/-- The three classes of characters that an escape can name. -/
inductive Category where
  | digit
  | blank
  | word
deriving DecidableEq, Repr

def Category.holds (ascii : Bool) (c : Char) : Category → Bool
  | digit => if ascii then c.isDigit else Text.isDecimal c
  | blank => if ascii then Text.isBlankAscii c else Text.isBlank c
  | word => if ascii then Text.isWordAscii c else Text.isWord c

/-- A member of a character set. Code points are plain numbers, as a pattern may name one that no
text holds. -/
inductive SetItem where
  | code (n : Nat)
  | range (lo hi : Nat)
  | category (negated : Bool) (kind : Category)
deriving DecidableEq, Repr

/-- A test on one character. -/
inductive CharTest where
  | code (negated : Bool) (n : Nat)
  | any
  | notNewline
  | category (negated : Bool) (kind : Category)
  | set (negated : Bool) (items : List SetItem)
deriving DecidableEq, Repr

/-- A test on a place between characters. -/
inductive Anchor where
  | textStart
  | lineStart
  | textEnd
  | beforeLastNewline
  | lineEnd
  | wordBoundary (negated ascii : Bool)
deriving DecidableEq, Repr

/-- The order in which the counts of a repetition are tried. A possessive repetition takes as much
as it can and never gives any of it back. -/
inductive Greed where
  | greedy
  | lazy
  | possessive
deriving DecidableEq, Repr

/-- The tree of a pattern. -/
inductive Node where
  | empty
  | char (mode : Mode) (test : CharTest)
  | anchor (place : Anchor)
  | cat (first second : Node)
  | alt (first second : Node)
  | capture (group : Nat) (body : Node)
  | loop (greed : Greed) (min : Nat) (max : Option Nat) (body : Node)
  | atomic (body : Node)
  | ahead (negated : Bool) (body : Node)
  | behind (negated : Bool) (width : Nat) (body : Node)
  | backref (mode : Mode) (group : Nat)
  | conditional (group : Nat) (yes no : Node)
deriving DecidableEq, Repr

namespace Node

def sequence : List Node → Node
  | [] => empty
  | [node] => node
  | node :: nodes => cat node (sequence nodes)

/-- The nodes as alternatives, the first one preferred. -/
def choice : List Node → Node
  | [] => empty
  | [node] => node
  | node :: nodes => alt node (choice nodes)

end Node

end SlopLint.Pattern

namespace SlopLint

/-- A compiled pattern with the text it was read from. -/
structure Pattern where
  source : String
  node : Pattern.Node
deriving DecidableEq, Repr

end SlopLint
