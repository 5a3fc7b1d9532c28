import SlopLint.Pattern.Matcher

/-!
# Searching a text

The occurrences of a pattern are found from left to right. The search goes on at the end of an
occurrence; behind an empty one it first looks, at the same place, for one that is not empty.
-/

namespace SlopLint.Pattern

/-- An occurrence: how many characters lie before it, and the characters it takes. -/
structure Occurrence where
  start : Nat
  text : List Char
deriving DecidableEq, Repr

/-- The end of the match at a place; `moving` asks for one that takes a character. -/
def matchAt (node : Node) (moving : Bool) (s : Cursor) : Option Cursor :=
  node.run s fun t => if moving && t.left == s.left then none else some t

/-- The first place from a cursor on at which the pattern matches, with the end of the match. -/
def firstMatch (node : Node) : Bool → List Char → List Char → Nat → Option (Cursor × Cursor)
  | moving, before, after, left =>
    let s : Cursor := ⟨before, after, left, []⟩
    match matchAt node moving s with
    | some t => some (s, t)
    | none =>
      match after with
      | [] => none
      | c :: rest => firstMatch node false (c :: before) rest (left - 1)
termination_by structural _ _ after => after

/-- The occurrences from a cursor on, empty ones included. -/
def occurrencesFrom (node : Node) (total : Nat) : Nat → Bool → Cursor → List Occurrence
  | 0, _, _ => []
  | fuel + 1, moving, from_ =>
    match firstMatch node moving from_.before from_.after from_.left with
    | none => []
    | some (s, t) =>
      ⟨total - s.left, s.after.take (s.left - t.left)⟩ ::
        occurrencesFrom node total fuel (t.left == s.left) t

end SlopLint.Pattern

namespace SlopLint

/-- The occurrences of a pattern in a text from left to right, empty ones left out. -/
def Pattern.occurrences (pattern : Pattern) (text : List Char) : List Pattern.Occurrence :=
  let found :=
    Pattern.occurrencesFrom pattern.node text.length (2 * text.length + 2) false (.atStart text)
  found.filter fun occurrence => !occurrence.text.isEmpty

/-- Whether a pattern matches somewhere in a text. -/
def Pattern.occursIn (pattern : Pattern) (text : List Char) : Bool :=
  (Pattern.firstMatch pattern.node false [] text text.length).isSome

end SlopLint
