import SlopLint.Text.Blank
import SlopLint.Text.CellWidth
import SlopLint.Text.Search

/-!
# Wrapping

A text is shown in lines that are no wider than the console. A line ends in front of the first
word that does not fit; the blanks behind a word may stick out and are then cut off. A word that is
wider than the console starts on a line of its own, and is either folded or cut off there.
-/

namespace SlopLint.Console

open Text

/-- What becomes of a word that is wider than the console. -/
inductive Overflow where
  | fold
  | ellipsis
deriving DecidableEq, Repr

namespace Wrap

/-- Characters that are not sent to a console: bell, backspace, vertical tab, form feed and
carriage return. -/
def isDropped (c : Char) : Bool :=
  [7, 8, 11, 12, 13].contains c.toNat

/-- The number of cells from one tab stop to the next. -/
def tabStop : Nat := 8

/-- The text with spaces for its tabs, when it starts in a given column. -/
def expandTabs (column : Nat) : List Char → List Char
  | [] => []
  | c :: rest =>
    if c = '\t' then
      let spaces := tabStop - column % tabStop
      List.replicate spaces ' ' ++ expandTabs (column + spaces) rest
    else c :: expandTabs (column + cellWidth c) rest

/-- The words of a text, each with the blanks behind it; the first one also has those in front. -/
def words (text : List Char) : List (List Char) :=
  match text.splitBy fun a b => !(isBlank a && !isBlank b) with
  | first :: second :: rest =>
    if first.all isBlank then (first ++ second) :: rest else first :: second :: rest
  | pieces => pieces

/-- Cuts a text into pieces of at most `width` cells, each as long as possible. The piece that is
being filled and the cells it takes are given. -/
def chop (width : Nat) (piece : List Char) (used : Nat) : List Char → List (List Char)
  | [] => [piece]
  | c :: rest =>
    if used + cellWidth c ≤ width then chop width (piece ++ [c]) (used + cellWidth c) rest
    else piece :: chop width [c] (cellWidth c) rest

/-- The pieces in which a word is shown that does not fit on the line before. -/
def pieces (overflow : Overflow) (width : Nat) (word : List Char) : List (List Char) :=
  if overflow = .fold ∧ width < cellLength (stripRight word) then chop width [] 0 word else [word]

/-- Puts words on lines; the line that is being filled is given. -/
def fill (overflow : Overflow) (width : Nat) (line : List Char) :
    List (List Char) → List (List Char)
  | [] => [line]
  | word :: rest =>
    if cellLength line + cellLength (stripRight word) ≤ width then
      fill overflow width (line ++ word) rest
    else
      let shown := pieces overflow width word
      let finished := if line.isEmpty then shown.dropLast else line :: shown.dropLast
      finished ++ fill overflow width (shown.getLast?.getD []) rest

/-- The line without blanks at its end, as many as it has characters more than fit. -/
def dropExcess (width : Nat) (line : List Char) : List Char :=
  let blanks := (line.reverse.takeWhile isBlank).length
  line.take (line.length - min blanks (line.length - width))

/-- The beginning of a text that takes the given cells. A wide character that would stick out
leaves a space. -/
def crop : Nat → List Char → List Char
  | _, [] => []
  | width, c :: rest =>
    if cellWidth c ≤ width then c :: crop (width - cellWidth c) rest
    else List.replicate width ' '

/-- The line brought to at most the given width. -/
def trim (overflow : Overflow) (width : Nat) (line : List Char) : List Char :=
  if cellLength line ≤ width then line
  else
    match overflow with
    | .fold => crop width line
    | .ellipsis => crop (width - 1) line ++ ['…']

/-- The lines that a text without line feeds takes. -/
def line (overflow : Overflow) (width : Nat) (text : List Char) : List (List Char) :=
  (fill overflow width [] (words (expandTabs 0 text))).map fun line =>
    trim overflow width (dropExcess width line)

end Wrap

/-- The lines that a text takes on a console of the given width. -/
def wrap (overflow : Overflow) (width : Nat) (text : List Char) : List (List Char) :=
  (splitOnChar '\n' (text.filter fun c => !Wrap.isDropped c)).flatMap (Wrap.line overflow width)

end SlopLint.Console
