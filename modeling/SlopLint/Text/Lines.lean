import SlopLint.Text.Search

/-!
# Lines

A source text is cut into lines at line feeds only; a carriage return that ends a piece belongs
to the line break. Reading a file first turns every line break into a line feed. Lines are
addressed by integers, and a negative index counts from the end.
-/

namespace SlopLint.Text

/-- A line of a source text, without its line break. -/
abbrev Line := List Char

/-- The line without one carriage return at its end. -/
def dropTrailingReturn (line : Line) : Line :=
  if line.getLast? == some '\r' then line.dropLast else line

/-- The lines of a text: one more than it has line feeds. -/
def lines (content : List Char) : List Line :=
  (splitOnChar '\n' content).map dropTrailingReturn

/-- Every carriage return, alone or before a line feed, becomes a line feed. -/
def normalizeBreaks : List Char → List Char
  | [] => []
  | '\r' :: '\n' :: rest => '\n' :: normalizeBreaks rest
  | '\r' :: rest => '\n' :: normalizeBreaks rest
  | c :: rest => c :: normalizeBreaks rest

/-- The line of a position and the column on it, both counted from one. -/
def lineAndColumn (text : List Char) (position : Nat) : Nat × Nat :=
  let before := text.take position
  (before.count '\n' + 1, (before.reverse.takeWhile (· != '\n')).length + 1)

/-- The position in a list of the given length that an index names; negative ones count from
the end. -/
def position? (length : Nat) (index : Int) : Option Nat :=
  let i := if index < 0 then index + length else index
  if 0 ≤ i ∧ i < length then some i.toNat else none

/-- The entry that an index names, negative ones counting from the end. -/
def nth? {α : Type} (entries : List α) (index : Int) : Option α :=
  (position? entries.length index).bind fun i => entries[i]?

/-- A bound of a range brought into `0 … length`; negative ones count from the end. -/
def clampBound (length : Nat) (bound : Int) : Nat :=
  if bound < 0 then (bound + length).toNat else min bound.toNat length

/-- The entries from `lo` up to but not including `hi`, negative bounds counting from the end. -/
def range {α : Type} (entries : List α) (lo hi : Int) : List α :=
  let start := clampBound entries.length lo
  (entries.drop start).take (clampBound entries.length hi - start)

theorem nth?_natCast {α : Type} (entries : List α) (i : Nat) :
    nth? entries (i : Int) = entries[i]? := by
  have nonneg : ¬ (i : Int) < 0 := by omega
  by_cases h : i < entries.length <;> simp [nth?, position?, nonneg, h]

end SlopLint.Text
