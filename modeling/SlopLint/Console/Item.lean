import SlopLint.Console.Markup
import SlopLint.Console.Table

/-!
# Printing to a console

What is printed is a list of items: texts that may hold markup, plain texts, and tables. Every item
ends its last line. Printing stops at the first item with faulty markup; what stands before it is
printed. Emoji codes are replaced in plain texts as well.
-/

namespace SlopLint.Console

inductive Item where
  | marked (text : String)
  | plain (text : String)
  | table (table : Table)
deriving DecidableEq

/-- The lines of an item on a console of the given width. -/
def Item.lines [Library] (width : Nat) : Item → Except MarkupFault (List (List Char))
  | marked text => do pure (wrap .fold width (← Markup.renderOn width text.toList))
  | plain text => .ok (wrap .fold width (Emoji.replace text.toList))
  | table grid => .ok (grid.lines width)

/-- Lines as one text, each with a line feed behind it. -/
def linesText (lines : List (List Char)) : List Char :=
  lines.flatMap (· ++ ['\n'])

/-- What has been printed, and the fault that ended it. -/
structure Printed where
  text : List Char
  fault : Option MarkupFault
deriving DecidableEq

/-- Prints items on a console of the given width. -/
def print [Library] (width : Nat) : List Item → Printed
  | [] => ⟨[], none⟩
  | item :: items =>
    match item.lines width with
    | .error fault => ⟨[], some fault⟩
    | .ok lines =>
      let rest := print width items
      ⟨linesText lines ++ rest.text, rest.fault⟩

end SlopLint.Console
