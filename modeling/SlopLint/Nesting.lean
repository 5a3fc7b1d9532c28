import SlopLint.Finding
import SlopLint.Pattern.Reader
import SlopLint.Pattern.Search
import SlopLint.Severity
import SlopLint.Text.Lines

/-!
# Nested control structures

A line is reported when it opens several control structures, and when it opens one behind a deep
indentation. A line can be reported for both.
-/

namespace SlopLint.Nesting

open Text

def ruleId : String := "complex_nested_conditionals"

def openers : List Pattern :=
  [.known {} "\\bif\\s*\\(", .known {} "\\bfor\\s*\\(", .known {} "\\bwhile\\s*\\("]

def openerCount (line : Line) : Nat :=
  openers.foldr (fun opener count => (opener.occurrences line).length + count) 0

/-- The indentation from which on a control structure counts as deep. -/
def deepIndent : Nat := 16

/-- The number of blanks a line starts with. -/
def indent (line : Line) : Nat :=
  line.length - (stripLeft line).length

/-- Whether a line opens a control structure behind a deep indentation, and is no comment and no
arrow function. -/
def isDeep (line : Line) : Bool :=
  let code := strip line
  !code.isEmpty && deepIndent ≤ indent line && hasAny line ["if (", "for (", "while ("] &&
    !"//".toList.isPrefixOf code && !has code "=>"

/-- A finding on a line. -/
def issue (file : String) (number : Int) (line : Line) (column : Int) (message : String) :
    Issue where
  ruleId := ruleId
  file := file
  line := number
  column := column
  code := String.ofList (strip line)
  message := message
  severity := Severity.medium.name

/-- The message for several control structures on one line. -/
def denseMessage : String :=
  "Found potentially complex nested control structures in a single line. " ++
    "Consider refactoring for readability."

/-- The message for a deeply indented control structure. -/
def deepMessage : String :=
  "Highly indented control structure suggests deep nesting. " ++
    "Consider refactoring for readability."

/-- The findings about nesting on a line. -/
def issues (file : String) (number : Int) (line : Line) : List Issue :=
  (if 1 < openerCount line then [issue file number line 1 denseMessage] else []) ++
    if isDeep line then [issue file number line (indent line + 1) deepMessage] else []

end SlopLint.Nesting
