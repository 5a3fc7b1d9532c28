import SlopLint.Report.Json
import SlopLint.SourceTree.Basic
import SlopLint.Text.Utf8

/-!
# Writing reports

A report goes to a file of a tree, in UTF-8; missing folders on the way to it are made.
-/

namespace SlopLint.SourceTree

/-- Writes a report to the file that names lead to from a folder. `shown` gives the text of a path
in faults. -/
def writeReport (tree : SourceTree) (start : Path) (shown : List String → String)
    (names : List String) (timestamp : String) (report : Report) : Except FileFault SourceTree :=
  tree.writeFile start shown names (Text.Utf8.encode (report.text timestamp).toList)

end SlopLint.SourceTree
