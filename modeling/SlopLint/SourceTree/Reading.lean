import SlopLint.Detection
import SlopLint.SourceTree.Basic
import SlopLint.Text.Utf8

/-!
# Reading sources

Source files and settings are UTF-8 texts whose line breaks all become line feeds. Files are read
in order, and the first that cannot be read ends the reading.
-/

namespace SlopLint

/-- Why sources cannot be read: their root is no folder, one of them cannot be reached, or its bytes
are those of no text. -/
inductive ReadFault where
  | noRoot (root : Path)
  | file (fault : FileFault)
  | encoding (fault : Text.Utf8.Fault)
deriving DecidableEq, Repr

def ReadFault.message : ReadFault → String
  | noRoot root => s!"root must be an existing directory: {Path.absolute root}"
  | file fault => fault.message
  | encoding fault => fault.message

def textOfBytes (bytes : List UInt8) : Except ReadFault (List Char) :=
  match Text.Utf8.decode bytes with
  | .ok text => .ok (Text.normalizeBreaks text)
  | .error fault => .error (.encoding fault)

namespace SourceTree

/-- The source file that a path below a root leads to. `rootText` is how the root is told in
faults. -/
def readSource (tree : SourceTree) (root : Path) (rootText : String) (path : String) :
    Except ReadFault SourceFile :=
  let names := Path.names path
  match tree.readFile root names with
  | .error problem => .error (.file ⟨problem, Path.below rootText names⟩)
  | .ok bytes => do pure ⟨path, String.ofList (← textOfBytes bytes)⟩

/-- The source files that paths below a root lead to. -/
def readSources (tree : SourceTree) (root : Path) (rootText : String) (paths : List String) :
    Except ReadFault (List SourceFile) :=
  paths.mapM (tree.readSource root rootText)

end SourceTree

end SlopLint
