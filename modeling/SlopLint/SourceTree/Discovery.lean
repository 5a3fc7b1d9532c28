import SlopLint.FileKind
import SlopLint.Glob
import SlopLint.SourceTree.Reading
import SlopLint.Text.LetterCase

/-!
# Discovery

The source files of a tree are those below its root with one of the known endings, outside of
folders that are left out or hidden, which are no declaration files and match no pattern of files
to ignore. They are listed by their paths, in the order of code points.
-/

namespace SlopLint.SourceTree

def defaultExtensions : List String := [".ts", ".tsx", ".js", ".jsx"]

def defaultExcluded : List String := [
  "node_modules", ".next", "dist", "build", "coverage", "generated", ".vercel", ".git", "out",
  "temp", "types"]

/-- What discovery looks for; empty lists stand for the defaults. -/
structure Selection where
  ignorePaths : List String := []
  extensions : List String := []
  excludedFolders : List String := []

/-- The list, or the default when it is empty. -/
def orDefault (chosen default : List String) : List String :=
  if chosen.isEmpty then default else chosen

/-- Whether the folders on the way to a file leave it out. -/
def inExcludedFolder (excluded : List String) (path : Path) : Bool :=
  path.dropLast.any fun name => excluded.contains name || ".".toList.isPrefixOf name.toList

/-- Whether a file, given by its path below the root, is selected. -/
def Selection.selects (selection : Selection) (path : Path) : Bool :=
  let name := path.getLast?.getD ""
  (orDefault selection.extensions defaultExtensions).contains
      (String.ofList (Text.lowerText (Path.ending name))) &&
    !inExcludedFolder (orDefault selection.excludedFolders defaultExcluded) path &&
    !".d.ts".toList.isSuffixOf name.toList &&
    !selection.ignorePaths.any fun pattern => Glob.accepts pattern (Path.text path)

/-- The path below a root, if it is there. -/
def belowRoot? (root path : Path) : Option Path :=
  if root.isPrefixOf path && root != path then some (path.drop root.length) else none

/-- The selected files below a root, in the order of their paths. -/
def selected (tree : SourceTree) (root : Path) (selection : Selection) : List String :=
  let paths := (tree.files.filterMap fun file => belowRoot? root file.1).filter selection.selects
  (paths.map Path.text).mergeSort fun a b => decide (a ≤ b)

/-- Lists the selected files below a root, which has to be a folder. -/
def discover (tree : SourceTree) (root : Path) (selection : Selection) :
    Except ReadFault (List String) :=
  if tree.isFolder root then .ok (tree.selected root selection) else .error (.noRoot root)

/-- Of the discovered files, those that a quiet run looks at. -/
def keepCore (quiet : Bool) (paths : List String) : List String :=
  if quiet then paths.filter fun path => FileKind.startsInCore path.toList else paths

end SlopLint.SourceTree
