import SlopLint.CommandLine.Run
import SlopLint.Report.Timestamp

/-!
# The program

Reads the files that a command line is about, runs the command on them, and carries out what it left
behind: it prints, writes files and gives the exit code. Only files that a run may look into are
read.
-/

namespace SlopLint.Program

/-- Whether a run may look into a file of this name. -/
def mayBeRead (name : String) : Bool :=
  Settings.fileNames.contains name ||
    SourceTree.defaultExtensions.contains
      (String.ofList (Text.lowerText (Path.ending name)))

/-- Adds to a tree what is at a path of the file system, a folder with what it holds if this is
asked for. -/
partial def addPlace (whole : Bool) (tree : SourceTree) (path : Path) : IO SourceTree := do
  let place := (← IO.currentDir) / Path.absolute path
  if ← place.isDir then
    let mut tree := tree.addFolder path
    if whole then
      for entry in ← place.readDir do
        tree ← addPlace true tree (path ++ [entry.fileName])
    pure tree
  else if ← place.pathExists then
    let content ←
      if mayBeRead (path.getLast?.getD "") then IO.FS.readBinFile place else pure .empty
    pure (tree.setFile path content.toList)
  else pure tree

/-- Adds what lies on the way of a path that is typed in a folder. -/
def addWay (here : Path) (tree : SourceTree) (typed : String) : IO SourceTree := do
  let names := Path.names typed
  let mut tree := tree
  for count in List.range (names.length + 1) do
    tree ← addPlace false tree (Path.follow (Path.start here typed) (names.take count))
  pure tree

/-- The files that a command may look at when it runs in a folder. -/
def load (here : Path) (words : List String) : IO SourceTree := do
  match CommandLine.Arguments.read words with
  | .error _ => pure .empty
  | .ok arguments =>
    let root := arguments.root
    let tree ← (root :: arguments.output.toList).foldlM (addWay here) .empty
    addPlace true tree (Path.follow (Path.start here root) (Path.names root))

/-- The present moment, taken from a file that has just been made. -/
def now : IO Timestamp := do
  let (_, file) ← IO.FS.createTempFile
  let modified := (← file.metadata).modified
  IO.FS.removeFile file
  pure ⟨modified.sec.toNat, modified.nsec.toNat / 1000⟩

/-- Runs the command on files, without names of characters and emoji, and with a stack for as many
groups inside each other as patterns are likely to have. -/
def run (surroundings : CommandLine.Surroundings) (words : List String) : CommandLine.Outcome :=
  letI := Pattern.Platform.withRoom 480
  letI := Console.Library.plain []
  CommandLine.run surroundings words

/-- Writes a file of a tree to the file system. -/
def writeBack (tree : SourceTree) (path : Path) : IO Unit := do
  IO.FS.createDirAll (Path.absolute path.dropLast)
  IO.FS.writeBinFile (Path.absolute path) ⟨((tree.file? path).getD []).toArray⟩

end SlopLint.Program

open SlopLint in
def main (words : List String) : IO UInt32 := do
  let here := Path.names (← IO.currentDir).toString
  let tree ← Program.load here words
  let moment ← Program.now
  let outcome := Program.run ⟨tree, here, moment.text⟩ words
  for path in outcome.written do
    Program.writeBack outcome.tree path
  IO.print outcome.output
  IO.eprint outcome.errors
  if let some crash := outcome.crash then
    IO.eprintln crash.message
  pure outcome.exitCode.toUInt32
