import SlopLint.Text.Quoted
import SlopLint.Text.Search

/-!
# Source trees

A tree of files is a list of files under their paths together with folders that may be empty. A
path is the list of names on the way from the root of the tree. Paths that users type start at the
root or in the folder they are typed in, and are walked name by name, as a name may lead back to the
folder above.
-/

namespace SlopLint

/-- The names on the way from the root. -/
abbrev Path := List String

structure SourceTree where
  files : List (Path × List UInt8)
  folders : List Path
deriving DecidableEq

/-- Why a file cannot be reached. -/
inductive FileProblem where
  | notFound
  | alreadyThere
  | notFolder
  | isFolder
deriving DecidableEq, Repr

/-- The number and the text of a problem. -/
def FileProblem.text : FileProblem → String
  | notFound => "[Errno 2] No such file or directory"
  | alreadyThere => "[Errno 17] File exists"
  | notFolder => "[Errno 20] Not a directory"
  | isFolder => "[Errno 21] Is a directory"

/-- A problem with the path it is told with. -/
structure FileFault where
  problem : FileProblem
  path : String
deriving DecidableEq, Repr

def FileFault.message (fault : FileFault) : String :=
  s!"{fault.problem.text}: {Text.literal fault.path}"

namespace Path

/-- The names in the text of a path: empty names and single dots lead nowhere. -/
def names (text : String) : List String :=
  ((Text.splitOnChar '/' text.toList).map String.ofList).filter fun name =>
    name != "" && name != "."

/-- The text of a path with slashes between the names. -/
def text (path : Path) : String :=
  "/".intercalate path

/-- The path that names lead to from a folder, a double dot going back by one. -/
def follow (start : Path) (names : List String) : Path :=
  names.foldl (fun path name => if name = ".." then path.dropLast else path ++ [name]) start

/-- The text of a path with the slash of the root in front. -/
def absolute (path : Path) : String :=
  "/" ++ text path

/-- The text of the path that names form below a base. -/
def below (base : String) (names : List String) : String :=
  if names.isEmpty then base else (if base = "/" then "" else base) ++ "/" ++ text names

/-- Where the way of a path starts that is typed in a folder: at the root if it begins with a
slash. -/
def start (folder : Path) (typed : String) : Path :=
  if "/".isPrefixOf typed then [] else folder

/-- What is shown in front of the names of a typed path: two slashes if there are just two, and one
for any other number of them. -/
def front (typed : String) : String :=
  match (typed.toList.takeWhile (· == '/')).length with
  | 0 => ""
  | 2 => "//"
  | _ => "/"

/-- The text of names behind such a front: a single dot if they lead nowhere. -/
def shown (front : String) (names : List String) : String :=
  let shown := front ++ text names
  if shown = "" then "." else shown

/-- The last ending of a name, with its dot. A dot in front or at the end starts none. -/
def ending (name : String) : List Char :=
  let reversed := name.toList.reverse
  let tail := reversed.takeWhile (· != '.')
  let stem := (reversed.drop tail.length).drop 1
  if tail.isEmpty || stem.isEmpty then [] else '.' :: tail.reverse

end Path

namespace SourceTree

def empty : SourceTree := ⟨[], []⟩

/-- The content of the file at a path. -/
def file? (tree : SourceTree) (path : Path) : Option (List UInt8) :=
  tree.files.lookup path

/-- Whether there is a file at a path. -/
def isFile (tree : SourceTree) (path : Path) : Bool :=
  (tree.file? path).isSome

/-- Whether there is a folder at a path: the root, a folder of its own, or one on the way to
something else. -/
def isFolder (tree : SourceTree) (path : Path) : Bool :=
  path.isEmpty || tree.folders.any path.isPrefixOf ||
    tree.files.any fun file => file.1 != path && path.isPrefixOf file.1

/-- The tree with a file; a file that is already there gets the new content. -/
def setFile (tree : SourceTree) (path : Path) (content : List UInt8) : SourceTree :=
  if tree.isFile path then
    { tree with files := tree.files.map fun file => if file.1 == path then (path, content) else file }
  else { tree with files := tree.files ++ [(path, content)] }

def addFolder (tree : SourceTree) (path : Path) : SourceTree :=
  if tree.isFolder path then tree else { tree with folders := tree.folders ++ [path] }

/-- Walks along names from a folder; every name but the last must lead to a folder. -/
def walk (tree : SourceTree) (start : Path) : List String → Except FileProblem Path
  | [] => .ok start
  | name :: names =>
    if tree.isFolder start then
      tree.walk (if name = ".." then start.dropLast else start ++ [name]) names
    else if tree.isFile start then .error .notFolder
    else .error .notFound

/-- What is at the end of a way. -/
inductive Place where
  | file (path : Path) (content : List UInt8)
  | folder (path : Path)

/-- What names lead to from a folder. -/
def locate (tree : SourceTree) (start : Path) (names : List String) : Except FileProblem Place := do
  let path ← tree.walk start names
  match tree.file? path with
  | some content => pure (.file path content)
  | none => if tree.isFolder path then pure (.folder path) else .error .notFound

/-- The content of the file that names lead to. -/
def readFile (tree : SourceTree) (start : Path) (names : List String) :
    Except FileProblem (List UInt8) := do
  match ← tree.locate start names with
  | .file _ content => pure content
  | .folder _ => .error .isFolder

/-- Makes the folder that names lead to, with the folders on the way. `shown` gives the text of a
path in faults. The names are listed from the last one. -/
def makeFolder (tree : SourceTree) (start : Path) (shown : List String → String) :
    List String → Except FileFault SourceTree
  | [] => .ok tree
  | name :: parents => do
    let names := (name :: parents).reverse
    let fail {α : Type} (problem : FileProblem) : Except FileFault α :=
      .error ⟨problem, shown names⟩
    let tree ←
      match tree.locate start parents.reverse with
      | .error .notFound => tree.makeFolder start shown parents
      | .error problem => fail problem
      | .ok (.file _ _) => fail .notFolder
      | .ok (.folder _) => pure tree
    match tree.locate start names with
    | .ok (.folder _) => pure tree
    | .ok (.file _ _) => fail .alreadyThere
    | .error _ => pure (tree.addFolder (Path.follow start names))

/-- Writes the file that names lead to, with the folders on the way. -/
def writeFile (tree : SourceTree) (start : Path) (shown : List String → String)
    (names : List String) (content : List UInt8) : Except FileFault SourceTree := do
  let tree ← tree.makeFolder start shown names.reverse.tail
  match tree.walk start names with
  | .error problem => .error ⟨problem, shown names⟩
  | .ok path =>
    if tree.isFolder path then .error ⟨.isFolder, shown names⟩
    else pure (tree.setFile path content)

end SourceTree

end SlopLint
