import SlopLint.Settings.Reader
import SlopLint.SourceTree.Reading

/-!
# Loading settings

The settings of a tree stand in the first of three files that is found in its root folder. A file
that is found decides: if it cannot be read there are no settings at all.
-/

namespace SlopLint

namespace Settings

/-- The names that a file of settings may have, in the order in which they are tried. -/
def fileNames : List String := [".slopguardrc.json", ".slopguardrc", "slopguard.config.json"]

inductive LoadFault where
  | read (fault : ReadFault)
  | settings (fault : Fault)

/-- The settings that a text stands for; `name` is the name of its file. -/
def ofText [Pattern.Platform] (name : String) (text : List Char) : Except Fault Settings :=
  match Json.parse (some Json.digitLimit) text with
  | .ok value => Settings.ofJson value
  | .error ⟨.integerTooLong digits, _⟩ => .error (.integerTooLong digits)
  | .error fault => .error (.rejected (.malformedFile name fault text))

end Settings

/-- The settings in a folder of a tree, with the name of their file. -/
def SourceTree.loadSettings [Pattern.Platform] (tree : SourceTree) (folder : Path) :
    Except Settings.LoadFault (Option (String × Settings)) :=
  match Settings.fileNames.findSome? fun name =>
      (tree.file? (folder ++ [name])).map fun bytes => (name, bytes) with
  | none => .ok none
  | some (name, bytes) =>
    match textOfBytes bytes with
    | .error fault => .error (.read fault)
    | .ok text =>
      match Settings.ofText name text with
      | .ok settings => .ok (some (name, settings))
      | .error fault => .error (.settings fault)

end SlopLint
