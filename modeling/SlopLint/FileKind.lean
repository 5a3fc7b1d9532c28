import SlopLint.Text.Search

/-!
# Kinds of files

Test files, files with mocks and declaration files are told by their paths. Backslashes count as
slashes.
-/

namespace SlopLint.FileKind

open Text

/-- The characters of a path, with slashes for backslashes. -/
def normalize (path : String) : List Char :=
  replaceChar '\\' '/' path.toList

def isTest (path : String) : Bool :=
  hasAny (normalize path) ["__tests__", ".test.", ".spec.", "__mocks__", "test-"]

def isMock (path : String) : Bool :=
  hasAny (normalize path) ["__mocks__", "mock"]

def isDeclaration (path : String) : Bool :=
  ".d.ts".toList.isSuffixOf (normalize path)

/-- A file that speaks of tests anywhere in its path. -/
def looksLikeTest (path : String) : Bool :=
  hasAny (normalize path) ["test", "spec", "__tests__"]

/-- The directories that hold an application's own code. -/
def coreDirectories : List String := ["app/", "components/", "lib/", "hooks/", "services/"]

/-- Whether a path starts with one of the application's own directories. -/
def startsInCore (path : List Char) : Bool :=
  coreDirectories.any fun directory => directory.toList.isPrefixOf path

end SlopLint.FileKind
