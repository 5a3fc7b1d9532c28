import SlopLint.FileKind
import SlopLint.Finding
import SlopLint.Rule.Basic
import SlopLint.Scope

/-!
# Exceptions

Whether a match counts depends on where it stands: on the kind of its file, on acknowledgments
on its line and the line above, on exceptions that single rules make, and on the handling of
errors around it. The tests are made in this order, and a line is looked up only when a test
needs it.
-/

namespace SlopLint

open Text

/-- What a rule is, as far as exceptions go: its id and the kinds of files that it leaves out. -/
structure Subject where
  id : String
  skipInTests : Bool := false
  skipInMocks : Bool := false

def Rule.subject (rule : Rule) : Subject :=
  ⟨rule.id, rule.skipInTests, rule.skipInMocks⟩

/-- The place of a match in its file. -/
structure Site where
  file : String
  lines : List Line
  index : Int
  column : Int

namespace Site

def line (site : Site) : Except Scope.OutOfRange Line :=
  Scope.lineAt site.lines site.index

/-- The line above it; above the first line there is an empty one. -/
def previousLine (site : Site) : Except Scope.OutOfRange Line :=
  if 0 < site.index then Scope.lineAt site.lines (site.index - 1) else .ok []

/-- Words that tell of data whose type is not known in advance. -/
def dynamicWords : List String := ["parse", "process", "transform"]

/-- A parameter or a variable of type `any` for data that comes from outside. -/
def excusesAnyType (line : Line) : Bool :=
  hasAny line ["expect.any(", "jest.fn()"] ||
    (has line "\x7b..." && has line "as any") ||
    hasAny line ["JSON.parse(", ".json"] ||
    hasAny line ["ApiResponse", "apiResponse", "res.json", "fetch", "axios"] ||
    (hasAny line ["data: any", "result: any", "response: any"] && hasAny line dynamicWords)

/-- A function whose parameter is data that comes from outside. -/
def excusesAnyParameter (line : Line) : Bool :=
  (has line "(data: any)" && hasAny line dynamicWords) ||
    hasAny line ["ApiResponse", "apiResponse", "JSON.parse", "response: any"]

/-- A log in code that handles errors, or one that says what it is for. -/
def excusesLog (site : Site) : Except Scope.OutOfRange Bool := do
  let line := strip (← site.line)
  let guarded ←
    if has line "console.error(" then
      Scope.isGuarded site.lines site.index (some site.column)
    else pure false
  pure (guarded ||
    (has line "console.log(" && hasAny line ["debug", "Debug"]) ||
    (hasAny line ["console.log(", "console.info("] && hasAny line ["error", "Error"]))

/-- A hedge in a file that speaks of tests, or a comment that says what should work. -/
def excusesHedge (site : Site) : Except Scope.OutOfRange Bool := do
  if FileKind.looksLikeTest site.file then pure true
  else
    let line := lowerText (strip (← site.line))
    pure (has line "should work" && hasAny line ["//", "/*", "*/"])

/-- The exception that the rule with this id makes. -/
def isExcused (site : Site) (id : String) : Except Scope.OutOfRange Bool :=
  if id = "any_type_usage" then do pure (excusesAnyType (← site.line))
  else if id = "function_param_any_type" then do pure (excusesAnyParameter (← site.line))
  else if id = "unsafe_double_type_assertion" then do pure (has (← site.line) "as unknown as")
  else if id = "production_console_log" then site.excusesLog
  else if id = "hedging_uncertainty_comment" ∨ id = "assumption_comment" then site.excusesHedge
  else if id = "unsafe_type_assertion" then .ok (FileKind.looksLikeTest site.file)
  else .ok false

/-- An acknowledgment on the line, or on the line above for the next one. -/
def isAcknowledged (site : Site) : Except Scope.OutOfRange Bool := do
  if hasAny (← site.line) ["eslint-disable", "@ts-expect-error", "@ts-ignore"] then pure true
  else
    let above ← site.previousLine
    pure (hasAny above ["eslint-disable-next-line", "@ts-expect-error", "@ts-ignore"])

end Site

/-- The kinds of a file that matter to exceptions. -/
structure FileKinds where
  isTest : Bool
  isMock : Bool

/-- The kinds of the file with this path. -/
def FileKinds.ofPath (path : String) : FileKinds :=
  ⟨FileKind.isTest path, FileKind.isMock path⟩

/-- Whether a match counts. -/
def accepts (subject : Subject) (kinds : FileKinds) (quiet : Bool) (site : Site) :
    Except Scope.OutOfRange Bool := do
  let permissive := Rule.isPermissive subject.id
  if (subject.skipInTests && kinds.isTest) || (subject.skipInMocks && kinds.isMock) then
    pure false
  else if permissive && FileKind.isDeclaration site.file then pure false
  -- from here on a line may be missing
  else if ← (if permissive || Rule.isUnsafe subject.id then
      site.isAcknowledged else pure false) then
    pure false
  else if ← site.isExcused subject.id then pure false
  else if ← (if subject.id = "missing_error_handling" then
      Scope.isCallHandled site.lines site.index else pure false) then
    pure false
  else if quiet && subject.id != "production_console_log" && kinds.isTest then pure false
  else pure true

end SlopLint
