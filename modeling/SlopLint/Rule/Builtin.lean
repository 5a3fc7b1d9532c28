import SlopLint.Pattern.Reader
import SlopLint.Rule.Basic

/-!
# The built-in rules

The rules that are always there, in the order in which a line is searched for them. The text of
each pattern is read when the library is compiled, so a malformed one would not get through.
-/

namespace SlopLint

namespace Rule.Builtin

/-- Case counts. -/
def exact : Pattern.Flags := {}

/-- Case does not count. -/
def anyCase : Pattern.Flags := { ignoreCase := true }

/-! ### Noise -/

/-- A comment that says again what the assignment in front of it says. -/
def redundantSelfExplanatoryComment : Rule where
  id := "redundant_self_explanatory_comment"
  pattern :=
    .known anyCase (
      "const\\s+(\\w+)\\s*=\\s*\\1\\s*;?\\s*//.?(?:set|assign|store)\\s+\\1\\b")
  message := "Redundant comment explaining variable assignment to itself - peak AI slop"
  severity := .high
  description := "e.g., const count = count; // assign count to count"

def excessiveBoilerplateComment : Rule where
  id := "excessive_boilerplate_comment"
  pattern :=
    .known anyCase (
      "//\\s*This (?:function|component|hook|variable|method).* (?:does|is|handles?|returns?|" ++
        "takes?|processes?)")
  message := "Boilerplate comment that restates the obvious - adds zero insight"
  severity := .medium
  description := "AI-generated comments that explain the obvious"

def debugLogWithComment : Rule where
  id := "debug_log_with_comment"
  pattern :=
    .known anyCase (
      "console\\.(log|debug|info)\\([^)]+\\)\\s*;\\s*//\\s*(?:debug|temp|test|check|log|print)")
  message := "Debug log with apologetic comment - AI trying to justify its existence"
  severity := .medium
  description := "Debugging code that should not be in production"
  skipInTests := true

/-! ### Hallucinations and assumptions -/

def hallucinatedReactImport : Rule where
  id := "hallucinated_react_import"
  pattern :=
    .known anyCase (
      "import\\s*\\\x7b[^\x7d]*\\b(?:useRouter|useParams|useSearchParams|Link|Image|" ++
        "Script)\\b[^\x7d]*\\\x7d\\s*from\\s*['\\\"]react['\\\"]")
  message := "Hallucinated React import - these do NOT exist in 'react'"
  severity := .critical
  description := "React-specific APIs are NOT in the react package"
  fix := some "Import from correct package: 'next/router', 'next/link', 'next/image', 'next/script'"
  learnMore := some "https://nextjs.org/docs/api-reference/next/router"

def hallucinatedNextImport : Rule where
  id := "hallucinated_next_import"
  pattern :=
    .known anyCase (
      "import\\s*\\\x7b[^\x7d]*\\b(?:getServerSideProps|getStaticProps|" ++
        "getStaticPaths)\\b[^\x7d]*\\\x7d\\s*from\\s*['\\\"]react['\\\"]")
  message := "Next.js API imported from 'react' - 100% AI hallucination"
  severity := .critical
  description := "Next.js APIs are NOT in the react package"
  fix := some "These are page-level exports, not imports. Export them from your page file directly."
  learnMore := some "https://nextjs.org/docs/basic-features/data-fetching"

def todoImplementationPlaceholder : Rule where
  id := "todo_implementation_placeholder"
  pattern :=
    .known anyCase (
      "//\\s*(?:TODO|FIXME|HACK).*(?:implement|add|finish|complete|your code|logic|here)")
  message := "AI gave up and wrote a TODO instead of thinking"
  severity := .high
  description := "Placeholder comments where AI failed to implement"
  fix := some (
    "Actually implement the logic, or if blocked, document WHY and create a tracking issue")
  learnMore := some "https://refactoring.guru/smells/comments"

def assumptionComment : Rule where
  id := "assumption_comment"
  pattern :=
    .known anyCase (
      "\\b(assuming|assumes?|presumably|apparently|it seems|seems like)\\b.\x7b0,50\x7d\\b(that|" ++
        "this|the|it)\\b")
  message := "AI making unverified assumptions - dangerous in production"
  severity := .high
  description := "Comments indicating unverified assumptions"

/-! ### Style -/

def overconfidentComment : Rule where
  id := "overconfident_comment"
  pattern :=
    .known anyCase (
      "//\\s*(obviously|clearly|simply|just|easy|trivial|basically|literally|of course|" ++
        "naturally|certainly|surely)\\b")
  message := "Overconfident comment - AI pretending it understands when it doesn't"
  severity := .high
  description := "Overconfident language indicating false certainty"

def hedgingUncertaintyComment : Rule where
  id := "hedging_uncertainty_comment"
  pattern :=
    .known anyCase (
      "//.*\\b(should work|hopefully|probably|might work|try this|i think|seems to|attempting " ++
        "to|looks like|appears to)\\b")
  message := "AI hedging its bets - classic sign of low-confidence generation"
  severity := .high
  description := "Uncertain language masked as implementation"

def unnecessaryIifeWrapper : Rule where
  id := "unnecessary_iife_wrapper"
  pattern :=
    .known exact (
      "\\bconst\\s+\\w+\\s*=\\s*\\(\\s*async\\s*\\(\\)\\s*=>\\s*\\\x7b[\\s\\S]*?\\\x7d\\)\\(\\)")
  message := "Unnecessary IIFE wrapper - AI over-engineering a simple async call"
  severity := .medium
  description := "Unnecessarily complex function wrapping"

def vibeCodedTernaryAbuse : Rule where
  id := "vibe_coded_ternary_abuse"
  pattern :=
    .known exact (
      "\\?\\s*['\\\"][^'\\\"]+['\\\"]\\s*:\\s*['\\\"][^'\\\"]+['\\\"]\\s*\\?\\s*['\\\"][^'\\\"]+" ++
        "['\\\"]\\s*:\\s*['\\\"][^'\\\"]+['\\\"]")
  message := "Nested ternary hell - AI trying to look clever"
  severity := .medium
  description := "Overly complex nested ternary operations"
  fix := some "Extract to a switch statement or a lookup object for better readability"

def magicCssValue : Rule where
  id := "magic_css_value"
  pattern :=
    .known exact (
      "\\b(\\d\x7b3,4\x7dpx|#\\w\x7b6\x7d|rgba?\\([^)]+\\)|hsl\\(\\d+)")
  message := "Magic CSS value - extract to design token or const"
  severity := .low
  description := "Hardcoded CSS values that should be constants"
  fix := some "Move to CSS variables, theme tokens, or a constants file"

/-! ### Hooks -/

def useEffectDerivedState : Rule where
  id := "useEffect_derived_state"
  pattern :=
    .known exact (
      "useEffect\\s*\\(\\s*\\(\\s*\\)\\s*=>\\s*\\\x7b[^\x7d]*set[A-Z]\\w*\\([^)]*\\)")
  message :=
    "useEffect setting state from props/other state - consider useMemo or compute in render"
  severity := .high
  description := "Using useEffect to derive state is often unnecessary"
  fix := some "If state depends only on props/other state, compute directly or use useMemo instead"
  learnMore := some "https://react.dev/learn/you-might-not-need-an-effect"

def useEffectEmptyDepsSuspicious : Rule where
  id := "useEffect_empty_deps_suspicious"
  pattern :=
    .known exact (
      "useEffect\\s*\\([^,]+,\\s*\\[\\s*\\]\\s*\\)")
  message := "useEffect with empty deps - verify this truly should only run on mount"
  severity := .medium
  description := "Empty dependency arrays are often a sign of missing dependencies"
  fix := some (
    "Review if effect depends on any props/state. Use eslint-plugin-react-hooks to catch issues.")
  learnMore := some "https://react.dev/reference/react/useEffect#specifying-reactive-dependencies"

def setStateInLoop : Rule where
  id := "setState_in_loop"
  pattern :=
    .known exact (
      "(?:for|while|forEach|map)\\s*\\([^)]+\\)[^\x7b]*\\\x7b[^\x7d]*set[A-Z]\\w*\\(")
  message := "setState inside a loop - may cause multiple re-renders"
  severity := .high
  description := "Calling setState in a loop triggers multiple re-renders"
  fix := some "Batch updates by computing the final state outside the loop, then call setState once"
  learnMore := some "https://react.dev/learn/queueing-a-series-of-state-updates"

def useCallbackNoDeps : Rule where
  id := "useCallback_no_deps"
  pattern :=
    .known exact (
      "useCallback\\s*\\([^,]+,\\s*\\[\\s*\\]\\s*\\)")
  message := "useCallback with empty deps - the callback never updates"
  severity := .medium
  description := "Empty deps means the callback is stale and may use outdated values"
  fix := some "Add all values used inside the callback to the dependency array"
  learnMore := some "https://react.dev/reference/react/useCallback"

/-! ### Escape hatches of the type system -/

def anyTypeUsage : Rule where
  id := "any_type_usage"
  pattern :=
    .known exact (
      ":\\s*any\\b")
  message := "Found 'any' type usage. Replace with specific type or unknown."
  severity := .high
  description := "Detects : any type annotations"
  fix := some "Replace with 'unknown' and use type guards to narrow, or define a proper interface"
  learnMore := some "https://www.typescriptlang.org/docs/handbook/2/narrowing.html"

def arrayAnyType : Rule where
  id := "array_any_type"
  pattern :=
    .known exact (
      "Array\\s*<\\s*any\\s*>")
  message := "Found Array<any> type usage. Replace with specific type or unknown[]."
  severity := .high
  description := "Detects Array<any> patterns"

def genericAnyType : Rule where
  id := "generic_any_type"
  pattern :=
    .known exact (
      "<\\s*any\\s*>")
  message := "Found generic <any> type usage. Replace with specific type or unknown."
  severity := .high
  description := "Detects generic type parameters with any"

def functionParamAnyType : Rule where
  id := "function_param_any_type"
  pattern :=
    .known exact (
      "\\(\\s*.*\\s*:\\s*any\\s*\\)")
  message := "Found function parameter with 'any' type. Replace with specific type or unknown."
  severity := .high
  description := "Detects function parameters with any type"

def unsafeTypeAssertion : Rule where
  id := "unsafe_type_assertion"
  pattern :=
    .known exact (
      "\\s+as\\s+any\\b")
  message := "Found unsafe 'as any' type assertion. Use proper type guards or validation."
  severity := .high
  description := "Detects unsafe as any assertions"
  fix := some "Use 'as unknown as TargetType' or implement a runtime type guard with validation"
  learnMore := some (
    "https://www.typescriptlang.org/docs/handbook/2/narrowing.html#using-type-predicates")

def unsafeDoubleTypeAssertion : Rule where
  id := "unsafe_double_type_assertion"
  pattern :=
    .known exact (
      "as\\s+\\w+\\s+as\\s+\\w+")
  message :=
    "Found unsafe double type assertion. Consider using 'as unknown as Type' for safe conversions."
  severity := .high
  description := "Detects unsafe double type assertions"

def indexSignatureAny : Rule where
  id := "index_signature_any"
  pattern :=
    .known exact (
      "\\[\\s*[\\\"'`]?(\\w+)[\\\"'`]?[^\\]]*\\]\\s*:\\s*any")
  message := "Found index signature with 'any' type. Replace with specific type or unknown."
  severity := .high
  description := "Detects index signatures with any type"

/-! ### Runtime hygiene -/

def missingErrorHandling : Rule where
  id := "missing_error_handling"
  pattern :=
    .known exact (
      "(fetch|axios|http)\\s*\\(")
  message := "Potential missing error handling for promise. Consider adding try/catch or .catch()."
  severity := .medium
  description := "Detects calls that might need error handling"
  fix := some (
    "Wrap in try/catch or add .catch() handler. Consider React Query or SWR for data fetching.")
  learnMore := some (
    "https://developer.mozilla.org/en-US/docs/Web/JavaScript/Reference/Statements/try...catch")
  skipInTests := true

def productionConsoleLog : Rule where
  id := "production_console_log"
  pattern :=
    .known exact (
      "console\\.(log|warn|error|info|debug|trace)\\(")
  message := "Found console logging in production code. Remove before deployment."
  severity := .medium
  description := "Detects console logs in production code"
  skipInTests := true
  skipInMocks := true

def todoComment : Rule where
  id := "todo_comment"
  pattern :=
    .known exact (
      "(TODO|FIXME|HACK|XXX|BUG)\\b")
  message := "Found TODO/FIXME/HACK comment indicating incomplete implementation."
  severity := .medium
  description := "Detects incomplete implementation markers"

def unsafeMemberAccess : Rule where
  id := "unsafe_member_access"
  pattern :=
    .known exact (
      "\\.\\s*any\\s*\\[")
  message := "Found potentially unsafe member access on 'any' type."
  severity := .high
  description := "Detects unsafe member access patterns"

end Rule.Builtin

open Rule.Builtin in
/-- The built-in rules in the order of the search. -/
def Rule.builtin : List Rule := [
  redundantSelfExplanatoryComment, excessiveBoilerplateComment, debugLogWithComment,
  hallucinatedReactImport, hallucinatedNextImport, todoImplementationPlaceholder,
  assumptionComment, overconfidentComment, hedgingUncertaintyComment, unnecessaryIifeWrapper,
  vibeCodedTernaryAbuse, magicCssValue, useEffectDerivedState, useEffectEmptyDepsSuspicious,
  setStateInLoop, useCallbackNoDeps, anyTypeUsage, arrayAnyType, genericAnyType,
  functionParamAnyType, unsafeTypeAssertion, unsafeDoubleTypeAssertion, indexSignatureAny,
  missingErrorHandling, productionConsoleLog, todoComment, unsafeMemberAccess]

end SlopLint
