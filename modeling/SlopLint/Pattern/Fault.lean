import SlopLint.Pattern.Basic
import SlopLint.Text.Lines
import SlopLint.Text.Quoted

/-!
# Faults of pattern texts

What can be wrong with the text of a pattern, where, and how the fault is told. Faults are told
with the position they were found at, except for those that concern the pattern as a whole.
-/

namespace SlopLint.Pattern

/-- What is wrong with the text of a pattern. -/
inductive Cause where
  | danglingEscape
  | badEscape (escape : String)
  | incompleteEscape (escape : String)
  | octalTooLarge (escape : String)
  | missingBrace
  | unknownCharacterName (name : String)
  | openGroup
  | sameLookbehind
  | noSuchGroup (group : Nat)
  | unterminatedSet
  | badRange (first last : String)
  | minAboveMax
  | nothingToRepeat
  | multipleRepeat
  | unexpectedEnd
  | unknownExtension (text : String)
  | missingName (what : String)
  | unterminatedName (terminator : String)
  | badGroupName (name : String)
  | unknownGroupName (name : String)
  | redefinedGroup (name : String) (group earlier : Nat)
  | badGroupNumber
  | unterminatedComment
  | unterminatedGroup
  | unbalancedParenthesis
  | tooManyBranches
  | misplacedFlags
  | localeFlag
  | conflictingFlags
  | unknownFlag
  | missingFlagEnd
  | missingFlag
  | missingColon
  | flagTurnedOn
  | flagTurnedOff
  | flagOnAndOff
  | classFlagTurnedOff
  | variableLookbehind
  | repetitionInTemplate (greed : Greed)
deriving DecidableEq, Repr

/-- The name of a kind of repetition. -/
def Greed.operatorName : Greed → String
  | greedy => "MAX_REPEAT"
  | lazy => "MIN_REPEAT"
  | possessive => "POSSESSIVE_REPEAT"

def Cause.text : Cause → String
  | danglingEscape => "bad escape (end of pattern)"
  | badEscape escape => "bad escape " ++ escape
  | incompleteEscape escape => "incomplete escape " ++ escape
  | octalTooLarge escape => "octal escape value " ++ escape ++ " outside of range 0-0o377"
  | missingBrace => "missing \x7b"
  | unknownCharacterName name => "undefined character name " ++ Text.literal name
  | openGroup => "cannot refer to an open group"
  | sameLookbehind => "cannot refer to group defined in the same lookbehind subpattern"
  | noSuchGroup group => "invalid group reference " ++ toString group
  | unterminatedSet => "unterminated character set"
  | badRange first last => "bad character range " ++ first ++ "-" ++ last
  | minAboveMax => "min repeat greater than max repeat"
  | nothingToRepeat => "nothing to repeat"
  | multipleRepeat => "multiple repeat"
  | unexpectedEnd => "unexpected end of pattern"
  | unknownExtension text => "unknown extension ?" ++ text
  | missingName what => "missing " ++ what
  | unterminatedName terminator => "missing " ++ terminator ++ ", unterminated name"
  | badGroupName name => "bad character in group name " ++ Text.literal name
  | unknownGroupName name => "unknown group name " ++ Text.literal name
  | redefinedGroup name group earlier =>
    "redefinition of group name " ++ Text.literal name ++ " as group " ++ toString group ++
      "; was group " ++ toString earlier
  | badGroupNumber => "bad group number"
  | unterminatedComment => "missing ), unterminated comment"
  | unterminatedGroup => "missing ), unterminated subpattern"
  | unbalancedParenthesis => "unbalanced parenthesis"
  | tooManyBranches => "conditional backref with more than two branches"
  | misplacedFlags => "global flags not at the start of the expression"
  | localeFlag => "bad inline flags: cannot use 'L' flag with a str pattern"
  | conflictingFlags => "bad inline flags: flags 'a', 'u' and 'L' are incompatible"
  | unknownFlag => "unknown flag"
  | missingFlagEnd => "missing -, : or )"
  | missingFlag => "missing flag"
  | missingColon => "missing :"
  | flagTurnedOn => "bad inline flags: cannot turn on global flag"
  | flagTurnedOff => "bad inline flags: cannot turn off global flag"
  | flagOnAndOff => "bad inline flags: flag turned on and off"
  | classFlagTurnedOff => "bad inline flags: cannot turn off flags 'a', 'u' and 'L'"
  | variableLookbehind => "look-behind requires fixed-width pattern"
  | repetitionInTemplate greed =>
    "internal: unsupported template operator " ++ greed.operatorName

/-- What may be too large for a pattern to be read at all: the count of a repetition, the number of
an escape, the width of a look-behind, and the groups inside each other, of which the system tells
in its own words. -/
inductive Limit where
  | repetition
  | codePoint
  | lookbehind
  | nesting (told : String)
deriving DecidableEq, Repr

def Limit.message : Limit → String
  | repetition => "the repetition number is too large"
  | codePoint => "Python int too large to convert to C int"
  | lookbehind => "invalid SRE code"
  | nesting told => told

/-- Why a text is no pattern. A malformed text has its cause, with the number of characters that
were left at the place of the fault, or none for a fault of the whole. -/
inductive Fault where
  | malformed (cause : Cause) (left : Option Nat)
  | beyond (limit : Limit)
  | numberTooLong (digits : Nat)
  | bothAlphabets
deriving DecidableEq, Repr

/-- The text of a malformed pattern's cause with its place. The line is told only when the pattern
has several. -/
def Cause.message (cause : Cause) (left : Option Nat) (pattern : List Char) : String :=
  match left with
  | none => cause.text
  | some left =>
    let position := pattern.length - left
    let place := s!"{cause.text} at position {position}"
    if pattern.contains '\n' then
      let (line, column) := Text.lineAndColumn pattern position
      s!"{place} (line {line}, column {column})"
    else place

end SlopLint.Pattern
