import SlopLint.Text.Quoted
import SlopLint.Text.Similarity

/-!
# Arguments

The words of a command line are options and arguments in any order. Options with one dash and one
letter may be joined; an option that takes a value takes it from the rest of its word or else from
the next word, whatever it is. All words behind a double dash are arguments.
-/

namespace SlopLint.CommandLine

inductive Switch where
  | version
  | quiet
  | strict
  | output
  | noReport
  | verbose
  | help
deriving DecidableEq, Repr

namespace Switch

def all : List Switch := [version, quiet, strict, output, noReport, verbose, help]

def longName : Switch → String
  | version => "--version"
  | quiet => "--quiet"
  | strict => "--strict"
  | output => "--output"
  | noReport => "--no-report"
  | verbose => "--verbose"
  | help => "--help"

def letter? : Switch → Option Char
  | version => some 'v'
  | quiet => some 'q'
  | strict => some 's'
  | output => some 'o'
  | _ => none

/-- Whether an option takes a value. -/
def takesValue (switch : Switch) : Bool :=
  switch = output

def ofLongName? (name : String) : Option Switch :=
  all.find? (·.longName == name)

def ofLetter? (letter : Char) : Option Switch :=
  all.find? (·.letter? == some letter)

end Switch

/-- Why a command line cannot be carried out. -/
inductive UsageFault where
  | unknownOption (name : String)
  | valueMissing (name : String)
  | valueRefused (name : String)
  | rootMissing (path : String)
  | rootIsFile (path : String)
  | outputIsFolder (path : String)
  | extraArguments (arguments : List String)
deriving DecidableEq, Repr

namespace UsageFault

/-- The options that an unknown name may have been meant for. -/
def suggestions (name : String) : List String :=
  let near := (Switch.all.map Switch.longName).filter fun known =>
    Text.isSimilar known.toList name.toList
  let closeness (known : String) : Nat × Nat :=
    (Text.shared known.toList name.toList, known.length + name.length)
  let ranked := (near.mergeSort fun a b => decide (b ≤ a)).mergeSort fun a b =>
    decide ((closeness b).1 * (closeness a).2 ≤ (closeness a).1 * (closeness b).2)
  (ranked.take 3).mergeSort fun a b => decide (a ≤ b)

/-- The hint that follows the refusal of an unknown name. -/
def hint (name : String) : String :=
  match suggestions name with
  | [] => ""
  | [known] => s!" Did you mean {Text.literal known}?"
  | known => " (Possible options: " ++ ", ".intercalate (known.map Text.literal) ++ ")"

def message : UsageFault → String
  | unknownOption name =>
    let known := if "--".isPrefixOf name then hint name else ""
    s!"No such option {Text.literal name}.{known}"
  | valueMissing name => s!"Option {Text.literal name} requires an argument."
  | valueRefused name => s!"Option {Text.literal name} does not take a value."
  | rootMissing path =>
    s!"Invalid value for '[ROOT]': Directory {Text.literal path} does not exist."
  | rootIsFile path => s!"Invalid value for '[ROOT]': Directory {Text.literal path} is a file."
  | outputIsFolder path =>
    s!"Invalid value for '--output' / '-o': File {Text.literal path} is a directory."
  | extraArguments arguments =>
    let noun := if arguments.length = 1 then "argument" else "arguments"
    let words := " ".intercalate arguments
    s!"Got unexpected extra {noun} ({words})"

/-- Whether the fault is told under the usage of the command. -/
def showsUsage : UsageFault → Bool
  | valueMissing _ => false
  | valueRefused _ => false
  | _ => true

end UsageFault

/-- What a command line says: its options in the order given, the last value for the output, and
the arguments. -/
structure Arguments where
  switches : List Switch := []
  output : Option String := none
  arguments : List String := []
deriving DecidableEq, Repr

/-- What one word with options says: options without values; options of which the last has its
value in the same word; or options of which the last, known by the name given, takes the next
word. -/
inductive OptionWord where
  | complete (switches : List Switch)
  | valued (switches : List Switch) (value : String)
  | awaiting (switches : List Switch) (name : String)
deriving DecidableEq, Repr

namespace OptionWord

def push (switch : Switch) : OptionWord → OptionWord
  | complete switches => complete (switch :: switches)
  | valued switches value => valued (switch :: switches) value
  | awaiting switches name => awaiting (switch :: switches) name

/-- Reads the letters of joined options. -/
def ofLetters : List Char → Except UsageFault OptionWord
  | [] => .ok (.complete [])
  | letter :: rest =>
    let name := String.ofList ['-', letter]
    match Switch.ofLetter? letter with
    | none => .error (.unknownOption name)
    | some switch =>
      if switch.takesValue then
        .ok (if rest.isEmpty then .awaiting [switch] name
          else .valued [switch] (String.ofList rest))
      else do pure ((← ofLetters rest).push switch)

/-- Reads a word that starts with a dash. -/
def read (word : String) : Except UsageFault OptionWord :=
  let name := String.ofList (word.toList.takeWhile (· != '='))
  let value := (word.toList.dropWhile (· != '=')).tail?.map String.ofList
  match Switch.ofLongName? name with
  | some switch =>
    match switch.takesValue, value with
    | true, some value => .ok (.valued [switch] value)
    | true, none => .ok (.awaiting [switch] name)
    | false, some _ => .error (.valueRefused name)
    | false, none => .ok (.complete [switch])
  | none =>
    if "--".isPrefixOf word then .error (.unknownOption name) else ofLetters (word.toList.drop 1)

end OptionWord

namespace Arguments

/-- What stands in front of the rest of a command line; an output behind it has priority. -/
def behind (switches : List Switch) (value : Option String) (rest : Arguments) : Arguments :=
  { rest with switches := switches ++ rest.switches, output := rest.output <|> value }

/-- Whether a word holds options. A single dash is an argument. -/
def holdsOptions (word : String) : Bool :=
  "-".isPrefixOf word && word != "-"

def read : List String → Except UsageFault Arguments
  | [] => .ok {}
  | word :: rest =>
    if word = "--" then .ok { arguments := rest }
    else if holdsOptions word then
      match OptionWord.read word with
      | .error fault => .error fault
      | .ok (.complete switches) => do pure (behind switches none (← read rest))
      | .ok (.valued switches value) => do pure (behind switches (some value) (← read rest))
      | .ok (.awaiting switches name) =>
        match rest with
        | [] => .error (.valueMissing name)
        | value :: rest => do pure (behind switches (some value) (← read rest))
    else do
      let rest ← read rest
      pure { rest with arguments := word :: rest.arguments }

def has (arguments : Arguments) (switch : Switch) : Bool :=
  arguments.switches.contains switch

end Arguments

def usageLine : String := "Usage: cli [OPTIONS] [ROOT]"

def versionText : String := "code-slop-guard, version 0.1.0\n"

def helpLines : List String := [
  usageLine,
  "",
  "  code-slop-guard - detect AI slop in TypeScript/JavaScript code.",
  "",
  "  Scores three axes:",
  "",
  "    1. Information Utility (Noise) - comments, boilerplate",
  "    2. Information Quality (Lies)  - hallucinated imports, assumptions",
  "    3. Style / Taste (Soul)        - overconfidence, needless complexity",
  "",
  "  Exit codes:",
  "    0 - no issues found",
  "    1 - issues found",
  "    2 - critical issues found (--strict, or strict in the config file)",
  "",
  "Options:",
  "  -v, --version      Show the version and exit.",
  "  -q, --quiet        Only scan core app directories and skip test files",
  "  -s, --strict       Exit with code 2 if critical issues (hallucinations) are",
  "                     found",
  "  -o, --output FILE  JSON report path (defaults to ROOT/ai-slop-report.json)",
  "  --no-report        Do not write the JSON report",
  "  --verbose          Log per-file detail",
  "  --help             Show this message and exit."]

def helpText : String :=
  String.join (helpLines.map (· ++ "\n"))

/-- What is told about a usage fault. -/
def UsageFault.text (fault : UsageFault) : String :=
  let usage := if fault.showsUsage then s!"{usageLine}\nTry 'cli --help' for help.\n\n" else ""
  s!"{usage}Error: {fault.message}\n"

end SlopLint.CommandLine
