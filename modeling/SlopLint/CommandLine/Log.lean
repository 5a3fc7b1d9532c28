import SlopLint.RuleSet
import SlopLint.SourceTree.Reading

/-!
# Logs

A run tells what it does line by line. Lines of detail are shown only to those who ask for them.
What was logged before a run stops is kept.
-/

namespace SlopLint.CommandLine

/-- How much a log line matters. -/
inductive LogLevel where
  | detail
  | info
deriving DecidableEq, Repr

structure LogLine where
  level : LogLevel
  text : String
deriving DecidableEq, Repr

def logText (verbose : Bool) (lines : List LogLine) : String :=
  String.join ((lines.filter fun line => verbose || line.level == .info).map (·.text ++ "\n"))

/-- Why a run stops before anything is scanned. -/
inductive Stop where
  | settings (fault : Settings.Fault)
  | sources (fault : ReadFault)

/-- A part of a run that logs and may stop. -/
abbrev Logged := ExceptT Stop (StateM (List LogLine))

def log (level : LogLevel) (text : String) : Logged Unit :=
  modify (· ++ [⟨level, text⟩])

/-- Logs a part of a run from the start. -/
def Logged.start {α : Type} (part : Logged α) : Except Stop α × List LogLine :=
  part.run.run []

end SlopLint.CommandLine
