import SlopLint.Main
import SlopLint.Proofs.Acknowledgments
import SlopLint.Proofs.AdditiveScores
import SlopLint.Proofs.ArrayTypes
import SlopLint.Proofs.BuiltRules
import SlopLint.Proofs.ControlOpeners
import SlopLint.Proofs.CustomRules
import SlopLint.Proofs.DiscoveredFiles
import SlopLint.Proofs.DiscoveredSources
import SlopLint.Proofs.EditLocality
import SlopLint.Proofs.ExitCode
import SlopLint.Proofs.FileSelection
import SlopLint.Proofs.FindingOrder
import SlopLint.Proofs.FunctionParameters
import SlopLint.Proofs.FunctionScope
import SlopLint.Proofs.HedgingWords
import SlopLint.Proofs.JudgedMatches
import SlopLint.Proofs.LineBreaks
import SlopLint.Proofs.LineReads
import SlopLint.Proofs.MisplacedImports
import SlopLint.Proofs.PlainWords
import SlopLint.Proofs.QuietRuns
import SlopLint.Proofs.Rankings
import SlopLint.Proofs.ReportedRuns
import SlopLint.Proofs.Reruns
import SlopLint.Proofs.RuleListFaults
import SlopLint.Proofs.SettingsShapes
import SlopLint.Proofs.SeverityOverrides
import SlopLint.Proofs.WholeWords
import SlopLint.Proofs.WrittenReports
import SlopLint.Proofs.WrittenSettings
