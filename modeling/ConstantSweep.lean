import ConstantSweep.Calendar
import ConstantSweep.CommandLine.App
import ConstantSweep.CommandLine.Build
import ConstantSweep.CommandLine.Console
import ConstantSweep.CommandLine.Help
import ConstantSweep.CommandLine.Invocation
import ConstantSweep.CommandLine.Options
import ConstantSweep.Datum.Basic
import ConstantSweep.Datum.Conversion
import ConstantSweep.Datum.SetOrder
import ConstantSweep.Decimal.Binary64
import ConstantSweep.Decimal.Fixed
import ConstantSweep.Decimal.Reading
import ConstantSweep.Decimal.Shortest
import ConstantSweep.Env
import ConstantSweep.Fault
import ConstantSweep.FileTree
import ConstantSweep.Json.Basic
import ConstantSweep.Json.Printer
import ConstantSweep.Json.Reader
import ConstantSweep.Log
import ConstantSweep.Main
import ConstantSweep.Path
import ConstantSweep.Proofs.Acceptance
import ConstantSweep.Proofs.Accounting
import ConstantSweep.Proofs.Adherence
import ConstantSweep.Proofs.Aftermath
import ConstantSweep.Proofs.Attempt
import ConstantSweep.Proofs.Benches
import ConstantSweep.Proofs.Blocks
import ConstantSweep.Proofs.Call
import ConstantSweep.Proofs.Commutation
import ConstantSweep.Proofs.Completion
import ConstantSweep.Proofs.Course
import ConstantSweep.Proofs.Decomposition
import ConstantSweep.Proofs.Ending
import ConstantSweep.Proofs.Env
import ConstantSweep.Proofs.ExitCode
import ConstantSweep.Proofs.FileTree
import ConstantSweep.Proofs.Foretelling
import ConstantSweep.Proofs.Forwarder
import ConstantSweep.Proofs.Handling
import ConstantSweep.Proofs.History
import ConstantSweep.Proofs.Instantiation
import ConstantSweep.Proofs.IntegerText
import ConstantSweep.Proofs.Interruption
import ConstantSweep.Proofs.JsonText
import ConstantSweep.Proofs.JsonToken
import ConstantSweep.Proofs.Lens
import ConstantSweep.Proofs.Lines
import ConstantSweep.Proofs.Mishap
import ConstantSweep.Proofs.Notice
import ConstantSweep.Proofs.NumberText
import ConstantSweep.Proofs.Overriding
import ConstantSweep.Proofs.Past
import ConstantSweep.Proofs.Patch
import ConstantSweep.Proofs.PatchFault
import ConstantSweep.Proofs.Path
import ConstantSweep.Proofs.Plan
import ConstantSweep.Proofs.PlanFault
import ConstantSweep.Proofs.PlanFile
import ConstantSweep.Proofs.Policies
import ConstantSweep.Proofs.Position
import ConstantSweep.Proofs.Quiescence
import ConstantSweep.Proofs.Reference
import ConstantSweep.Proofs.Replacement
import ConstantSweep.Proofs.ReportText
import ConstantSweep.Proofs.Reporting
import ConstantSweep.Proofs.Restoration
import ConstantSweep.Proofs.Reuse
import ConstantSweep.Proofs.Separation
import ConstantSweep.Proofs.Slot
import ConstantSweep.Proofs.Substitution
import ConstantSweep.Proofs.Target
import ConstantSweep.Proofs.Template
import ConstantSweep.Proofs.Undisturbed
import ConstantSweep.Proofs.Utf8
import ConstantSweep.Proofs.ValueList
import ConstantSweep.Proofs.Variables
import ConstantSweep.Regex.CharSet
import ConstantSweep.Regex.Cursor
import ConstantSweep.Regex.Error
import ConstantSweep.Regex.Escape
import ConstantSweep.Regex.Reader
import ConstantSweep.Regex.Search
import ConstantSweep.Regex.Syntax
import ConstantSweep.Regex.Width
import ConstantSweep.Shell.Arithmetic
import ConstantSweep.Shell.Command
import ConstantSweep.Shell.Condition
import ConstantSweep.Shell.Evaluation
import ConstantSweep.Shell.Executable
import ConstantSweep.Shell.Expansion
import ConstantSweep.Shell.Format
import ConstantSweep.Shell.Launch
import ConstantSweep.Shell.Octets
import ConstantSweep.Shell.Pattern
import ConstantSweep.Shell.Program
import ConstantSweep.Shell.Reader
import ConstantSweep.Shell.Work
import ConstantSweep.Signal.Forwarder
import ConstantSweep.Signal.Name
import ConstantSweep.Sweep.Bench
import ConstantSweep.Sweep.Config
import ConstantSweep.Sweep.Error
import ConstantSweep.Sweep.Patch
import ConstantSweep.Sweep.Plan
import ConstantSweep.Sweep.Rehearsed
import ConstantSweep.Sweep.Report
import ConstantSweep.Sweep.Result
import ConstantSweep.Sweep.Runner
import ConstantSweep.Sweep.Scripted
import ConstantSweep.Sweep.Step
import ConstantSweep.Sweep.Values
import ConstantSweep.Template
import ConstantSweep.Text.Basic
import ConstantSweep.Text.Blank
import ConstantSweep.Text.CaseMap
import ConstantSweep.Text.Casing
import ConstantSweep.Text.CharacterName
import ConstantSweep.Text.CharacterName.Ancient
import ConstantSweep.Text.CharacterName.Cuneiform
import ConstantSweep.Text.CharacterName.European
import ConstantSweep.Text.CharacterName.Indic
import ConstantSweep.Text.CharacterName.LaterScripts
import ConstantSweep.Text.CharacterName.MiddleEastern
import ConstantSweep.Text.CharacterName.Notations
import ConstantSweep.Text.CharacterName.Pictographs
import ConstantSweep.Text.CharacterName.Radicals
import ConstantSweep.Text.CharacterName.Run
import ConstantSweep.Text.CharacterName.Syllabic
import ConstantSweep.Text.CharacterName.Symbols
import ConstantSweep.Text.CharacterName.Tangut
import ConstantSweep.Text.Digit
import ConstantSweep.Text.Identifier
import ConstantSweep.Text.Integer
import ConstantSweep.Text.Lines
import ConstantSweep.Text.Numeral
import ConstantSweep.Text.Printable
import ConstantSweep.Text.Quoted
import ConstantSweep.Text.Ranges
import ConstantSweep.Text.Utf8
import ConstantSweep.Text.Width
import ConstantSweep.Text.Word
import ConstantSweep.Text.Words
import ConstantSweep.Yaml.Cursor
import ConstantSweep.Yaml.Document
import ConstantSweep.Yaml.Node
import ConstantSweep.Yaml.Scalar
import ConstantSweep.Yaml.Tag
import ConstantSweep.Yaml.Token
import ConstantSweep.Yaml.Value
