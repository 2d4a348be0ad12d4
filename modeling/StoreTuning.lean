import StoreTuning.Command.Arguments
import StoreTuning.Command.Run
import StoreTuning.Command.Word
import StoreTuning.Compile.Attempt
import StoreTuning.Compile.Budget
import StoreTuning.Compile.BulkLoad
import StoreTuning.Compile.Choice
import StoreTuning.Compile.Compaction
import StoreTuning.Compile.Journal
import StoreTuning.Compile.OptionTable
import StoreTuning.Compile.Options
import StoreTuning.Engine.BulkLoadProfile
import StoreTuning.Engine.Choice
import StoreTuning.Engine.Defaults
import StoreTuning.Engine.Edit
import StoreTuning.Engine.Json
import StoreTuning.Engine.Options
import StoreTuning.Engine.Report
import StoreTuning.Entries
import StoreTuning.Number.Binary64
import StoreTuning.Number.Decimal
import StoreTuning.Number.Shortest
import StoreTuning.Settings.Basic
import StoreTuning.Settings.Decode
import StoreTuning.Settings.File
import StoreTuning.Settings.Flatten
import StoreTuning.Settings.Lookup
import StoreTuning.Settings.View
import StoreTuning.Storage.Fault
import StoreTuning.Storage.FileSystem
import StoreTuning.Storage.Path
import StoreTuning.Storage.Route
import StoreTuning.Text.Blank
import StoreTuning.Text.CharClass
import StoreTuning.Text.CodePoint
import StoreTuning.Text.DecimalDigit
import StoreTuning.Text.Numeral
import StoreTuning.Text.Printable
import StoreTuning.Text.Quoted
import StoreTuning.Text.Radix
import StoreTuning.Text.RadixNumeral
import StoreTuning.Toml.Document
import StoreTuning.Toml.Number
import StoreTuning.Toml.Quote
import StoreTuning.Toml.Table
import StoreTuning.Toml.Value
import StoreTuning.Value.Basic
import StoreTuning.Value.Printer
import StoreTuning.Yaml.Binary
import StoreTuning.Yaml.Cursor
import StoreTuning.Yaml.Document
import StoreTuning.Yaml.Form
import StoreTuning.Yaml.Grammar
import StoreTuning.Yaml.Layout
import StoreTuning.Yaml.Merge
import StoreTuning.Yaml.Node
import StoreTuning.Yaml.Quote
import StoreTuning.Yaml.Tag
import StoreTuning.Yaml.Token
import StoreTuning.Yaml.Unfold
import StoreTuning.Main
import StoreTuning.Proofs.Compile.BulkLoad
import StoreTuning.Proofs.Compile.Canonical
import StoreTuning.Proofs.Compile.Checks
import StoreTuning.Proofs.Compile.FirstFailure
import StoreTuning.Proofs.Compile.Job
import StoreTuning.Proofs.Compile.Keys
import StoreTuning.Proofs.Compile.NumberFields
import StoreTuning.Proofs.Compile.Order
import StoreTuning.Proofs.Compile.ReadSet
import StoreTuning.Proofs.Compile.RoundTrip
import StoreTuning.Proofs.Compile.WellFormed
import StoreTuning.Proofs.Settings.Lookup
import StoreTuning.Proofs.Settings.Named
import StoreTuning.Proofs.Settings.Spelling
import StoreTuning.Proofs.Text.Numeral
import StoreTuning.Proofs.Compile.Spelling
import StoreTuning.Proofs.Compile.Consistent
import StoreTuning.Proofs.Engine.LeafPaths
import StoreTuning.Proofs.Entries
import StoreTuning.Proofs.Compile.Choice
import StoreTuning.Proofs.Compile.ReadFrom
import StoreTuning.Proofs.Compile.Overrides
import StoreTuning.Proofs.Compile.Substitution
import StoreTuning.Proofs.Compile.Frame
import StoreTuning.Proofs.Settings.View
import StoreTuning.Proofs.Compile.Isolation
import StoreTuning.Proofs.Settings.Flatten
import StoreTuning.Proofs.Settings.Meeting
import StoreTuning.Proofs.Settings.Transparency
import StoreTuning.Proofs.Settings.Unflatten
import StoreTuning.Proofs.Engine.Form
import StoreTuning.Proofs.Engine.JsonReader
import StoreTuning.Proofs.Engine.JsonRoundTrip
import StoreTuning.Proofs.Command.Agreement
import StoreTuning.Proofs.Command.Loading
import StoreTuning.Proofs.Command.Verbosity
import StoreTuning.Proofs.Engine.Rebuild
import StoreTuning.Proofs.Storage.Resolution
import StoreTuning.Proofs.Storage.Session
import StoreTuning.Proofs.Text.Grammar
import StoreTuning.Proofs.Settings.Conversion
import StoreTuning.Proofs.Settings.IntegerText
import StoreTuning.Proofs.Settings.Overlay
import StoreTuning.Proofs.Compile.StoreBudget
import StoreTuning.Proofs.Settings.Cut
import StoreTuning.Proofs.Engine.Changes
import StoreTuning.Proofs.Compile.Assignments
import StoreTuning.Proofs.Compile.RowOrder
import StoreTuning.Proofs.Compile.Shares
