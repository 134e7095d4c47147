import CommandSynthesis.Catalog.Basic
import CommandSynthesis.Catalog.Builtin
import CommandSynthesis.CommandLine.Argument
import CommandSynthesis.CommandLine.Command
import CommandSynthesis.CommandLine.Grammar
import CommandSynthesis.CommandLine.Page
import CommandSynthesis.CommandLine.Reader
import CommandSynthesis.CommandLine.Run
import CommandSynthesis.CommandLine.Session
import CommandSynthesis.Decimal.Binary64
import CommandSynthesis.Decimal.Digits
import CommandSynthesis.Decimal.Shortest
import CommandSynthesis.History.Basic
import CommandSynthesis.Json.Basic
import CommandSynthesis.Json.Decoder
import CommandSynthesis.Json.Mismatch
import CommandSynthesis.Json.Outline
import CommandSynthesis.Json.Overlay
import CommandSynthesis.Json.Printer
import CommandSynthesis.Json.Reader
import CommandSynthesis.Json.Tagged
import CommandSynthesis.Lint.Basic
import CommandSynthesis.Lint.Codec
import CommandSynthesis.Log.Basic
import CommandSynthesis.Log.Directive
import CommandSynthesis.Log.Filter
import CommandSynthesis.Log.Notes
import CommandSynthesis.Main
import CommandSynthesis.Preferences.Basic
import CommandSynthesis.Preferences.Codec
import CommandSynthesis.Preferences.Documents
import CommandSynthesis.Proofs.Segment.Brace
import CommandSynthesis.Proofs.Segment.Choice
import CommandSynthesis.Proofs.Segment.Clause
import CommandSynthesis.Proofs.Segment.ClauseReader
import CommandSynthesis.Proofs.Segment.Name
import CommandSynthesis.Proofs.Segment.Parts
import CommandSynthesis.Proofs.Segment.Recognition
import CommandSynthesis.Proofs.Shell.Glyph
import CommandSynthesis.Proofs.Synthesis.Opacity
import CommandSynthesis.Proofs.Synthesis.Selection
import CommandSynthesis.Regex.CharSet
import CommandSynthesis.Regex.ClassReader
import CommandSynthesis.Regex.Compile
import CommandSynthesis.Regex.Cursor
import CommandSynthesis.Regex.Error
import CommandSynthesis.Regex.Escape
import CommandSynthesis.Regex.Extent
import CommandSynthesis.Regex.Form
import CommandSynthesis.Regex.Machine
import CommandSynthesis.Regex.Match
import CommandSynthesis.Regex.Pattern
import CommandSynthesis.Regex.Reader
import CommandSynthesis.Regex.SetMachine
import CommandSynthesis.Regex.StateTable
import CommandSynthesis.Regex.Tree
import CommandSynthesis.Segment.Basic
import CommandSynthesis.Segment.BranchReader
import CommandSynthesis.Segment.Name
import CommandSynthesis.Segment.Names
import CommandSynthesis.Segment.Printer
import CommandSynthesis.Segment.Reader
import CommandSynthesis.Settings.Basic
import CommandSynthesis.Settings.Codec
import CommandSynthesis.Settings.Environment
import CommandSynthesis.Settings.File
import CommandSynthesis.Shell.Words
import CommandSynthesis.Store.Basic
import CommandSynthesis.Store.Faulty
import CommandSynthesis.Store.FilePath
import CommandSynthesis.Store.FileTree
import CommandSynthesis.Store.Files
import CommandSynthesis.Store.Memory
import CommandSynthesis.Synthesis.Basic
import CommandSynthesis.Synthesis.Bindings
import CommandSynthesis.Synthesis.Codec
import CommandSynthesis.Synthesis.Piece
import CommandSynthesis.Template.Basic
import CommandSynthesis.Template.Codec
import CommandSynthesis.Text.Blank
import CommandSynthesis.Text.Case
import CommandSynthesis.Text.Escaped
import CommandSynthesis.Text.Hexadecimal
import CommandSynthesis.Text.Part
import CommandSynthesis.Text.Style
import CommandSynthesis.Time.Date
import CommandSynthesis.Time.Epoch
import CommandSynthesis.Time.Instant
import CommandSynthesis.Time.Printer
import CommandSynthesis.Time.Reader
import CommandSynthesis.Toml.Definition
import CommandSynthesis.Toml.Line
import CommandSynthesis.Toml.Printer
import CommandSynthesis.Toml.Quoted
import CommandSynthesis.Toml.Reader
import CommandSynthesis.Toml.Scalar
import CommandSynthesis.Unicode.Age
import CommandSynthesis.Unicode.Break
import CommandSynthesis.Unicode.Case
import CommandSynthesis.Unicode.Category
import CommandSynthesis.Unicode.CodeRanges
import CommandSynthesis.Unicode.Lookup
import CommandSynthesis.Unicode.Property
import CommandSynthesis.Unicode.Recent
import CommandSynthesis.Unicode.Script
import CommandSynthesis.Unicode.ScriptExtensions
import CommandSynthesis.Unicode.Utf8
import CommandSynthesis.Validator.Basic
import CommandSynthesis.Validator.Checks
import CommandSynthesis.Validator.Codec
import CommandSynthesis.Validator.Verdict
import CommandSynthesis.Proofs.Decimal.Digits
import CommandSynthesis.Proofs.Json.Scalar
import CommandSynthesis.Proofs.Segment.NormalForm
import CommandSynthesis.Proofs.Json.Reading
import CommandSynthesis.Proofs.Json.RoundTrip
import CommandSynthesis.Proofs.Json.Holding
import CommandSynthesis.Proofs.Json.Record
import CommandSynthesis.Proofs.Time.RoundTrip
import CommandSynthesis.Proofs.Synthesis.RoundTrip
import CommandSynthesis.Proofs.Preferences.Import
import CommandSynthesis.Proofs.History.Run
import CommandSynthesis.Proofs.Preferences.RoundTrip
import CommandSynthesis.Proofs.Preferences.Transfer
import CommandSynthesis.Proofs.Preferences.Composition
import CommandSynthesis.Proofs.Segment.Length
import CommandSynthesis.Proofs.Synthesis.Validity
import CommandSynthesis.Proofs.Synthesis.Resolution
import CommandSynthesis.Proofs.Text.Bytes
import CommandSynthesis.Proofs.Shell.Place
import CommandSynthesis.Proofs.Synthesis.Sealed
import CommandSynthesis.Proofs.Catalog.Builtin
import CommandSynthesis.Proofs.Store.Path
import CommandSynthesis.Proofs.Store.Tree
import CommandSynthesis.Proofs.Store.Files
import CommandSynthesis.Proofs.CommandLine.Generate
import CommandSynthesis.Proofs.CommandLine.Launch
import CommandSynthesis.Proofs.History.Capacity
import CommandSynthesis.Proofs.Preferences.Separation
import CommandSynthesis.Proofs.Store.Refinement
import CommandSynthesis.Proofs.Json.Tag
import CommandSynthesis.Proofs.Validator.RoundTrip
import CommandSynthesis.Proofs.Template.RoundTrip
import CommandSynthesis.Proofs.Segment.Mention
import CommandSynthesis.Proofs.Synthesis.Naming
import CommandSynthesis.Proofs.Preferences.Favorites
import CommandSynthesis.Proofs.Preferences.Patch
import CommandSynthesis.Proofs.Preferences.Update
import CommandSynthesis.Proofs.Synthesis.Unbound
import CommandSynthesis.Proofs.Validator.Path
import CommandSynthesis.Proofs.Json.Numeral
import CommandSynthesis.Proofs.Json.Steps
import CommandSynthesis.Proofs.Json.Agreement
import CommandSynthesis.Proofs.Preferences.Defaults
import CommandSynthesis.Proofs.Preferences.Interchange
import CommandSynthesis.Proofs.Segment.Canonical
import CommandSynthesis.Proofs.Synthesis.Locality
import CommandSynthesis.Proofs.Lint.Sound
import CommandSynthesis.Proofs.Synthesis.Canonical
import CommandSynthesis.Proofs.CommandLine.Precedence
import CommandSynthesis.Proofs.Catalog.Registration
import CommandSynthesis.Proofs.Catalog.Search
import CommandSynthesis.Proofs.Preferences.Reset
import CommandSynthesis.Proofs.CommandLine.Frame
import CommandSynthesis.Proofs.Text.Blank
import CommandSynthesis.Proofs.Text.Encoding
import CommandSynthesis.Proofs.Validator.Number
import CommandSynthesis.Proofs.Shell.Quote
import CommandSynthesis.Proofs.Segment.OffsetReader
import CommandSynthesis.Proofs.Segment.Offset
import CommandSynthesis.Proofs.Toml.Quoted
import CommandSynthesis.Proofs.Toml.Scalar
import CommandSynthesis.Proofs.Toml.Document
import CommandSynthesis.Proofs.Settings.RoundTrip
import CommandSynthesis.Proofs.Json.Overlay
