import ElfInspect.Abi.Codes
import ElfInspect.Abi.Constants
import ElfInspect.Command
import ElfInspect.Command.Line
import ElfInspect.Config
import ElfInspect.Config.Memory
import ElfInspect.Console
import ElfInspect.Counting
import ElfInspect.Decode
import ElfInspect.DecodeError
import ElfInspect.Device
import ElfInspect.Display
import ElfInspect.ElfFile
import ElfInspect.Image
import ElfInspect.Json.Reader
import ElfInspect.Json.Writer
import ElfInspect.Layout
import ElfInspect.Literal.Action
import ElfInspect.Literal.Expr
import ElfInspect.Literal.Grammar
import ElfInspect.Literal.Reader
import ElfInspect.Literal.Token
import ElfInspect.Load
import ElfInspect.Log.Journal
import ElfInspect.Log.Logger
import ElfInspect.Log.Pool
import ElfInspect.Log.Record
import ElfInspect.Log.Registry
import ElfInspect.Log.Rotation
import ElfInspect.Machine
import ElfInspect.Main
import ElfInspect.Number.Binary64
import ElfInspect.Number.Numeral
import ElfInspect.Number.RealText
import ElfInspect.Proofs.Abi.Names
import ElfInspect.Proofs.Addresses
import ElfInspect.Proofs.Agreement
import ElfInspect.Proofs.Command.Demand
import ElfInspect.Proofs.Command.Inspection
import ElfInspect.Proofs.Command.Outcome
import ElfInspect.Proofs.Config.Errors
import ElfInspect.Proofs.Config.Keys
import ElfInspect.Proofs.Config.Sharing
import ElfInspect.Proofs.Console
import ElfInspect.Proofs.Cuts
import ElfInspect.Proofs.Delivery
import ElfInspect.Proofs.Ends
import ElfInspect.Proofs.Extents
import ElfInspect.Proofs.Hex
import ElfInspect.Proofs.ImagePlan
import ElfInspect.Proofs.Interning
import ElfInspect.Proofs.Json.Numbers
import ElfInspect.Proofs.Json.RoundTrip
import ElfInspect.Proofs.Json.Strings
import ElfInspect.Proofs.Load.Chronicle
import ElfInspect.Proofs.Load.Closure
import ElfInspect.Proofs.Load.Feedback
import ElfInspect.Proofs.Load.Footprint
import ElfInspect.Proofs.Load.Independence
import ElfInspect.Proofs.Load.InputFaults
import ElfInspect.Proofs.Load.Journal
import ElfInspect.Proofs.Load.Outcome
import ElfInspect.Proofs.Load.Phases
import ElfInspect.Proofs.Load.Prefix
import ElfInspect.Proofs.Load.Refusal
import ElfInspect.Proofs.Load.Reuse
import ElfInspect.Proofs.Load.RoundTrip
import ElfInspect.Proofs.Load.Run
import ElfInspect.Proofs.Load.Stages
import ElfInspect.Proofs.Load.Stamps
import ElfInspect.Proofs.Load.Steering
import ElfInspect.Proofs.Load.Widths
import ElfInspect.Proofs.Log.Channels
import ElfInspect.Proofs.Log.Destinations
import ElfInspect.Proofs.Log.Files
import ElfInspect.Proofs.Log.Lines
import ElfInspect.Proofs.Log.Records
import ElfInspect.Proofs.Log.Rotation
import ElfInspect.Proofs.Log.Scopes
import ElfInspect.Proofs.Log.Setup
import ElfInspect.Proofs.Number.Rounding
import ElfInspect.Proofs.Number.Shortest
import ElfInspect.Proofs.Offsets
import ElfInspect.Proofs.Placement
import ElfInspect.Proofs.Quota
import ElfInspect.Proofs.Records
import ElfInspect.Proofs.Report.ReadBack
import ElfInspect.Proofs.Report.Saved
import ElfInspect.Proofs.ShortReads
import ElfInspect.Proofs.Store.Frames
import ElfInspect.Proofs.Store.Leaves
import ElfInspect.Proofs.Store.Outline
import ElfInspect.Proofs.StringTable
import ElfInspect.Proofs.StringTable.Texts
import ElfInspect.Proofs.SymbolPlan
import ElfInspect.Proofs.Symbols
import ElfInspect.Proofs.Tables
import ElfInspect.Proofs.Text.Escaping
import ElfInspect.Proofs.Text.Layout
import ElfInspect.Proofs.Transcripts
import ElfInspect.Proofs.Utf8
import ElfInspect.Proofs.Utf8.Sequences
import ElfInspect.Proofs.Work
import ElfInspect.Proofs.Yields
import ElfInspect.Record.FileHeader
import ElfInspect.Record.ProgramHeader
import ElfInspect.Record.SectionHeader
import ElfInspect.Record.Symbol
import ElfInspect.Report
import ElfInspect.Report.File
import ElfInspect.Session
import ElfInspect.Store
import ElfInspect.Store.Path
import ElfInspect.StringTable
import ElfInspect.Table
import ElfInspect.Text.Blank
import ElfInspect.Text.Case
import ElfInspect.Text.CharClass
import ElfInspect.Text.Columns
import ElfInspect.Text.Hex
import ElfInspect.Text.Likeness
import ElfInspect.Text.Markup
import ElfInspect.Text.Printable
import ElfInspect.Text.Quoted
import ElfInspect.Text.Style
import ElfInspect.Text.Template
import ElfInspect.Text.Utf8
import ElfInspect.Text.WordChar
import ElfInspect.Text.Wrap
import ElfInspect.Toml.Document
import ElfInspect.Toml.Draft
import ElfInspect.Toml.Error
import ElfInspect.Toml.Lexeme
import ElfInspect.Toml.Scalar
import ElfInspect.Value
