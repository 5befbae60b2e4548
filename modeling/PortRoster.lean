import PortRoster.Text.Blank
import PortRoster.Text.LetterCase
import PortRoster.Text.Numeral
import PortRoster.Text.NaturalOrder
import PortRoster.Kind
import PortRoster.Capability
import PortRoster.KindTable
import PortRoster.PortId
import PortRoster.SavedPort
import PortRoster.Source.Basic
import PortRoster.Source.Serial
import PortRoster.Source.Bluetooth
import PortRoster.Source.Usb
import PortRoster.Source.Uart
import PortRoster.Text.Cut
import PortRoster.Terminal.Sequence
import PortRoster.Terminal.Style
import PortRoster.Text.Pattern.Basic
import PortRoster.Text.Pattern.Fault
import PortRoster.Text.Pattern.Cursor
import PortRoster.Text.Pattern.Escape
import PortRoster.Text.Pattern.CharClass
import PortRoster.Text.Pattern.Reader
import PortRoster.Log
import PortRoster.Log.Filter
import PortRoster.Entry
import PortRoster.Roster.Basic
import PortRoster.Roster.Operation
import PortRoster.Roster.Resolve
import PortRoster.Roster.Builder
import PortRoster.Locale
import PortRoster.Catalogue
import PortRoster.Description
import PortRoster.Document.Data
import PortRoster.Document.Json.Writer
import PortRoster.Document.Json.Reader
import PortRoster.Document.Json.ReadBack
import PortRoster.Settings.Records
import PortRoster.Document.Toml.Word
import PortRoster.Document.Toml.Quoted
import PortRoster.Document.Toml.ReadBack
import PortRoster.Document.Toml.Table
import PortRoster.Document.Toml.Reader
import PortRoster.Files
import PortRoster.Settings.Basic
import PortRoster.Text.Hidden
import PortRoster.Text.Visible
import PortRoster.Roster.Journal
import PortRoster.Settings.Load
import PortRoster.Document.Toml.Writer
import PortRoster.Settings.Session
import PortRoster.CommandLine.Option
import PortRoster.CommandLine.Arguments
import PortRoster.CommandLine.Language
import PortRoster.CommandLine.Help
import PortRoster.CommandLine.Program
import PortRoster.Main
import PortRoster.Proofs.Roster.View
import PortRoster.Proofs.Roster.Change
import PortRoster.Proofs.Text.NaturalOrder
import PortRoster.Proofs.Text.Comparison
import PortRoster.Proofs.Text.Run
import PortRoster.Proofs.Text.NumericOrder
import PortRoster.Proofs.Roster.Listing
import PortRoster.Proofs.Roster.Coherence
import PortRoster.Proofs.Roster.ComPorts
import PortRoster.Proofs.Roster.Mark
import PortRoster.Proofs.Roster.Resolve
import PortRoster.Proofs.Roster.Saving
import PortRoster.Proofs.Roster.Misreading
import PortRoster.Proofs.Roster.Selection
import PortRoster.Proofs.Roster.Lines
import PortRoster.Proofs.Roster.Agreement
import PortRoster.Proofs.Roster.Resaving
import PortRoster.Proofs.Roster.Spelling
import PortRoster.Proofs.Roster.Rearrangement
import PortRoster.Proofs.Roster.Atomicity
import PortRoster.Proofs.Roster.Stability
import PortRoster.Proofs.Roster.Reapplication
import PortRoster.Proofs.Document.Toml.Presence
import PortRoster.Proofs.Settings.Opening
import PortRoster.Proofs.Settings.Layering
import PortRoster.Proofs.CommandLine.Selecting
import PortRoster.Proofs.Document.Json
import PortRoster.Proofs.Document.Toml.Section
import PortRoster.Proofs.CommandLine.Printing
import PortRoster.Proofs.Text.Numeral
import PortRoster.Proofs.PortId
import PortRoster.Proofs.PortId.Word
import PortRoster.Proofs.Text.Decimal
import PortRoster.Proofs.SavedPort
import PortRoster.Proofs.Text.SmallLetter
import PortRoster.Proofs.Locale
import PortRoster.Proofs.CommandLine.Language
import PortRoster.Proofs.Source.Flat
import PortRoster.Proofs.Roster.Describing
