import ThermalPress.Delivery.Connection
import ThermalPress.Log.Template
import ThermalPress.Main
import ThermalPress.Settings.Store
import ThermalPress.Proofs.Markup.Image
import ThermalPress.Proofs.Printer.Interpreter
import ThermalPress.Proofs.Settings.Ranges
import ThermalPress.Proofs.Printer.TextJobs
import ThermalPress.Proofs.Delivery.Runs
import ThermalPress.Proofs.Delivery.Cleanup
import ThermalPress.Proofs.Delivery.Traffic
import ThermalPress.Proofs.Printer.SymbolCommands
import ThermalPress.Proofs.Text.Utf8Lengths
import ThermalPress.Proofs.Qr.Frames
import ThermalPress.Proofs.Markup.Tags
import ThermalPress.Proofs.Markup.Seams
import ThermalPress.Proofs.Markup.Lines
import ThermalPress.Proofs.Delivery.States
import ThermalPress.Proofs.Delivery.Endings
import ThermalPress.Proofs.Jobs.Prints
import ThermalPress.Proofs.Http.Sessions
import ThermalPress.Proofs.Http.Outcomes
import ThermalPress.Proofs.Markup.Spellings
import ThermalPress.Proofs.Markup.Reading
import ThermalPress.Proofs.Markup.Literals
import ThermalPress.Proofs.Qr.Fallback
import ThermalPress.Proofs.Settings.Buildable
import ThermalPress.Proofs.Jobs.Retention
import ThermalPress.Proofs.Markup.Cutting
import ThermalPress.Proofs.Markup.Pairing
import ThermalPress.Proofs.Jobs.Histories
import ThermalPress.Proofs.Jobs.Receipts
import ThermalPress.Proofs.Markup.Visible
import ThermalPress.Proofs.Markup.Widths
import ThermalPress.Proofs.Markup.LineEnds
import ThermalPress.Proofs.Qr.Payloads
import ThermalPress.Proofs.Delivery.SpoolLife
import ThermalPress.Proofs.Delivery.Verdicts
import ThermalPress.Proofs.Markup.Untagged
import ThermalPress.Proofs.Markup.Encoded
import ThermalPress.Proofs.Settings.Precedence
import ThermalPress.Proofs.Http.Blanks
import ThermalPress.Proofs.Text.Casing
import ThermalPress.Proofs.Number.Hexadecimal
import ThermalPress.Proofs.Delivery.Endpoints
import ThermalPress.Proofs.Markup.Stripping
import ThermalPress.Proofs.Settings.Trees
import ThermalPress.Proofs.Settings.Savings
import ThermalPress.Proofs.Printer.RasterCommands
import ThermalPress.Proofs.Libraries.Symbols
import ThermalPress.Proofs.Qr.Images
