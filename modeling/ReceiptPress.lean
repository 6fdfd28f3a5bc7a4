import ReceiptPress.Main
import ReceiptPress.Tag.Operation
import ReceiptPress.Proofs.Faults
import ReceiptPress.Proofs.Tag.Agreement
import ReceiptPress.Proofs.Stream.Framing
import ReceiptPress.Proofs.Synthesis.Passes
import ReceiptPress.Proofs.Text.Plain
import ReceiptPress.Proofs.Canvas
import ReceiptPress.Proofs.Synthesis.Reading
import ReceiptPress.Proofs.Printer
import ReceiptPress.Proofs.Synthesis.Following
import ReceiptPress.Proofs.Synthesis.Composition
import ReceiptPress.Proofs.Synthesis.Accounting
import ReceiptPress.Proofs.Tag.Literals
import ReceiptPress.Proofs.Text.Words
import ReceiptPress.Proofs.Synthesis.Overflow
import ReceiptPress.Proofs.Sale.Refusals
import ReceiptPress.Proofs.Synthesis.Width
import ReceiptPress.Proofs.CommandLine.Loading
import ReceiptPress.Proofs.Text.Seams
import ReceiptPress.Proofs.Tag.Replacement
import ReceiptPress.Proofs.Tag.Filling
import ReceiptPress.Proofs.Synthesis.Substitution
import ReceiptPress.Proofs.Synthesis.Formatting
import ReceiptPress.Proofs.Settings
import ReceiptPress.Proofs.Synthesis.Aborts
import ReceiptPress.Proofs.Synthesis.Losses
import ReceiptPress.Proofs.Synthesis.Locality
import ReceiptPress.Proofs.Synthesis.Audit
import ReceiptPress.Proofs.Synthesis.Leaks
import ReceiptPress.Proofs.Synthesis.LoadedJobs
import ReceiptPress.Proofs.CommandLine.Sources
import ReceiptPress.Proofs.Synthesis.AnyData
import ReceiptPress.Proofs.CommandLine.Release
import ReceiptPress.Proofs.Tag.Division
import ReceiptPress.Proofs.Logo
import ReceiptPress.Proofs.Barcode
import ReceiptPress.Proofs.Stream.Parts
import ReceiptPress.Proofs.Synthesis.Limits
import ReceiptPress.Proofs.Text.Hexadecimal
import ReceiptPress.Proofs.Bytes.Hexdump
import ReceiptPress.Proofs.Stream.Preview
import ReceiptPress.Proofs.Number.Hundredths
import ReceiptPress.Proofs.Sale.Rows
import ReceiptPress.Proofs.Number.Precision
import ReceiptPress.Proofs.Sale.Totals
import ReceiptPress.Proofs.Tag.Scanning
import ReceiptPress.Proofs.Synthesis.Journal
import ReceiptPress.Proofs.Sale.Acceptance
