import TradeLedger.Fault
import TradeLedger.Text.Basic
import TradeLedger.Text.Uppercase
import TradeLedger.Decimal.Arithmetic
import TradeLedger.Decimal.Quotient
import TradeLedger.Decimal.Text
import TradeLedger.Binary64.Text
import TradeLedger.Decimal.Binary
import TradeLedger.Calendar.Text
import TradeLedger.Ordered
import TradeLedger.Ledger.Line
import TradeLedger.Ledger.Position
import TradeLedger.Inventory.Book
import TradeLedger.Series.Reconstruction
import TradeLedger.Tax.Report
import TradeLedger.Review.Weekly
import TradeLedger.Store.Database
import TradeLedger.Main
import TradeLedger.Proofs.Decimal.Value
import TradeLedger.Proofs.Decimal.Fit
import TradeLedger.Proofs.Decimal.Arithmetic
import TradeLedger.Proofs.Decimal.Quotient
import TradeLedger.Proofs.Fault
import TradeLedger.Proofs.Inventory.Portion
import TradeLedger.Proofs.Inventory.Posting
import TradeLedger.Proofs.Inventory.Run
import TradeLedger.Proofs.Inventory.Invariant
import TradeLedger.Proofs.Inventory.Bound
import TradeLedger.Proofs.Decimal.Cents
import TradeLedger.Proofs.Inventory.Growth
import TradeLedger.Proofs.Inventory.Conservation
import TradeLedger.Proofs.Decimal.Imported
import TradeLedger.Proofs.Inventory.Strain
import TradeLedger.Proofs.Inventory.Overflow
import TradeLedger.Proofs.Budget
import TradeLedger.Proofs.Series.Budget
import TradeLedger.Proofs.Series.Overflow
import TradeLedger.Proofs.Series.Exact
import TradeLedger.Proofs.Series.Definition
import TradeLedger.Proofs.Inventory.Separation
import TradeLedger.Proofs.Decimal.Congruence
import TradeLedger.Proofs.Series.Steps
import TradeLedger.Proofs.Series.Reordering
import TradeLedger.Proofs.Series.Figures
import TradeLedger.Proofs.Text.Uppercase
import TradeLedger.Proofs.Series.Symbols
import TradeLedger.Proofs.Series.Scopes
import TradeLedger.Proofs.Inventory.Policies
import TradeLedger.Proofs.Series.Policies
import TradeLedger.Proofs.Inventory.Position
import TradeLedger.Proofs.Series.History
import TradeLedger.Proofs.Store.Visibility
import TradeLedger.Proofs.CommandLine.Isolation
import TradeLedger.Proofs.Decimal.Totals
import TradeLedger.Proofs.Ordered.Parts
import TradeLedger.Proofs.Tax.Reconciliation
import TradeLedger.Proofs.Tax.Years
import TradeLedger.Proofs.Tax.Reordering
import TradeLedger.Proofs.Calendar.Civil
import TradeLedger.Proofs.Text.Blank
import TradeLedger.Proofs.Calendar.Text
import TradeLedger.Proofs.Calendar.Layouts
import TradeLedger.Proofs.Calendar.Written
import TradeLedger.Proofs.Calendar.Times
import TradeLedger.Proofs.Text.Fields
import TradeLedger.Proofs.Ledger.Normal
import TradeLedger.Proofs.Series.Days
import TradeLedger.Proofs.Series.ZeroSigns
import TradeLedger.Proofs.Store.Lines
import TradeLedger.Proofs.Store.Insertion
import TradeLedger.Proofs.Store.Series
import TradeLedger.Proofs.Store.Reading
import TradeLedger.Proofs.Review.Weeks
import TradeLedger.Proofs.Store.Respelling
import TradeLedger.Proofs.Tax.Chart
import TradeLedger.Proofs.Series.Ending
import TradeLedger.Proofs.Tax.Repurchase
import TradeLedger.Proofs.Decimal.Monotone
import TradeLedger.Proofs.Tax.Monotone
import TradeLedger.Proofs.Tax.Budget
import TradeLedger.Proofs.Review.Budget
import TradeLedger.Proofs.Ordered.Argmax
import TradeLedger.Proofs.Review.Highlights
import TradeLedger.Proofs.Decimal.Fraction
import TradeLedger.Proofs.Ordered.Grouping
import TradeLedger.Proofs.Text.ByteOrder
import TradeLedger.Proofs.Review.Strategies
import TradeLedger.Proofs.Review.Impulses
import TradeLedger.Proofs.Store.Restriction
import TradeLedger.Proofs.Store.Journal
import TradeLedger.Proofs.Store.RoundTrip
import TradeLedger.Proofs.Inventory.Resumption
import TradeLedger.Proofs.CommandLine.AccountFlag
