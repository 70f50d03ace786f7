import LexReport.Analysis.Error
import LexReport.Analysis.Findings
import LexReport.Analysis.Preparation
import LexReport.Analysis.Run
import LexReport.Command.Arguments
import LexReport.Command.Narration
import LexReport.Command.Replies
import LexReport.Command.Run
import LexReport.Config.Document
import LexReport.Config.Environment
import LexReport.Config.Load
import LexReport.Config.Preferences
import LexReport.Decimal.Fixed
import LexReport.Files.Failure
import LexReport.Files.Path
import LexReport.Files.Tree
import LexReport.Files.Work
import LexReport.Input.Error
import LexReport.Input.Read
import LexReport.Input.Size
import LexReport.Json.Printer
import LexReport.Json.Reader
import LexReport.Json.Value
import LexReport.Limits
import LexReport.Main
import LexReport.Notice.Code
import LexReport.Notice.Event
import LexReport.Notice.Journal
import LexReport.Notice.Ledger
import LexReport.Notice.Level
import LexReport.Notice.Line
import LexReport.Notice.Outlet
import LexReport.Notice.Overview
import LexReport.Notice.Recent
import LexReport.Notice.Stage
import LexReport.Profile.Constants
import LexReport.Profile.Document
import LexReport.Profile.Load
import LexReport.Profile.Problem
import LexReport.Report.Delivery
import LexReport.Report.Layout
import LexReport.Report.Summary
import LexReport.Scan.Error
import LexReport.Scan.Metrics
import LexReport.Scan.Pattern
import LexReport.Scan.Piece
import LexReport.Scan.Rule
import LexReport.Scan.Run
import LexReport.Source.Lines
import LexReport.Source.Position
import LexReport.Source.Span
import LexReport.Symbol.Class
import LexReport.Symbol.Error
import LexReport.Symbol.Identifiers
import LexReport.Symbol.Table
import LexReport.Text.Bytes
import LexReport.Text.Cased
import LexReport.Text.Characters
import LexReport.Text.Escaped
import LexReport.Text.LineEndings
import LexReport.Text.Lowercase
import LexReport.Text.Printable
import LexReport.Text.Similarity
import LexReport.Text.Toned
import LexReport.Text.Visible
import LexReport.Text.WordChar
import LexReport.Time.Instant
import LexReport.Token.Basic
import LexReport.Token.Category
import LexReport.Token.Form
import LexReport.Toml.Fields
import LexReport.Toml.Item
import LexReport.Toml.Numbers
import LexReport.Toml.Reader
import LexReport.Toml.Texts
import LexReport.Proofs.Pattern.Matching
import LexReport.Proofs.Text.Runs
import LexReport.Proofs.Pattern.Backtracking
import LexReport.Proofs.Text.Bytes
import LexReport.Proofs.Source.Position
import LexReport.Proofs.Source.Lines
import LexReport.Proofs.Source.Places
import LexReport.Proofs.Source.Snippet
import LexReport.Proofs.Pattern.Measured
import LexReport.Proofs.Scan.Finding
import LexReport.Proofs.Pattern.Search
import LexReport.Proofs.Scan.Borders
import LexReport.Proofs.Scan.Composition
import LexReport.Proofs.Scan.Tally
import LexReport.Proofs.Scan.Step
import LexReport.Proofs.Scan.Account
import LexReport.Proofs.Scan.Reprint
import LexReport.Proofs.Symbol.FirstSeen
import LexReport.Proofs.Scan.Limits
import LexReport.Proofs.Scan.Outcome
import LexReport.Proofs.Scan.Alike
import LexReport.Proofs.Scan.Failure
import LexReport.Proofs.Symbol.Table
import LexReport.Proofs.Notice.Stage
import LexReport.Proofs.Scan.Registered
import LexReport.Proofs.Analysis.Findings
import LexReport.Proofs.Files.Tree
import LexReport.Proofs.Files.Work
import LexReport.Proofs.Input.Read
import LexReport.Proofs.Analysis.Course
import LexReport.Proofs.Analysis.Outputs
import LexReport.Proofs.Json.Written
import LexReport.Proofs.Json.ReadBack
import LexReport.Proofs.Token.Form
import LexReport.Proofs.Scan.Emitted
import LexReport.Proofs.Scan.Counted
import LexReport.Proofs.Scan.Shown
import LexReport.Proofs.Report.Contents
import LexReport.Proofs.Files.Shape
import LexReport.Proofs.Text.LineEndings
import LexReport.Proofs.Analysis.Reencoded
import LexReport.Proofs.Report.Lines
import LexReport.Proofs.Notice.Ledger
import LexReport.Proofs.Notice.Failure
import LexReport.Proofs.Scan.Said
import LexReport.Proofs.Scan.Preferences
import LexReport.Proofs.Analysis.Failure
import LexReport.Proofs.Analysis.Recorded
import LexReport.Proofs.Scan.Words
import LexReport.Proofs.Analysis.Names
import LexReport.Proofs.Symbol.History
import LexReport.Proofs.Input.Course
import LexReport.Proofs.Command.Run
import LexReport.Proofs.Input.Outcome
import LexReport.Proofs.Notice.Totals
import LexReport.Proofs.Analysis.Scopes
import LexReport.Proofs.Symbol.Offers
import LexReport.Proofs.Scan.WholeWords
import LexReport.Proofs.Source.WholeLines
import LexReport.Proofs.Text.Clipped
import LexReport.Proofs.Notice.Recent
