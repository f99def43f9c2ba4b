import LoxTokens.Session
import LoxTokens.Command.Folder
import LoxTokens.Main
import LoxTokens.Proofs.Scan.LongestMatch
import LoxTokens.Proofs.Scan.LineBreak
import LoxTokens.Proofs.Scan.Spelling
import LoxTokens.Proofs.Args.Division
import LoxTokens.Proofs.Scan.Lines
import LoxTokens.Proofs.Scan.Lookahead
import LoxTokens.Proofs.Scan.Log
import LoxTokens.Proofs.Command.Writes
import LoxTokens.Proofs.Command.Prompt
import LoxTokens.Proofs.Scan.JoinedLines
import LoxTokens.Proofs.Command.Script
import LoxTokens.Proofs.Args.Order
import LoxTokens.Proofs.Args.Distinct
import LoxTokens.Proofs.Args.Render
import LoxTokens.Proofs.Args.Usage
import LoxTokens.Proofs.Command.Options
import LoxTokens.Proofs.Command.Outcome
import LoxTokens.Proofs.Session.History
import LoxTokens.Proofs.Scan.Clean
import LoxTokens.Proofs.Args.Reached
import LoxTokens.Proofs.Args.Fault
import LoxTokens.Proofs.Args.Forms
import LoxTokens.Proofs.Double.Rounding
import LoxTokens.Proofs.Double.Nearest
import LoxTokens.Proofs.Decimal.Numeral
import LoxTokens.Proofs.Scan.Number
import LoxTokens.Proofs.Double.ReadBack
import LoxTokens.Proofs.Scan.NumberText
import LoxTokens.Proofs.Command.Listing
import LoxTokens.Proofs.Scan.Sink
import LoxTokens.Proofs.Scan.Records
import LoxTokens.Proofs.Args.Loop
import LoxTokens.Proofs.Args.Table
import LoxTokens.Proofs.Args.Analysis
import LoxTokens.Proofs.Double.Layout
import LoxTokens.Proofs.Text.Escape
import LoxTokens.Proofs.Scan.Inspect
import LoxTokens.Proofs.Args.Rounds
import LoxTokens.Proofs.Scan.Cursor.Reached
