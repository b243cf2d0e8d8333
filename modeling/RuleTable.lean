import RuleTable.Directory
import RuleTable.Dump
import RuleTable.Event
import RuleTable.Grammar
import RuleTable.Line
import RuleTable.Log.Filter
import RuleTable.Log.Pattern
import RuleTable.Log.Pattern.Bracket
import RuleTable.Log.Pattern.Escape
import RuleTable.Log.Record
import RuleTable.Main
import RuleTable.Program
import RuleTable.Proofs.Accounting
import RuleTable.Proofs.Bodies
import RuleTable.Proofs.BodyPieces
import RuleTable.Proofs.CanonicalBody
import RuleTable.Proofs.Comments
import RuleTable.Proofs.Concatenation
import RuleTable.Proofs.Decoding
import RuleTable.Proofs.Delivery
import RuleTable.Proofs.Doubled
import RuleTable.Proofs.DumpReading
import RuleTable.Proofs.Encoding
import RuleTable.Proofs.Generation
import RuleTable.Proofs.Inertness
import RuleTable.Proofs.JsonReading
import RuleTable.Proofs.Layout
import RuleTable.Proofs.LineEndings
import RuleTable.Proofs.LineForm
import RuleTable.Proofs.LineNumbering
import RuleTable.Proofs.LinePositions
import RuleTable.Proofs.Loading
import RuleTable.Proofs.Outcomes
import RuleTable.Proofs.Reading
import RuleTable.Proofs.Refusal
import RuleTable.Proofs.Sessions
import RuleTable.Proofs.Splitting
import RuleTable.Proofs.Trimming
import RuleTable.Proofs.Unambiguity
import RuleTable.Proofs.Verbosity
import RuleTable.Proofs.Writing
import RuleTable.Proofs.WrittenRule
import RuleTable.Registration
import RuleTable.Rule
import RuleTable.Session
import RuleTable.Sink
import RuleTable.Text.Alphanumeric
import RuleTable.Text.Basic
import RuleTable.Text.Quoted
import RuleTable.Tool
import RuleTable.Transpile
import RuleTable.Utf8
