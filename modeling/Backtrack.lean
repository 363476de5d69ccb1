import Backtrack.Node
import Backtrack.Grammar
import Backtrack.Script
import Backtrack.Parse
import Backtrack.Session
import Backtrack.Proofs.Cursor.Valid
import Backtrack.Proofs.Grammar.Parts
import Backtrack.Proofs.Parser.Replies
import Backtrack.Proofs.Parser.Limit
import Backtrack.Proofs.Contract
import Backtrack.Proofs.Session.Reachable
import Backtrack.Proofs.Meaning.Basic
import Backtrack.Proofs.Meaning.Refinement
import Backtrack.Proofs.Recovery
import Backtrack.Proofs.Journal.Nested
import Backtrack.Proofs.Journal.Count
import Backtrack.Proofs.Parse.Log
import Backtrack.Proofs.Leaks
import Backtrack.Proofs.Balance
import Backtrack.Proofs.Meaning.Failures
import Backtrack.Proofs.Repair
import Backtrack.Proofs.Trace
import Backtrack.Proofs.Meaning.Correspondence
import Backtrack.Proofs.Shift
import Backtrack.Proofs.Notices
import Backtrack.Proofs.Extension
import Backtrack.Proofs.Recoding
import Backtrack.Proofs.Termination
import Backtrack.Proofs.Laws.Repetition
import Backtrack.Proofs.Laws.Nesting
import Backtrack.Proofs.Laws.Mapping
import Backtrack.Proofs.Text.Line
import Backtrack.Proofs.Display
import Backtrack.Proofs.Alternatives
import Backtrack.Proofs.Window
import Backtrack.Proofs.Text.SelfDelimiting
import Backtrack.Proofs.Text.Escape
import Backtrack.Proofs.Matcher.Name
import Backtrack.Proofs.Cursor.Transaction
import Backtrack.Proofs.Cursor.Provenance
