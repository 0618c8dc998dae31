import SqlReader.Cursor.Call
import SqlReader.Directory
import SqlReader.Main
import SqlReader.Proofs.Grammar.Acceptance
import SqlReader.Proofs.Quoting
import SqlReader.Proofs.Scan.Selection
import SqlReader.Proofs.Lexeme.Covering
import SqlReader.Proofs.Scan.Tiling
import SqlReader.Proofs.Draft.Progress
import SqlReader.Proofs.Script.Pieces
import SqlReader.Proofs.Relabelling.Places
import SqlReader.Proofs.Scan.Appending
import SqlReader.Proofs.Script.Concatenation
import SqlReader.Proofs.Draft.Continuation
import SqlReader.Proofs.Grammar.Viable
import SqlReader.Proofs.Grammar.FirstRefused
import SqlReader.Proofs.Cursor.Runs
import SqlReader.Proofs.Scan.Respacing
import SqlReader.Proofs.Scan.LetterCase
import SqlReader.Proofs.Script.Standing
import SqlReader.Proofs.Scan.Stopping
import SqlReader.Proofs.Scan.Unclosed
import SqlReader.Proofs.Cursor.Stopping
import SqlReader.Proofs.Relabelling.Kinds
import SqlReader.Proofs.Diagnostic.Place
import SqlReader.Proofs.Text.Lines
import SqlReader.Proofs.Diagnostic.Layout
import SqlReader.Proofs.Diagnostic.Caret
import SqlReader.Proofs.Values
import SqlReader.Proofs.Grammar.Asking
import SqlReader.Proofs.Dump
import SqlReader.Proofs.Outline.Layout
import SqlReader.Proofs.Script.Log
import SqlReader.Proofs.Cursor.Lookahead
import SqlReader.Proofs.Scan.Turns
