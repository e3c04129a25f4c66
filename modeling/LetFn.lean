import LetFn.Main
import LetFn.Parsing.Trace
import LetFn.Tree.Equality
import LetFn.Proofs.Scanning.Rule
import LetFn.Proofs.Scanning.Offsets
import LetFn.Proofs.Scanning.Basic
import LetFn.Proofs.Scanning.Spelling
import LetFn.Proofs.Scanning.Munch
import LetFn.Proofs.Scanning.Bounds
import LetFn.Proofs.Reading.Basic
import LetFn.Proofs.Reading.Budget
import LetFn.Proofs.Reading.Total
import LetFn.Proofs.Reading.Log
import LetFn.Proofs.Reading.Order
import LetFn.Proofs.Reading.Nodes
import LetFn.Proofs.Reading.Simulation
import LetFn.Proofs.Reading.Sessions
import LetFn.Proofs.Reading.Replay
import LetFn.Proofs.Reading.Account
import LetFn.Proofs.Grammar.Basic
import LetFn.Proofs.Grammar.Sound
import LetFn.Proofs.Grammar.Complete
import LetFn.Proofs.Printing.Basic
import LetFn.Proofs.Printing.Scan
import LetFn.Proofs.Printing.RoundTrip
import LetFn.Proofs.Printing.Partial
import LetFn.Proofs.Printing.Reread
import LetFn.Proofs.Printing.Kept
import LetFn.Proofs.Recovery.Faults
import LetFn.Proofs.Recovery.Foreign
import LetFn.Proofs.Recovery.Cascade
import LetFn.Proofs.Recovery.Holes
import LetFn.Proofs.Recognizer.Basic
import LetFn.Proofs.Recognizer.Steps
import LetFn.Proofs.Recognizer.Simulation
import LetFn.Proofs.Recognizer.Completion
import LetFn.Proofs.Plain.Basic
import LetFn.Proofs.Plain.Greedy
import LetFn.Proofs.Plain.Closing
import LetFn.Proofs.Plain.Seam
import LetFn.Proofs.Command.Agreement
import LetFn.Proofs.Command.Lines
import LetFn.Proofs.Nodes.Agreement
import LetFn.Proofs.Recovery.Numerals
import LetFn.Proofs.Scanning.Seam
import LetFn.Proofs.Text.Listing
import LetFn.Proofs.Text.Messages
import LetFn.Proofs.Printing.Unambiguous
import LetFn.Proofs.Recovery.Parentheses
