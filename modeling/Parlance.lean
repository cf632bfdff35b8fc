import Parlance.Main
import Parlance.Token.Cursor
import Parlance.Proofs.Expression
import Parlance.Proofs.Completeness
import Parlance.Proofs.Slices
import Parlance.Proofs.Order
import Parlance.Proofs.Lookahead
import Parlance.Proofs.Isolation
import Parlance.Proofs.Failures
import Parlance.Proofs.Termination
import Parlance.Proofs.Spelling
import Parlance.Proofs.Layout
import Parlance.Proofs.Spacing
import Parlance.Proofs.Concatenation
import Parlance.Proofs.Shape
import Parlance.Proofs.Likeness
import Parlance.Proofs.Simulation
import Parlance.Proofs.Rules
import Parlance.Proofs.Invariant
import Parlance.Proofs.InStep
import Parlance.Proofs.Kinds
import Parlance.Proofs.Decimals
import Parlance.Proofs.Quoting
import Parlance.Proofs.Phrases
import Parlance.Proofs.Genuine
import Parlance.Proofs.Printing
import Parlance.Proofs.Phrasing
import Parlance.Proofs.Blame
import Parlance.Proofs.Lines
import Parlance.Proofs.Refusal
import Parlance.Proofs.Located
import Parlance.Proofs.Caret
import Parlance.Proofs.Operations
import Parlance.Proofs.Minor
import Parlance.Proofs.SourceOrder
import Parlance.Proofs.Unwinding
import Parlance.Proofs.Resumption
import Parlance.Proofs.Targets
import Parlance.Proofs.Escapes
import Parlance.Proofs.Echo
import Parlance.Proofs.Spots
import Parlance.Proofs.Values
import Parlance.Proofs.Arity
import Parlance.Proofs.Arguments
import Parlance.Proofs.Tally
