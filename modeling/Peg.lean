import Peg.Main
import Peg.Proofs.Grammar.LeftRecursion
import Peg.Proofs.Grammar.Reading
import Peg.Proofs.Grammar.Recognition
import Peg.Proofs.Match.Correctness
import Peg.Proofs.Match.Leaves
import Peg.Proofs.Digraph
import Peg.Proofs.Grammar.Nullability
import Peg.Proofs.Match.Nesting
import Peg.Proofs.Grammar.Limit
import Peg.Proofs.Match.Evolution
import Peg.Proofs.Match.Translation
import Peg.Proofs.Grammar.Discarding
import Peg.Proofs.Grammar.Acceptance
import Peg.Proofs.Grammar.Order
import Peg.Proofs.Grammar.Reachability
import Peg.Proofs.Grammar.EmptyMatches
import Peg.Proofs.Token.HandOff
import Peg.Proofs.Grammar.Cycles
import Peg.Proofs.Match.Termination
import Peg.Proofs.Token.Quoting
import Peg.Proofs.Regex.Anchoring
import Peg.Proofs.Match.Merging
import Peg.Proofs.Match.Identities
import Peg.Proofs.Grammar.EarliestError
import Peg.Proofs.Grammar.Warnings
import Peg.Proofs.Grammar.Leniency
import Peg.Proofs.Grammar.Layout
import Peg.Proofs.Match.Positions
