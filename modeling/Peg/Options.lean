/-!
# Options

Settings of a grammar. What is not set has a default.
-/

namespace Peg

/-- How a grammar is built and run. -/
structure Options where
  /-- The rule that matching starts from; the first definition if it is not set. -/
  entry : Option String := none
  /-- How many bytes of the input an error quotes. -/
  neighborhood : Option Nat := none
  /-- Whether a discarded expression that fails matches nothing instead. -/
  lenientDiscard : Bool := false
  /-- How many references may be nested inside one another. -/
  maxDepth : Option Nat := none
deriving DecidableEq, Repr

namespace Options

def neighborhoodWidth (o : Options) : Nat := o.neighborhood.getD 10

def depthLimit (o : Options) : Nat := o.maxDepth.getD 256

end Options

end Peg
