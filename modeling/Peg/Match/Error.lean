import Peg.Text.Quoted

/-!
# Match errors

A match error says what would have been accepted at a position. `MatchError.furthest` merges two
errors: the one further into the input counts, and at one position the expectations of both.
-/

namespace Peg

/-- Why a match failed: the position, what would have been accepted there, and an excerpt of the
input from the position on. -/
structure MatchError where
  position : Nat
  expected : List String
  neighborhood : String
deriving DecidableEq, Repr

namespace MatchError

/-- The expectations of `more` that are new, behind those already known. -/
def addExpected (known : List String) : List String → List String
  | [] => known
  | e :: more => addExpected (if known.contains e then known else known ++ [e]) more

/-- The error further into the input; at one position, the left one with the expectations of the
right one added. -/
def furthest (a b : MatchError) : MatchError :=
  if a.position < b.position then b
  else if b.position < a.position then a
  else { a with expected := addExpected a.expected b.expected }

def message (e : MatchError) : String :=
  let expected := " or ".intercalate e.expected
  s!"expected {expected} at offset {e.position}: {Text.quote e.neighborhood}"

end MatchError

end Peg
