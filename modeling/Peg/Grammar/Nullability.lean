import Peg.Digraph
import Peg.Rule

/-!
# Empty matches and left recursion

`Definitions.nullable` is the list of the rules that may succeed without matching anything, given
which rules they refer to: the least set of names that is closed under `Rule.isNullable`. A rule
calls another one at its own position if nothing before the reference has to match something. A
cycle of such calls would never end.
-/

namespace Peg

mutual

/-- Whether the rule may match nothing, given the named rules that may. -/
def Rule.isNullable (lenient : Bool) (named : String → Bool) : Rule → Bool
  | .literal _ bytes => bytes.isEmpty
  | .pattern _ p => p.mayBeEmpty
  | .reference _ target _ => named target
  | .concat _ rs => Rule.allNullable lenient named rs
  | .plus _ r => r.isNullable lenient named
  | .star .. | .optional .. => true
  | .alternate _ r s => r.isNullable lenient named || s.isNullable lenient named
  | .discard _ r => lenient || r.isNullable lenient named

def Rule.allNullable (lenient : Bool) (named : String → Bool) : List Rule → Bool
  | [] => true
  | r :: rs => r.isNullable lenient named && Rule.allNullable lenient named rs

end

mutual

/-- The targets of the references that the rule may follow at its own position. -/
def Rule.leftCalls (lenient : Bool) (named : String → Bool) : Rule → List String
  | .literal .. | .pattern .. => []
  | .reference _ target _ => [target]
  | .concat _ rs => Rule.leftCallsOfAll lenient named rs
  | .plus _ r | .star _ r | .optional _ r | .discard _ r => r.leftCalls lenient named
  | .alternate _ r s => r.leftCalls lenient named ++ s.leftCalls lenient named

def Rule.leftCallsOfAll (lenient : Bool) (named : String → Bool) : List Rule → List String
  | [] => []
  | r :: rs =>
    if r.isNullable lenient named then
      r.leftCalls lenient named ++ Rule.leftCallsOfAll lenient named rs
    else r.leftCalls lenient named

end

namespace Definitions

/-- One pass over the rules, from the last one on: adds the names of those that may match nothing,
given the names known so far. -/
def nullablePass (lenient : Bool) (rules : List Rule) (known : List String) : List String :=
  rules.foldr (fun r known =>
    if known.contains r.name then known
    else if r.isNullable lenient known.contains then r.name :: known
    else known) known

/-- At most `fuel` passes, until a pass adds nothing. -/
def nullableWithin (lenient : Bool) (rules : List Rule) : Nat → List String → List String
  | 0, known => known
  | fuel + 1, known =>
    let more := nullablePass lenient rules known
    if more.length = known.length then known else nullableWithin lenient rules fuel more

/-- The names of the rules that may succeed without matching anything. Every pass but the last adds
a name, so one pass more than there are rules is enough. -/
def nullable (lenient : Bool) (rules : List Rule) : List String :=
  nullableWithin lenient rules (rules.length + 1) []

/-- The place of a rule among the definitions. -/
def position? (rules : List Rule) (name : String) : Option Nat :=
  rules.findIdx? (·.name == name)

/-- The calls between rules at one position, as a graph on their places. -/
def callGraph (lenient : Bool) (rules : List Rule) : Digraph :=
  let named := (nullable lenient rules).contains
  .ofList <| rules.map fun r => (r.leftCalls lenient named).filterMap (position? rules)

/-- The names of the rules of the first cycle of calls at one position, in the order of their
definitions. -/
def leftRecursion? (lenient : Bool) (rules : List Rule) : Option (List String) :=
  (callGraph lenient rules).cyclicComponent?.map fun members =>
    (rules.zipIdx.filter fun r => members.contains r.2).map (·.1.name)

/-- All references between rules, as a graph on their places. -/
def referenceGraph (rules : List Rule) : Digraph :=
  .ofList <| rules.map fun r => r.targets.filterMap (position? rules)

/-- The rules that no chain of references leads to from the rule `entry`. -/
def unreachable (rules : List Rule) (entry : String) : List Rule :=
  match position? rules entry with
  | none => rules
  | some v =>
    let reached := (referenceGraph rules).reachable v
    (rules.zipIdx.filter fun r => !reached.contains r.2).map (·.1)

end Definitions

end Peg
