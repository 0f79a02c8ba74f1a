import Peg.Match.Attempt
import Peg.Rule

/-!
# Matching rules

`Rule.attempt` is the attempt that a rule stands for, given the attempts that keys stand for.
`Rule.attemptWithin` ties the knot: every reference uses up one level of nesting, so matching ends
for every graph of rules. A `Context` holds what several matches on one input share.
-/

namespace Peg

mutual

/-- The attempt of a rule, where `enter` gives the attempts of linked references. -/
def Rule.attempt (s : Setup) (enter : String → Option Attempt) : Rule → Attempt
  | .literal name bytes =>
    .unlessOverflown <| .terminal s name (Rule.literal name bytes).expectation
      (s.source.matchLiteral? bytes)
  | .pattern name p =>
    .unlessOverflown <| .terminal s name (Rule.pattern name p).expectation
      (s.source.matchPattern? p)
  | .reference _ target link =>
    .unlessOverflown fun pos trail =>
      match link.bind enter with
      | some a => a pos trail
      | none => s.fail s!"resolved rule `{target}`" pos trail
  | .concat name parts => .unlessOverflown <| .sequence name (Rule.attempts s enter parts)
  | .plus name child => .unlessOverflown <| .plus s name (child.attempt s enter)
  | .star name child => .unlessOverflown <| .star s name (child.attempt s enter)
  | .optional _ child => .unlessOverflown <| .optional (child.attempt s enter)
  | .alternate _ left right =>
    .unlessOverflown <| .orElse (left.attempt s enter) (right.attempt s enter)
  | .discard _ child => .unlessOverflown <| .discard s (child.attempt s enter)

/-- The attempts of some rules. -/
def Rule.attempts (s : Setup) (enter : String → Option Attempt) : List Rule → List Attempt
  | [] => []
  | r :: rs => r.attempt s enter :: Rule.attempts s enter rs

end

/-- The attempt of a rule of a graph, with so many levels of references left. -/
def Rule.attemptWithin (s : Setup) (graph : RuleGraph) : Nat → Rule → Attempt
  | 0, rule => rule.attempt s fun key => (graph key).map fun _ => s.overflow
  | left + 1, rule => rule.attempt s fun key => (graph key).map (Rule.attemptWithin s graph left)

/-- What the matches on one input share: their setup and the trail so far. -/
structure Context extends Setup, Trail

namespace Context

/-- Matches a rule of the graph at a position. -/
def matchAt (cx : Context) (graph : RuleGraph) (rule : Rule) (pos : Nat) :
    Except MatchError Match × Context :=
  let (result, trail) :=
    rule.attemptWithin cx.toSetup graph (cx.maxDepth - cx.depth) pos cx.toTrail
  (result, { cx with toTrail := trail })

/-- The failure to report: that of nesting too deeply if there was one, or else the furthest. -/
def toReport (cx : Context) : Option MatchError := cx.overflow <|> cx.furthest

end Context

end Peg
