import Mathlib.Logic.Relation
import Mathlib.Tactic.Lemma
import Peg.Match.Engine

/-!
# Induction on rules

The parts of a sequence are a list of rules, so the induction principle that Lean derives for rules
speaks of lists as well. `Rule.inductionOn` speaks of the parts one by one, and
`Rule.inductionWithin` adds the levels of references that are left: a reference uses one up, and
whatever else a rule is built from has as many as the rule.
-/

namespace Peg

/-- Induction on a rule, with the hypothesis for every part of a sequence. -/
@[elab_as_elim]
theorem Rule.inductionOn {P : Rule → Prop} (r : Rule)
    (literal : ∀ name bytes, P (.literal name bytes))
    (pattern : ∀ name p, P (.pattern name p))
    (reference : ∀ name target link, P (.reference name target link))
    (concat : ∀ name parts, (∀ part ∈ parts, P part) → P (.concat name parts))
    (plus : ∀ name child, P child → P (.plus name child))
    (star : ∀ name child, P child → P (.star name child))
    (optional : ∀ name child, P child → P (.optional name child))
    (alternate : ∀ name left right, P left → P right → P (.alternate name left right))
    (discard : ∀ name child, P child → P (.discard name child)) : P r := by
  refine @Rule.rec P (fun parts => ∀ part ∈ parts, P part)
    literal pattern reference concat plus star optional alternate discard ?_ ?_ r
  · simp
  · intro head tail hhead htail part hpart
    rcases List.mem_cons.mp hpart with rfl | hpart
    · exact hhead
    · exact htail part hpart

/-- Induction on the levels of references that are left and on a rule. -/
@[elab_as_elim]
theorem Rule.inductionWithin {P : Nat → Rule → Prop} (levels : Nat) (r : Rule)
    (literal : ∀ levels name bytes, P levels (.literal name bytes))
    (pattern : ∀ levels name p, P levels (.pattern name p))
    (reference : ∀ levels name target link, (∀ left < levels, ∀ rule, P left rule) →
      P levels (.reference name target link))
    (concat : ∀ levels name parts, (∀ part ∈ parts, P levels part) → P levels (.concat name parts))
    (plus : ∀ levels name child, P levels child → P levels (.plus name child))
    (star : ∀ levels name child, P levels child → P levels (.star name child))
    (optional : ∀ levels name child, P levels child → P levels (.optional name child))
    (alternate : ∀ levels name left right, P levels left → P levels right →
      P levels (.alternate name left right))
    (discard : ∀ levels name child, P levels child → P levels (.discard name child)) :
    P levels r := by
  induction levels using Nat.strongRecOn generalizing r with
  | ind levels ih =>
    induction r using Rule.inductionOn with
    | literal name bytes => exact literal levels name bytes
    | pattern name p => exact pattern levels name p
    | reference name target link => exact reference levels name target link ih
    | concat name parts h => exact concat levels name parts h
    | plus name child h => exact plus levels name child h
    | star name child h => exact star levels name child h
    | optional name child h => exact optional levels name child h
    | alternate name left right hl hr => exact alternate levels name left right hl hr
    | discard name child h => exact discard levels name child h

/-! ### Names -/

namespace Rule

@[simp] lemma name_rename (name : String) (r : Rule) : (r.rename name).name = name := by
  cases r <;> rfl

@[simp] lemma dependencies_rename (name : String) (r : Rule) :
    (r.rename name).dependencies = r.dependencies := by
  cases r <;> rfl

end Rule

/-! ### Parts -/

/-- Whether the rule is built from the other one, or is the other one itself. -/
def Rule.Contains : Rule → Rule → Prop := Relation.ReflTransGen fun r part => part ∈ r.dependencies

lemma Rule.Contains.of_part {rule part inner : Rule} (hpart : part ∈ rule.dependencies)
    (h : part.Contains inner) : rule.Contains inner :=
  Relation.ReflTransGen.head hpart h

lemma Rule.Contains.eq_or_part {rule inner : Rule} (h : rule.Contains inner) :
    inner = rule ∨ ∃ part ∈ rule.dependencies, part.Contains inner :=
  (Relation.ReflTransGen.cases_head h).imp_left Eq.symm

/-! ### Attempts with so many levels left -/

@[simp] lemma Rule.attempts_eq_map (s : Setup) (enter : String → Option Attempt)
    (parts : List Rule) : Rule.attempts s enter parts = parts.map (Rule.attempt s enter) := by
  induction parts with
  | nil => rfl
  | cons r rs ih => simp [Rule.attempts, ih]

/-- The attempts of the keys of a graph, with so many levels of references left. -/
def Rule.enterWithin (s : Setup) (graph : RuleGraph) : Nat → String → Option Attempt
  | 0, key => (graph key).map fun _ => s.overflow
  | left + 1, key => (graph key).map (Rule.attemptWithin s graph left)

lemma Rule.attemptWithin_eq_attempt (s : Setup) (graph : RuleGraph) (levels : Nat) :
    Rule.attemptWithin s graph levels = Rule.attempt s (Rule.enterWithin s graph levels) := by
  cases levels <;> rfl

/-- A link that leads to no rule leads to no attempt. -/
lemma Rule.bind_enterWithin_eq_none {graph : RuleGraph} {link : Option String}
    (h : link.bind graph = none) (s : Setup) (levels : Nat) :
    link.bind (Rule.enterWithin s graph levels) = none := by
  cases link with
  | none => rfl
  | some key =>
    have hkey : graph key = none := h
    cases levels <;> simp [Rule.enterWithin, hkey]

end Peg
