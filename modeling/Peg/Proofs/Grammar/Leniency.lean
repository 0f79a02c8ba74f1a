import Peg.Proofs.Grammar.EmptyMatches

/-!
# Strict and lenient discarding

Where discarding is lenient, a discarded rule may always match nothing. So more rules may match
nothing than where it is strict, and more of them are called at the position of their caller. The
checks look for cycles of such calls: what they accept where discarding is lenient they accept where
it is strict.
-/

namespace Peg

namespace Rule

variable {lenient : Bool} {rules : List Rule} {rule : Rule}

/-- What may match nothing where discarding is strict may do so anyway. -/
lemma MayBeEmpty.of_strict (h : rule.MayBeEmpty false rules) : rule.MayBeEmpty lenient rules := by
  induction h with
  | literal => exact .literal
  | pattern h => exact .pattern h
  | reference hr _ ih => exact .reference hr ih
  | concat _ ih => exact .concat ih
  | plus _ ih => exact .plus ih
  | star => exact .star
  | optional => exact .optional
  | left _ ih => exact .left ih
  | right _ ih => exact .right ih
  | discard _ ih => exact .discard ih
  | lenientDiscard h => cases h

lemma CallsAtOnce.of_strict {target : String} (h : rule.CallsAtOnce false rules target) :
    rule.CallsAtOnce lenient rules target := by
  induction h with
  | reference => exact .reference
  | part hbefore _ ih => exact .part (fun r hr => (hbefore r hr).of_strict) ih
  | plus _ ih => exact .plus ih
  | star _ ih => exact .star ih
  | optional _ ih => exact .optional ih
  | left _ ih => exact .left ih
  | right _ ih => exact .right ih
  | discard _ ih => exact .discard ih

end Rule

namespace Definitions

variable {lenient : Bool} {rules : List Rule}

lemma Calls.of_strict {caller callee : String} (h : Calls false rules caller callee) :
    Calls lenient rules caller callee := by
  obtain ⟨r, hr, hname, hcalls⟩ := h
  exact ⟨r, hr, hname, hcalls.of_strict⟩

/-- A cycle of calls where discarding is strict is one anyway. -/
lemma Acyclic.strict (h : Acyclic lenient rules) : Acyclic false rules := by
  intro name hcycle
  exact h name (Relation.TransGen.mono (fun _ _ hcalls => hcalls.of_strict) name name hcycle)

lemma WellFormed.strict {options : Options} (h : WellFormed rules options) :
    WellFormed rules { options with lenientDiscard := false } where
  nonempty := h.nonempty
  distinct := h.distinct
  entry := h.entry
  defined := h.defined
  acyclic := h.acyclic.strict

lemma nullable_subset_of_strict : nullable false rules ⊆ nullable lenient rules := by
  intro name hname
  obtain ⟨r, hr, rfl, hempty⟩ := mem_nullable.mp hname
  exact mem_nullable.mpr ⟨r, hr, rfl, hempty.of_strict⟩

lemma isNullable_of_strict {rule : Rule}
    (h : rule.isNullable false (nullable false rules).contains = true) :
    rule.isNullable lenient (nullable lenient rules).contains = true :=
  isNullable_nullable.mpr (isNullable_nullable.mp h).of_strict

lemma leftCalls_subset_of_strict (rule : Rule) :
    rule.leftCalls false (nullable false rules).contains ⊆
      rule.leftCalls lenient (nullable lenient rules).contains := by
  intro target htarget
  exact mem_leftCalls_nullable.mpr (mem_leftCalls_nullable.mp htarget).of_strict

lemma edge_callGraph_of_strict {i j : Nat} (h : (callGraph false rules).Edge i j) :
    (callGraph lenient rules).Edge i j := by
  obtain ⟨r, hr, callee, hcallee, hj⟩ := edge_callGraph.mp h
  exact edge_callGraph.mpr ⟨r, hr, callee, leftCalls_subset_of_strict r hcallee, hj⟩

end Definitions

namespace Grammar

open Definitions (nullable callGraph)

/-- Definitions that are accepted where discarding is lenient are accepted where it is strict. All
that may match nothing where it is strict, and all that is called at the position of its caller, is
so where it is lenient. -/
theorem strict_accepts (rules : List Rule) (options : Options) :
    ((∃ g, (ofDefinitions rules { options with lenientDiscard := true }).1 = .ok g) →
      ∃ g, (ofDefinitions rules { options with lenientDiscard := false }).1 = .ok g) ∧
    nullable false rules ⊆ nullable true rules ∧
    (∀ rule : Rule, rule.isNullable false (nullable false rules).contains = true →
      rule.isNullable true (nullable true rules).contains = true) ∧
    (∀ rule : Rule, rule.leftCalls false (nullable false rules).contains ⊆
      rule.leftCalls true (nullable true rules).contains) ∧
    ∀ i j, (callGraph false rules).Edge i j → (callGraph true rules).Edge i j := by
  refine ⟨?_, Definitions.nullable_subset_of_strict, fun _ => Definitions.isNullable_of_strict,
    fun rule => Definitions.leftCalls_subset_of_strict rule,
    fun _ _ => Definitions.edge_callGraph_of_strict⟩
  rw [exists_ofDefinitions_iff, exists_ofDefinitions_iff]
  exact fun h => h.strict

/-- The separator between items may match nothing only where discarding is lenient, and only there
does the list call what stands behind it at once. -/
theorem strict_accepts_separator :
    let list : Rule := .concat "list" [.reference "sep" "sep" none, .reference "item" "item" none]
    let sep : Rule := .discard "sep" (.literal "','" [44])
    let item : Rule := .literal "item" [97]
    let rules : List Rule := [list, sep, item]
    (∃ g, (ofDefinitions rules { lenientDiscard := true }).1 = .ok g) ∧
      (∃ g, (ofDefinitions rules { lenientDiscard := false }).1 = .ok g) ∧
      nullable false rules = [] ∧ nullable true rules = ["sep"] ∧
      (callGraph false rules).Edge 0 1 ∧ (callGraph true rules).Edge 0 1 ∧
      ¬ (callGraph false rules).Edge 0 2 ∧ (callGraph true rules).Edge 0 2 := by
  intro list sep item rules
  have hok : (ofDefinitions rules { lenientDiscard := true }).1.isOk = true := by
    decide +kernel +revert
  have hlenient : ∃ g, (ofDefinitions rules { lenientDiscard := true }).1 = .ok g := by
    generalize (ofDefinitions rules { lenientDiscard := true }).1 = result at hok
    cases result with
    | ok g => exact ⟨g, rfl⟩
    | error e => exact absurd hok Bool.false_ne_true
  have hedge : (callGraph false rules).Edge 0 1 := by unfold Digraph.Edge; decide
  obtain ⟨haccepts, -, -, -, hedges⟩ := strict_accepts rules {}
  exact ⟨hlenient, haccepts hlenient, by decide, by decide, hedge, hedges 0 1 hedge,
    by unfold Digraph.Edge; decide, by unfold Digraph.Edge; decide⟩

end Grammar

end Peg
