import Mathlib.Data.List.Perm.Subperm
import Mathlib.Data.List.ProdSigma
import Peg.Proofs.Grammar.Nullability
import Peg.Proofs.Match.Limits

/-!
# How deeply references nest

The references that are followed one inside of the other never go back in the input, and those at
one position are left calls of each other. Where left calls form no cycle, no key is followed twice
at one position, so there are only so many nested references. An overflow would need one more.
-/

namespace Peg

/-! ### Chains of references -/

/-- The rule of the first key may follow a reference to the second one at its own position. -/
def RuleGraph.LeftCalls (graph : RuleGraph) (lenient : Bool) (named : String → Bool)
    (caller callee : String) : Prop :=
  ∃ rule, graph caller = some rule ∧ callee ∈ rule.leftCalls lenient named

/-- References that may be followed one inside of the other, from a rule at a position on: each is
followed further into the input, or else it is a left call of the rule before it. -/
inductive Descends (size : Nat) (graph : RuleGraph) (lenient : Bool) (named : String → Bool) :
    Rule → Nat → List (String × Nat) → Prop where
  | nil {rule : Rule} {pos : Nat} : Descends size graph lenient named rule pos []
  | cons {rule inner : Rule} {pos next : Nat} {key : String} {rest : List (String × Nat)}
      (h : pos < next ∨ pos = next ∧ key ∈ rule.leftCalls lenient named) (hsize : next ≤ size)
      (hkey : graph key = some inner) (hrest : Descends size graph lenient named inner next rest) :
      Descends size graph lenient named rule pos ((key, next) :: rest)

section

variable {size : Nat} {graph : RuleGraph} {lenient : Bool} {named : String → Bool} {rule : Rule}
  {pos : Nat} {path : List (String × Nat)}

/-- A key that is followed without going on in the input is a left call, if not at first hand. -/
lemma Descends.later_or_leftCall (h : Descends size graph lenient named rule pos path)
    {key : String} {next : Nat} (hmem : (key, next) ∈ path) :
    pos < next ∨ pos = next ∧ ∃ first ∈ rule.leftCalls lenient named,
      Relation.ReflTransGen (graph.LeftCalls lenient named) first key := by
  induction h with
  | nil => simp at hmem
  | cons h _ hkey _ ih =>
    rcases List.mem_cons.mp hmem with heq | hmem
    · obtain ⟨rfl, rfl⟩ := Prod.mk.inj heq
      rcases h with hlt | ⟨hpos, hcall⟩
      · exact Or.inl hlt
      · exact Or.inr ⟨hpos, _, hcall, .refl⟩
    · rcases ih hmem with hlt | ⟨rfl, first, hfirst, hcalls⟩
      · exact Or.inl (by omega)
      · rcases h with hlt | ⟨hpos, hcall⟩
        · exact Or.inl hlt
        · exact Or.inr ⟨hpos, _, hcall, .head ⟨_, hkey, hfirst⟩ hcalls⟩

/-- Without cycles of left calls, no key is followed twice at one position. -/
lemma Descends.nodup (h : Descends size graph lenient named rule pos path)
    (hacyclic : ∀ key, ¬ Relation.TransGen (graph.LeftCalls lenient named) key key) :
    path.Nodup := by
  induction h with
  | nil => exact List.nodup_nil
  | cons _ _ hkey hrest ih =>
    refine List.nodup_cons.mpr ⟨fun hmem => ?_, ih⟩
    rcases hrest.later_or_leftCall hmem with hlt | ⟨-, first, hfirst, hcalls⟩
    · exact Nat.lt_irrefl _ hlt
    · exact hacyclic _ (.head' ⟨_, hkey, hfirst⟩ hcalls)

lemma Descends.mem_product (h : Descends size graph lenient named rule pos path)
    {keys : List String} (hkeys : ∀ key rule, graph key = some rule → key ∈ keys) :
    path ⊆ keys ×ˢ List.range (size + 1) := by
  induction h with
  | nil => exact List.nil_subset _
  | cons _ hsize hkey _ ih =>
    refine List.cons_subset.mpr ⟨?_, ih⟩
    simp [hkeys _ _ hkey]
    omega

/-- There are at most as many nested references as there are keys at positions. -/
lemma Descends.length_le (h : Descends size graph lenient named rule pos path)
    (hacyclic : ∀ key, ¬ Relation.TransGen (graph.LeftCalls lenient named) key key)
    {keys : List String} (hkeys : ∀ key rule, graph key = some rule → key ∈ keys) :
    path.length ≤ keys.length * (size + 1) := by
  have hle := ((h.nodup hacyclic).subperm (h.mem_product hkeys)).length_le
  rwa [List.length_product, List.length_range] at hle

end

/-! ### Visits -/

section

variable {source : Source} {graph : RuleGraph} {lenient : Bool} {named : String → Bool}
  {rule : Rule} {pos : Nat}

lemma descends_followed (hpos : pos ≤ source.size) (hrule : rule.Analyzable) :
    Descends source.size graph lenient named rule pos (Visit.followed graph { rule, pos }) := by
  cases rule with
  | reference name target link =>
    obtain rfl := hrule.links name target link .refl
    cases hkey : graph target with
    | none => simpa [Visit.followed, hkey] using .nil
    | some inner =>
      simpa [Visit.followed, hkey] using
        .cons (Or.inr ⟨rfl, by simp [Rule.leftCalls]⟩) hpos hkey .nil
  | _ => exact .nil

lemma Descends.of_tries {child : Rule} {next : Nat} {path : List (String × Nat)}
    (h : Descends source.size graph lenient named child next path)
    (htries : Tries source lenient graph rule pos child next)
    (hgraph : graph.NullClosed lenient named) (hpos : pos ≤ source.size) (hrule : rule.Analyzable) :
    Descends source.size graph lenient named rule pos path := by
  obtain ⟨-, hle, -⟩ := htries.bounds hpos
  cases h with
  | nil => exact .nil
  | cons h hsize hkey hrest =>
    refine .cons ?_ hsize hkey hrest
    rcases h with hlt | ⟨rfl, hcall⟩
    · exact Or.inl (by omega)
    · rcases Nat.lt_or_eq_of_le hle with hlt | heq
      · exact Or.inl hlt
      · exact Or.inr ⟨heq, htries.leftCalls_subset hgraph hpos hrule heq.symm hcall⟩

/-- The references that an attempt follows one inside of the other descend from its rule. -/
theorem Reaches.descends {v : Visit} (h : Reaches source lenient graph rule pos v)
    (hgraph : graph.NullClosed lenient named) (hpos : pos ≤ source.size) (hrule : rule.Analyzable) :
    Descends source.size graph lenient named rule pos (v.path graph) := by
  induction h with
  | here => exact descends_followed hpos hrule
  | tries htries _ ih =>
    obtain ⟨hpart, -, hnext⟩ := htries.bounds hpos
    exact (ih hnext (hrule.of_part hpart)).of_tries htries hgraph hpos hrule
  | follows hkey _ ih =>
    obtain ⟨⟩ := hrule.links _ _ _ .refl
    exact .cons (Or.inr ⟨rfl, by simp [Rule.leftCalls]⟩) hpos hkey (ih hpos (hgraph _ _ hkey).1)

end

/-! ### Overflows -/

/-- There is no overflow if all nested references fit into the levels that are left. -/
lemma Context.overflow_matchAt {cx : Context} {graph : RuleGraph} {rule : Rule} {pos : Nat}
    (hoverflow : cx.overflow = none)
    (h : ∀ v ∈ (cx.trace graph rule pos).visits, (v.path graph).length ≤ cx.maxDepth - cx.depth) :
    (cx.matchAt graph rule pos).2.overflow = none := by
  rw [overflow_matchAt_eq_none hoverflow]
  intro e he
  cases @rule.traceWithin_limited cx.toSetup graph (cx.maxDepth - cx.depth) pos with
  | within hwithin => exact hwithin e he
  | @cut before v _ hvisits _ hv =>
    have hle := h v (by rw [trace, hvisits]; simp)
    exact absurd hv.lt_length_path (Nat.not_lt.mpr hle)

end Peg
