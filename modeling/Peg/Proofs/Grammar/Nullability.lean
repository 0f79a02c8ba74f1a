import Mathlib.Data.List.Perm.Subperm
import Peg.Proofs.Grammar.Linking
import Peg.Proofs.Match.Visits
import Peg.Proofs.Pattern

/-!
# What the nullability of rules is good for

The names collected by `Definitions.nullable` are closed: every rule that may match nothing, given
these, is among them. So a rule that does match nothing is known to, and what a rule tries at its
own position follows only references that are among its left calls.
-/

namespace Peg

/-! ### The collected names -/

namespace Definitions

variable {lenient : Bool} {rules : List Rule} {known : List String}

lemma nullablePass_cons (r : Rule) (rs : List Rule) :
    nullablePass lenient (r :: rs) known =
      if r.name ∈ nullablePass lenient rs known then nullablePass lenient rs known
      else if r.isNullable lenient (nullablePass lenient rs known).contains then
        r.name :: nullablePass lenient rs known
      else nullablePass lenient rs known := by
  simp [nullablePass]

/-- What a rule adds is put in front. -/
lemma nullablePass_suffix_cons (r : Rule) (rs : List Rule) :
    nullablePass lenient rs known <:+ nullablePass lenient (r :: rs) known := by
  rw [nullablePass_cons]
  split
  · exact List.suffix_rfl
  split
  · exact List.suffix_cons _ _
  · exact List.suffix_rfl

lemma suffix_nullablePass : known <:+ nullablePass lenient rules known := by
  induction rules with
  | nil => exact List.suffix_rfl
  | cons r rs ih => exact ih.trans (nullablePass_suffix_cons r rs)

lemma nodup_nullablePass (h : known.Nodup) : (nullablePass lenient rules known).Nodup := by
  induction rules with
  | nil => exact h
  | cons r rs ih =>
    rw [nullablePass_cons]
    split
    · exact ih
    split
    · exact List.nodup_cons.mpr ⟨‹_›, ih⟩
    · exact ih

lemma nullablePass_subset {names : List String} (hknown : known ⊆ names)
    (hrules : ∀ r ∈ rules, r.name ∈ names) : nullablePass lenient rules known ⊆ names := by
  induction rules with
  | nil => exact hknown
  | cons r rs ih =>
    rw [List.forall_mem_cons] at hrules
    rw [nullablePass_cons]
    split
    · exact ih hrules.2
    split
    · exact List.cons_subset.mpr ⟨hrules.1, ih hrules.2⟩
    · exact ih hrules.2

/-- A pass that adds nothing has seen that every rule that may match nothing is known to. -/
lemma mem_of_nullablePass_eq (h : nullablePass lenient rules known = known) :
    ∀ r ∈ rules, r.isNullable lenient known.contains = true → r.name ∈ known := by
  induction rules with
  | nil => simp
  | cons r rs ih =>
    have hrest : nullablePass lenient rs known = known := by
      refine (suffix_nullablePass.eq_of_length_le ?_).symm
      exact (h ▸ nullablePass_suffix_cons r rs).length_le
    rw [List.forall_mem_cons]
    refine ⟨fun hnullable => ?_, ih hrest⟩
    rw [nullablePass_cons, hrest, hnullable] at h
    by_contra hnew
    rw [if_neg hnew, if_pos rfl] at h
    exact absurd (congrArg List.length h) (by simp)

/-- Passes are made until one adds nothing: each of the others finds one more name. -/
lemma mem_of_isNullable_nullableWithin (fuel : Nat) (hnodup : known.Nodup)
    (hknown : known ⊆ rules.map Rule.name) (hfuel : rules.length < fuel + known.length) :
    ∀ r ∈ rules, r.isNullable lenient (nullableWithin lenient rules fuel known).contains = true →
      r.name ∈ nullableWithin lenient rules fuel known := by
  induction fuel generalizing known with
  | zero =>
    have hle := (hnodup.subperm hknown).length_le
    rw [List.length_map] at hle
    omega
  | succ fuel ih =>
    have hsuffix : known <:+ nullablePass lenient rules known := suffix_nullablePass
    rw [nullableWithin]
    by_cases hlength : (nullablePass lenient rules known).length = known.length
    · rw [if_pos hlength]
      exact mem_of_nullablePass_eq (hsuffix.eq_of_length hlength.symm).symm
    · rw [if_neg hlength]
      have hle := hsuffix.length_le
      exact ih (nodup_nullablePass hnodup)
        (nullablePass_subset hknown fun r hr => List.mem_map_of_mem hr) (by omega)

/-- Every rule that may match nothing, given the collected names, has one of them. -/
theorem mem_nullable_of_isNullable {r : Rule} (hr : r ∈ rules)
    (h : r.isNullable lenient (nullable lenient rules).contains = true) :
    r.name ∈ nullable lenient rules :=
  mem_of_isNullable_nullableWithin (rules.length + 1) List.nodup_nil (List.nil_subset _)
    (by simp) r hr h

end Definitions

/-! ### Linking changes nothing -/

namespace Rule

variable (lenient : Bool) (named : String → Bool)

mutual

@[simp] lemma isNullable_link (r : Rule) :
    r.link.isNullable lenient named = r.isNullable lenient named := by
  match r with
  | .literal .. | .pattern .. | .reference .. | .star .. | .optional .. => rfl
  | .concat _ rs => exact allNullable_linkAll rs
  | .plus _ child => exact isNullable_link child
  | .alternate _ left right =>
    rw [link, isNullable, isNullable, isNullable_link left, isNullable_link right]
  | .discard _ child => rw [link, isNullable, isNullable, isNullable_link child]

lemma allNullable_linkAll (rs : List Rule) :
    allNullable lenient named (linkAll rs) = allNullable lenient named rs := by
  match rs with
  | [] => rfl
  | r :: rs => rw [linkAll, allNullable, allNullable, isNullable_link r, allNullable_linkAll rs]

end

mutual

@[simp] lemma leftCalls_link (r : Rule) :
    r.link.leftCalls lenient named = r.leftCalls lenient named := by
  match r with
  | .literal .. | .pattern .. | .reference .. => rfl
  | .concat _ rs => exact leftCallsOfAll_linkAll rs
  | .plus _ child | .star _ child | .optional _ child | .discard _ child =>
    exact leftCalls_link child
  | .alternate _ left right =>
    rw [link, leftCalls, leftCalls, leftCalls_link left, leftCalls_link right]

lemma leftCallsOfAll_linkAll (rs : List Rule) :
    leftCallsOfAll lenient named (linkAll rs) = leftCallsOfAll lenient named rs := by
  match rs with
  | [] => rfl
  | r :: rs =>
    rw [linkAll, leftCallsOfAll, leftCallsOfAll, isNullable_link, leftCalls_link r,
      leftCallsOfAll_linkAll rs]

end

end Rule

/-! ### Rules that match nothing -/

/-- What the analysis relies on: references are linked by name, and patterns tell when they may
match nothing. -/
structure Rule.Analyzable (r : Rule) : Prop where
  links : r.LinkedByName
  patterns : ∀ name p, r.Contains (.pattern name p) → p.TellsEmpty

lemma Rule.Analyzable.of_part {r part : Rule} (h : r.Analyzable) (hpart : part ∈ r.dependencies) :
    part.Analyzable where
  links name target link hcontains := h.links name target link (.of_part hpart hcontains)
  patterns name p hcontains := h.patterns name p (.of_part hpart hcontains)

lemma Rule.Unlinked.analyzable {r : Rule} (h : r.Unlinked)
    (hpatterns : ∀ name p, r.Contains (.pattern name p) → p.TellsEmpty) : r.link.Analyzable where
  links := h.link
  patterns name p hcontains := hpatterns name p hcontains.of_link_pattern

/-- The names are closed under the nullability of the rules of a graph. -/
def RuleGraph.NullClosed (graph : RuleGraph) (lenient : Bool) (named : String → Bool) : Prop :=
  ∀ key rule, graph key = some rule →
    rule.Analyzable ∧ (rule.isNullable lenient named = true → named key = true)

/-- The collected names are closed under the nullability of the linked definitions. -/
lemma Definitions.nullClosed_graph {lenient : Bool} {rules : List Rule}
    (hunlinked : ∀ r ∈ rules, r.Unlinked)
    (hpatterns : ∀ r ∈ rules, ∀ name p, r.Contains (.pattern name p) → p.TellsEmpty) :
    (graph rules).NullClosed lenient (nullable lenient rules).contains := by
  intro key rule hkey
  obtain ⟨r, hfound, rfl⟩ := Option.map_eq_some_iff.mp hkey
  obtain ⟨hr, rfl⟩ := mem_of_find? hfound
  refine ⟨(hunlinked r hr).analyzable (hpatterns r hr), fun hnullable => ?_⟩
  rw [Rule.isNullable_link] at hnullable
  simpa using mem_nullable_of_isNullable hr hnullable

section

variable {source : Source} {lenient : Bool} {graph : RuleGraph} {named : String → Bool}

mutual

/-- A rule that matches nothing is nullable. -/
lemma Derives.isNullable {rule : Rule} {pos : Nat} {outcome : Option Match}
    (h : Derives source lenient graph rule pos outcome) (hgraph : graph.NullClosed lenient named)
    (hpos : pos ≤ source.size) (hrule : rule.Analyzable) :
    ∀ m ∈ outcome, m.length = 0 → rule.isNullable lenient named = true := by
  match h with
  | .literal _ =>
    rintro _ ⟨⟩ hlength
    simpa [Rule.isNullable] using hlength
  | .pattern (p := p) hp =>
    rintro _ ⟨⟩ hlength
    by_contra hnullable
    refine hrule.patterns _ p .refl (by simpa [Rule.isNullable] using hnullable) source pos ?_
    rw [Source.matchPattern?_eq hpos, hp]
    exact congrArg some (List.length_eq_zero_iff.mp hlength)
  | .reference hkey h =>
    intro m hm hlength
    obtain ⟨hanalyzable, hclosed⟩ := hgraph _ _ hkey
    have hnamed := hclosed (h.isNullable hgraph hpos hanalyzable m hm hlength)
    obtain ⟨⟩ := hrule.links _ _ _ .refl
    exact hnamed
  | .concat h =>
    rintro _ ⟨⟩ hlength
    exact h.allNullable hgraph hpos (fun part hpart => hrule.of_part hpart) _ rfl hlength
  | .plus _ hlt _ =>
    rintro _ ⟨⟩ hlength
    simp at hlength
    omega
  | .plusEmpty h hempty =>
    rintro _ ⟨⟩ -
    exact h.isNullable hgraph hpos (hrule.of_part (by simp [Rule.dependencies])) _ rfl hempty
  | .star _ | .optional _ | .noOptional _ =>
    rintro _ ⟨⟩ -
    rfl
  | .left h =>
    intro m hm hlength
    have hleft := h.isNullable hgraph hpos (hrule.of_part (by simp [Rule.dependencies]))
      m hm hlength
    rw [Rule.isNullable, hleft, Bool.true_or]
  | .right _ h =>
    intro m hm hlength
    have hright := h.isNullable hgraph hpos (hrule.of_part (by simp [Rule.dependencies]))
      m hm hlength
    rw [Rule.isNullable, hright, Bool.or_true]
  | .discard h =>
    rintro _ ⟨⟩ hlength
    have hchild :=
      h.isNullable hgraph hpos (hrule.of_part (by simp [Rule.dependencies])) _ rfl hlength
    rw [Rule.isNullable, hchild, Bool.or_true]
  | .lenientDiscard _ hlenient =>
    rintro _ ⟨⟩ -
    rw [Rule.isNullable, hlenient, Bool.true_or]
  | .noLiteral _ | .noPattern _ | .dangling _ | .noConcat _ | .noPlus _ | .noDiscard _ _ => simp

lemma DerivesAll.allNullable {parts : List Rule} {pos : Nat} {outcome : Option Series}
    (h : DerivesAll source lenient graph parts pos outcome)
    (hgraph : graph.NullClosed lenient named) (hpos : pos ≤ source.size)
    (hparts : ∀ part ∈ parts, part.Analyzable) :
    ∀ matched ∈ outcome, matched.length = 0 → Rule.allNullable lenient named parts = true := by
  match h with
  | .nil => exact fun _ _ _ => rfl
  | .cons h hrest =>
    rintro _ ⟨⟩ hlength
    rw [List.forall_mem_cons] at hparts
    rw [Match.length_before] at hlength
    have hfirst := h.isNullable hgraph hpos hparts.1 _ rfl (by omega)
    have hothers :=
      hrest.allNullable hgraph (h.end_le hpos _ rfl) hparts.2 _ rfl (by omega)
    rw [Rule.allNullable, hfirst, hothers, Bool.and_self]
  | .noHead _ | .noTail _ _ => simp

end

lemma Rule.leftCalls_subset_leftCallsOfAll {before after : List Rule} {part : Rule}
    (h : allNullable lenient named before = true) :
    part.leftCalls lenient named ⊆ leftCallsOfAll lenient named (before ++ part :: after) := by
  induction before with
  | nil =>
    rw [List.nil_append, leftCallsOfAll]
    split
    · exact List.subset_append_left _ _
    · exact List.Subset.refl _
  | cons head rest ih =>
    rw [allNullable, Bool.and_eq_true] at h
    rw [List.cons_append, leftCallsOfAll, if_pos h.1]
    exact List.Subset.trans (ih h.2) (List.subset_append_right _ _)

/-- What a rule tries at its own position calls no more on its left than the rule does. -/
theorem Tries.leftCalls_subset {rule child : Rule} {pos next : Nat}
    (h : Tries source lenient graph rule pos child next) (hgraph : graph.NullClosed lenient named)
    (hpos : pos ≤ source.size) (hrule : rule.Analyzable) (hsame : next = pos) :
    child.leftCalls lenient named ⊆ rule.leftCalls lenient named := by
  cases h with
  | part h =>
    refine Rule.leftCalls_subset_leftCallsOfAll ?_
    refine h.allNullable hgraph hpos (fun part hpart => hrule.of_part ?_) _ rfl (by omega)
    simp [Rule.dependencies, hpart]
  | plus | star | optional | discard => exact List.Subset.refl _
  | left => exact List.subset_append_left _ _
  | right => exact List.subset_append_right _ _

end

end Peg
