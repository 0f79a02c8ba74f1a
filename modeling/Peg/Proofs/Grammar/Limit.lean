import Peg.Proofs.Grammar.Reporting
import Peg.Proofs.Match.History

/-!
# The nesting limit of a grammar

The limit only cuts matches off. A grammar with a higher limit gives the same trees and errors as
long as the lower one is not exceeded; once it is, the lower limit is the error that is reported,
whatever the rules around the cut make of it.
-/

namespace Peg

namespace Grammar

variable {rules : List Rule} {options : Options} {g : Grammar}

/-- Whether definitions are accepted has nothing to do with the limit. -/
lemma ofDefinitions_maxDepth (rules : List Rule) (options : Options) (maxDepth : Option Nat) :
    (ofDefinitions rules { options with maxDepth }).1 =
      (ofDefinitions rules options).1.map fun g =>
        { g with options := { options with maxDepth } } := by
  cases rules with
  | nil => rfl
  | cons first rest =>
    rw [ofDefinitions, ofDefinitions]
    simp only
    split
    · rfl
    · split
      · rfl
      · split
        · rfl
        · split <;> rfl

/-- All ways to match a rule report the error of its match. -/
lemma errors_of_run {rule : Rule} {source : Source} {e : MatchError}
    (hname : g.rule? rule.name = some rule) (h : g.run rule source = .error e) :
    g.run rule source = .error e ∧ g.parseRule rule.name source = .error (.mismatch e) ∧
      (rule = g.root → g.matchPrefix source = .error e ∧ g.parse source = .error e) := by
  refine ⟨h, ?_, ?_⟩
  · rw [parseRule, hname]
    simp only [h]
  · rintro rfl
    have hmatch : g.matchPrefix source = .error e := h
    exact ⟨hmatch, by rw [parse, hmatch]; rfl⟩

/-- A match that overflows is reported by the overflow, whatever it came to. -/
lemma run_of_overflow {rule : Rule} {source : Source} {e : MatchError}
    (h : ((g.context source).matchAt g.graph rule 0).2.overflow = some e) :
    g.run rule source = .error e := by
  simp only [run, h]

/-- With more levels of references a match comes to the same, unless it overflows. -/
lemma run_eq_of_fitsInto {g g' : Grammar} (hgraph : g'.graph = g.graph)
    (hwidth : g'.options.neighborhoodWidth = g.options.neighborhoodWidth) {rule : Rule}
    {source : Source} (hfits : (g.context source).FitsInto (g'.context source))
    (h : ((g.context source).matchAt g.graph rule 0).2.overflow = none) :
    g'.run rule source = g.run rule source := by
  have hoverflow := hfits.overflow_eq_none rfl rfl h
  have hresult := (hfits.result_eq rfl rfl h).2 hwidth
  have hreport : ((g'.context source).matchAt g.graph rule 0).2.toReport =
      ((g.context source).matchAt g.graph rule 0).2.toReport := by
    rw [Context.toReport, Context.toReport, hfits.toTrail_eq hwidth rfl rfl h]
  simp only [run, hgraph, h, hoverflow, hresult, hreport]

/-- All ways to match a rule come to the same if its matches do. -/
lemma results_of_run_eq {g g' : Grammar} (hrules : g'.rules = g.rules) (hroot : g'.root = g.root)
    {rule : Rule} {source : Source} (hname : g.rule? rule.name = some rule)
    (h : g'.run rule source = g.run rule source) :
    g'.run rule source = g.run rule source ∧
      g'.parseRule rule.name source = g.parseRule rule.name source ∧
      (rule = g.root → g'.matchPrefix source = g.matchPrefix source ∧
        g'.parse source = g.parse source) := by
  have hname' : g'.rule? rule.name = some rule := by rw [rule?, hrules, ← rule?, hname]
  refine ⟨h, ?_, ?_⟩
  · rw [parseRule, parseRule, hname, hname']
    simp only [h]
  · rintro rfl
    have hmatch : g'.matchPrefix source = g.matchPrefix source := by
      rw [matchPrefix, matchPrefix, hroot, h]
    exact ⟨hmatch, by rw [parse, parse, hmatch, hroot]⟩

/-- The limit is a cut-off. Under a higher one, which accepts the same definitions, a match that
does not overflow comes to the same. A match that overflows under the lower one is cut off at the
first reference that is entered that deep, and reported by the error there. -/
theorem depthLimit_cuts {maxDepth : Option Nat} (h : (ofDefinitions rules options).1 = .ok g)
    (hle : options.depthLimit ≤ { options with maxDepth }.depthLimit) {rule : Rule}
    (hrule : rule = g.root ∨ rule ∈ g.rules) (source : Source) :
    ∃ g', (ofDefinitions rules { options with maxDepth }).1 = .ok g' ∧
      g'.rules = g.rules ∧ g'.root = g.root ∧
      (((g.context source).matchAt g.graph rule 0).2.overflow = none →
        ((g'.context source).matchAt g'.graph rule 0).2.overflow = none ∧
        g'.run rule source = g.run rule source ∧
        g'.parseRule rule.name source = g.parseRule rule.name source ∧
        (rule = g.root → g'.matchPrefix source = g.matchPrefix source ∧
          g'.parse source = g.parse source)) ∧
      (((g.context source).matchAt g.graph rule 0).2.overflow ≠ none →
        ∃ before v e,
          ((g.context source).trace g.graph rule 0).visits = before ++ [v] ∧
          before ++ [v] <+: ((g'.context source).trace g'.graph rule 0).visits ∧
          v.EntersAt g.graph options.depthLimit ∧
          (∀ u ∈ before, ¬ u.EntersAt g.graph options.depthLimit) ∧
          e.position = v.pos ∧ e.expected = [s!"nesting depth within {options.depthLimit}"] ∧
          g.run rule source = .error e ∧ g.parseRule rule.name source = .error (.mismatch e) ∧
          (rule = g.root → g.matchPrefix source = .error e ∧ g.parse source = .error e)) := by
  have haccepted := accepted_of_ofDefinitions h
  have hrule : rule ∈ g.rules := by
    rcases hrule with rfl | hrule
    · exact haccepted.root_mem
    · exact hrule
  have hname := haccepted.rule?_name hrule
  obtain rfl := haccepted.options_eq
  obtain ⟨g', haccepted', hrules, hroot, hoptions⟩ : ∃ g',
      (ofDefinitions rules { g.options with maxDepth }).1 = .ok g' ∧ g'.rules = g.rules ∧
        g'.root = g.root ∧ g'.options = { g.options with maxDepth } := by
    rw [ofDefinitions_maxDepth, h]
    exact ⟨_, rfl, rfl, rfl, rfl⟩
  have hgraph : g'.graph = g.graph := by
    funext key
    rw [graph, graph, rule?, rule?, hrules]
  have hfits : (g.context source).FitsInto (g'.context source) := by
    rw [context, context, hoptions]
    exact ⟨rfl, rfl, hle⟩
  refine ⟨g', haccepted', hrules, hroot, fun hoverflow => ?_, fun hoverflow => ?_⟩
  · have hwidth : g'.options.neighborhoodWidth = g.options.neighborhoodWidth := by
      rw [hoptions]
      rfl
    have hrun := run_eq_of_fitsInto hgraph hwidth hfits hoverflow
    rw [hgraph]
    exact ⟨hfits.overflow_eq_none rfl rfl hoverflow, results_of_run_eq hrules hroot hname hrun⟩
  · obtain ⟨e, he⟩ := Option.ne_none_iff_exists'.mp hoverflow
    have hverdict := (Context.overflow_matchAt_eq_some rfl).mp he
    have hprefix := (hfits.trace g.graph rule 0).prefix_visits
    rw [Visit.moved_zero, List.map_id] at hprefix
    cases @rule.traceWithin_limited (g.context source).toSetup g.graph _ 0 with
    | within hwithin => exact absurd hverdict (hwithin e)
    | @cut before v hcut hvisits hbefore hv =>
      obtain ⟨⟩ := hverdict.symm.trans hcut
      refine ⟨before, v, _, hvisits, ?_, hv, fun u hu hu' => ?_, rfl, rfl,
        errors_of_run hname (run_of_overflow he)⟩
      · rw [hgraph, ← hvisits]
        exact hprefix
      · exact absurd (hbefore u hu) (Nat.not_le.mpr hu'.lt_length_path)

/-- An option around the reference matches nothing when it is cut off, but the cut is reported. -/
theorem depthLimit_cuts_option :
    let rules : List Rule := [.optional "s" (.concat "s"
      [.literal "'('" [40], .reference "s" "s" none])]
    let one : Source := .ofBytes [40]
    let two : Source := .ofBytes [40, 40]
    ∃ g, (ofDefinitions rules { maxDepth := some 1 }).1 = .ok g ∧
      ((g.context two).matchAt g.graph g.root 0).2.overflow ≠ none ∧
      (∃ m, ((g.context two).matchAt g.graph g.root 0).1 = .ok m) ∧
      (∃ e, e.expected = ["nesting depth within 1"] ∧ g.parse two = .error e) ∧
      ((g.context one).matchAt g.graph g.root 0).2.overflow = none ∧
      ∃ g', (ofDefinitions rules { maxDepth := some 8 }).1 = .ok g' ∧
        g'.parse one = g.parse one := by
  intro rules one two
  have hle : ({ maxDepth := some 1 } : Options).depthLimit ≤
      ({ maxDepth := some 8 } : Options).depthLimit := by decide
  refine ⟨_, rfl, by decide, ⟨_, rfl⟩, ?_, rfl, ?_⟩
  · obtain ⟨_, -, -, -, -, hcut⟩ :=
      @depthLimit_cuts rules { maxDepth := some 1 } _ (some 8) rfl hle _ (Or.inl rfl) two
    obtain ⟨_, _, e, -, -, -, -, -, hexpected, -, -, hparse⟩ := hcut (by decide)
    exact ⟨e, hexpected, (hparse rfl).2⟩
  · obtain ⟨g', haccepted', -, -, hsame, -⟩ :=
      @depthLimit_cuts rules { maxDepth := some 1 } _ (some 8) rfl hle _ (Or.inl rfl) one
    exact ⟨g', haccepted', ((hsame rfl).2.2.2 rfl).2⟩

end Grammar

end Peg
