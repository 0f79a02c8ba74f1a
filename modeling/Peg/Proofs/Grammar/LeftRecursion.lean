import Peg.Proofs.Digraph.Components
import Peg.Proofs.Grammar.Reporting
import Peg.Proofs.Match.Nesting

/-!
# Left recursion

The check for left recursion is made once, on the definitions. What it excludes at run time is that
a rule is followed twice at one position, one reference inside of the other. So the nesting of
references has a bound that only depends on the number of rules and on the size of the input.
-/

namespace Peg

/-! ### The graph of left calls -/

namespace Definitions

variable {rules : List Rule} {lenient : Bool}

lemma position?_lt {name : String} {i : Nat} (h : position? rules name = some i) :
    i < rules.length :=
  (List.findIdx?_eq_some_iff_getElem.mp h).1

lemma exists_position? {name : String} {r : Rule} (h : find? rules name = some r) :
    ∃ i, position? rules name = some i ∧ rules[i]? = some r := by
  obtain ⟨hname, i, hi, hget, hbefore⟩ := List.find?_eq_some_iff_getElem.mp h
  refine ⟨i, List.findIdx?_eq_some_iff_getElem.mpr ⟨hi, by rwa [hget], ?_⟩, ?_⟩
  · exact fun j hj => by simpa using hbefore j hj
  · rw [List.getElem?_eq_getElem hi, hget]

lemma size_callGraph : (callGraph lenient rules).size = rules.length := by
  simp [callGraph, Digraph.ofList, Digraph.size]

lemma edge_callGraph {i j : Nat} : (callGraph lenient rules).Edge i j ↔
    ∃ r, rules[i]? = some r ∧ ∃ callee ∈ r.leftCalls lenient (nullable lenient rules).contains,
      position? rules callee = some j := by
  simp only [Digraph.Edge, callGraph, Digraph.ofList, Digraph.successors, List.getElem?_toArray,
    List.getElem?_map]
  cases h : rules[i]? with
  | none => simp
  | some r => simp

lemma closed_callGraph : (callGraph lenient rules).Closed := by
  intro i j hedge
  obtain ⟨r, -, callee, -, hj⟩ := edge_callGraph.mp hedge
  rw [size_callGraph]
  exact position?_lt hj

/-- The check for left recursion finds nothing if and only if there is no cycle of left calls. -/
lemma leftRecursion?_eq_none_iff : leftRecursion? lenient rules = none ↔
    ∀ i, ¬ Relation.TransGen (callGraph lenient rules).Edge i i := by
  rw [leftRecursion?, Option.map_eq_none_iff, Digraph.cyclicComponent?_eq_none closed_callGraph]

end Definitions

namespace Grammar

variable {rules : List Rule} {options : Options} {g : Grammar}

namespace Accepted

/-- Left calls between the rules of a grammar are edges between the places of their definitions. -/
lemma edge_of_leftCalls (h : Accepted rules options g) {lenient : Bool} {caller callee : String}
    (hcalls : g.graph.LeftCalls lenient (Definitions.nullable lenient rules).contains caller callee)
    {i j : Nat} (hi : Definitions.position? rules caller = some i)
    (hj : Definitions.position? rules callee = some j) :
    (Definitions.callGraph lenient rules).Edge i j := by
  obtain ⟨rule, hkey, hmem⟩ := hcalls
  obtain ⟨r, hr, -, -, rfl⟩ := h.exists_of_graph hkey
  obtain ⟨k, hk, hget⟩ := Definitions.exists_position? hr
  obtain rfl : k = i := Option.some.inj (hk.symm.trans hi)
  rw [Rule.leftCalls_link] at hmem
  exact Definitions.edge_callGraph.mpr ⟨r, hget, callee, hmem, hj⟩

lemma exists_position?_of_leftCalls (h : Accepted rules options g) {lenient : Bool}
    {named : String → Bool} {caller callee : String}
    (hcalls : g.graph.LeftCalls lenient named caller callee) :
    ∃ i, Definitions.position? rules caller = some i := by
  obtain ⟨rule, hkey, -⟩ := hcalls
  obtain ⟨r, hr, -⟩ := h.exists_of_graph hkey
  obtain ⟨i, hi, -⟩ := Definitions.exists_position? hr
  exact ⟨i, hi⟩

/-- A chain of left calls is a path between the places of their definitions. -/
lemma path_of_leftCalls (h : Accepted rules options g) {lenient : Bool} {caller callee : String}
    (hcalls : Relation.TransGen
      (g.graph.LeftCalls lenient (Definitions.nullable lenient rules).contains) caller callee)
    {i j : Nat} (hi : Definitions.position? rules caller = some i)
    (hj : Definitions.position? rules callee = some j) :
    Relation.TransGen (Definitions.callGraph lenient rules).Edge i j := by
  induction hcalls generalizing j with
  | single hcall => exact .single (h.edge_of_leftCalls hcall hi hj)
  | tail _ hcall ih =>
    obtain ⟨k, hk⟩ := h.exists_position?_of_leftCalls hcall
    exact .tail (ih hk) (h.edge_of_leftCalls hcall hk hj)

/-- No rule of an accepted grammar calls itself on its left. -/
theorem not_leftCalls_self (h : Accepted rules options g) (key : String) :
    ¬ Relation.TransGen (g.graph.LeftCalls options.lenientDiscard
      (Definitions.nullable options.lenientDiscard rules).contains) key key := by
  intro hcycle
  obtain ⟨callee, hcall, -⟩ := Relation.TransGen.head'_iff.mp hcycle
  obtain ⟨i, hi⟩ := h.exists_position?_of_leftCalls hcall
  exact Definitions.leftRecursion?_eq_none_iff.mp h.leftRecursion i
    (h.path_of_leftCalls hcycle hi hi)

lemma analyzable (h : Accepted rules options g) (hunlinked : ∀ r ∈ rules, r.Unlinked)
    (hpatterns : ∀ r ∈ rules, ∀ name p, r.Contains (.pattern name p) → p.TellsEmpty) {rule : Rule}
    (hrule : rule ∈ g.rules) : rule.Analyzable := by
  rw [h.rules_eq, List.mem_map] at hrule
  obtain ⟨r, hr, rfl⟩ := hrule
  exact (hunlinked r hr).analyzable (hpatterns r hr)

lemma nullClosed (h : Accepted rules options g) (hunlinked : ∀ r ∈ rules, r.Unlinked)
    (hpatterns : ∀ r ∈ rules, ∀ name p, r.Contains (.pattern name p) → p.TellsEmpty)
    (lenient : Bool) :
    g.graph.NullClosed lenient (Definitions.nullable lenient rules).contains := by
  rw [h.graph_eq_graph]
  exact Definitions.nullClosed_graph hunlinked hpatterns

end Accepted

/-! ### Bounded nesting -/

/-- The references that are followed one inside of the other, whatever an attempt visits. -/
lemma Accepted.descends (h : Accepted rules options g) (hunlinked : ∀ r ∈ rules, r.Unlinked)
    (hpatterns : ∀ r ∈ rules, ∀ name p, r.Contains (.pattern name p) → p.TellsEmpty) {rule : Rule}
    (hrule : rule ∈ g.rules) {source : Source} {v : Visit}
    (hv : v ∈ ((g.context source).trace g.graph rule 0).visits) :
    (v.path g.graph).Nodup ∧ (v.path g.graph).length ≤ g.rules.length * (source.size + 1) := by
  have hreaches := Rule.reaches_of_mem_traceWithin _ rule 0 (Nat.zero_le _) v hv
  have hlenient : (g.context source).lenientDiscard = options.lenientDiscard := by
    rw [context, h.options_eq]
  rw [hlenient] at hreaches
  have hdescends := hreaches.descends (h.nullClosed hunlinked hpatterns options.lenientDiscard)
    (Nat.zero_le _) (h.analyzable hunlinked hpatterns hrule)
  refine ⟨hdescends.nodup h.not_leftCalls_self, ?_⟩
  have hkeys : ∀ key inner, g.graph key = some inner → key ∈ g.rules.map Rule.name := by
    intro key inner hkey
    obtain ⟨hmem, rfl⟩ := Definitions.mem_of_find? hkey
    exact List.mem_map_of_mem hmem
  have hle := hdescends.length_le h.not_leftCalls_self hkeys
  rwa [List.length_map] at hle

/-- Terminals expect something in quotes, never a nesting depth. -/
lemma nestingDepth_ne_expectation {rule : Rule} (h : rule.isTerminal = true) (limit : Nat) :
    s!"nesting depth within {limit}" ≠ rule.expectation := by
  intro heq
  have hhead := congrArg (fun text => text.toList.head?) heq
  have hword : toString "nesting depth within " = "nesting depth within " := rfl
  cases rule with
  | literal name bytes => simp [Rule.expectation, hword] at hhead
  | pattern name p => simp [Rule.expectation, hword] at hhead
  | _ => simp [Rule.isTerminal] at h

/-- The checks of the definitions keep references from nesting without end: no rule is followed
twice at one position inside of itself, so not more references are nested than there are rules at
positions of the input. Where the limit allows for that many, nothing ever overflows. -/
theorem nesting_bounded (hunlinked : ∀ r ∈ rules, r.Unlinked)
    (hpatterns : ∀ r ∈ rules, ∀ name p, r.Contains (.pattern name p) → p.TellsEmpty)
    (h : (ofDefinitions rules options).1 = .ok g) {rule : Rule}
    (hrule : rule = g.root ∨ rule ∈ g.rules) (source : Source) :
    (∀ v ∈ ((g.context source).trace g.graph rule 0).visits,
      (v.path g.graph).Nodup ∧ (v.path g.graph).length ≤ g.rules.length * (source.size + 1)) ∧
    (g.rules.length * (source.size + 1) ≤ options.depthLimit →
      ((g.context source).matchAt g.graph rule 0).2.overflow = none ∧
      ∀ e, g.run rule source = .error e ∨ g.parseRule rule.name source = .error (.mismatch e) ∨
          rule = g.root ∧ (g.matchPrefix source = .error e ∨ g.parse source = .error e) →
        ∀ limit : Nat, s!"nesting depth within {limit}" ∉ e.expected) := by
  have haccepted := accepted_of_ofDefinitions h
  have hrule : rule ∈ g.rules := by
    rcases hrule with rfl | hrule
    · exact haccepted.root_mem
    · exact hrule
  have hbound : ∀ v ∈ ((g.context source).trace g.graph rule 0).visits,
      (v.path g.graph).Nodup ∧ (v.path g.graph).length ≤ g.rules.length * (source.size + 1) :=
    fun v hv => haccepted.descends hunlinked hpatterns hrule hv
  refine ⟨hbound, fun hlimit => ?_⟩
  have hoverflow : ((g.context source).matchAt g.graph rule 0).2.overflow = none := by
    refine Context.overflow_matchAt rfl fun v hv => Nat.le_trans (hbound v hv).2 ?_
    rw [← haccepted.options_eq] at hlimit
    exact hlimit
  refine ⟨hoverflow, fun e he limit hmem => ?_⟩
  have hreports := reports_of_run hoverflow (run_eq_error (haccepted.rule?_name hrule) he)
  rw [hreports.expected, List.mem_eraseDups, List.mem_map] at hmem
  obtain ⟨v, hv, heq⟩ := hmem
  have hterminal := haccepted.isTerminal_of_mem_failures hunlinked hrule source v
    (List.mem_of_mem_filter hv)
  rw [Visit.expectation_of_isTerminal hterminal] at heq
  exact nestingDepth_ne_expectation hterminal limit heq.symm

/-- Parentheses around a letter. -/
theorem nesting_bounded_parentheses :
    let letter : Pattern := {
      text := "^(?:a)"
      regex := .cat (.assertion .textStart) (.chars ⟨[(97, 97)]⟩)
      program := ⟨#[.accept, .char ⟨[(97, 97)]⟩ 0, .test .textStart 1], 2⟩
      parsed := rfl
      compiled := rfl }
    let rules : List Rule := [.alternate "s"
      (.concat "s" [.literal "'('" [40], .reference "s" "s" none, .literal "')'" [41]])
      (.pattern "~'a'" letter)]
    let source : Source := .ofBytes [40, 40, 97, 41, 41]
    (∀ r ∈ rules, r.Unlinked) ∧
      (∀ r ∈ rules, ∀ name p, r.Contains (.pattern name p) → p.TellsEmpty) ∧
      ∃ g, (ofDefinitions rules {}).1 = .ok g ∧
        g.rules.length * (source.size + 1) = 6 ∧
        ((g.context source).matchAt g.graph g.root 0).2.overflow = none := by
  intro letter rules source
  have hunlinked : ∀ r ∈ rules, r.Unlinked := by
    intro r hr
    refine Rule.unlinked_of_references ?_
    obtain rfl := List.mem_singleton.mp hr
    decide
  have hletter : letter.TellsEmpty := by
    refine Pattern.tellsEmpty_of_firstStep fun w => ?_
    simp [Regex.Program.firstStep, Regex.Program.step, Regex.Program.follow, letter,
      Regex.Window.satisfies]
    split
    · split <;> rfl
    · rfl
  have hpatterns : ∀ r ∈ rules, ∀ name p, r.Contains (.pattern name p) → p.TellsEmpty := by
    intro r hr name p hcontains
    obtain rfl := List.mem_singleton.mp hr
    rcases hcontains.eq_or_part with heq | ⟨part, hpart, hcontains⟩
    · cases heq
    · simp only [Rule.dependencies, List.mem_cons, List.not_mem_nil, or_false] at hpart
      rcases hpart with rfl | rfl
      · rcases hcontains.eq_or_part with heq | ⟨part, hpart, hcontains⟩
        · cases heq
        · simp only [Rule.dependencies, List.mem_cons, List.not_mem_nil, or_false] at hpart
          rcases hpart with rfl | rfl | rfl <;>
            rcases hcontains.eq_or_part with heq | ⟨part, hpart, -⟩ <;>
            first | cases heq | cases hpart
      · rcases hcontains.eq_or_part with heq | ⟨part, hpart, -⟩
        · obtain ⟨rfl, rfl⟩ := Rule.pattern.inj heq
          exact hletter
        · cases hpart
  exact ⟨hunlinked, hpatterns, _, rfl, rfl,
    ((@nesting_bounded rules {} _ hunlinked hpatterns rfl _ (Or.inl rfl) source).2 (by decide)).1⟩

end Grammar

end Peg
