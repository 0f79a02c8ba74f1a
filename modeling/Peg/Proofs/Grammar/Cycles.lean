import Peg.Proofs.Grammar.WellFormed

/-!
# The cycle that is reported

The check for left recursion reports a cycle if and only if there is one, and what it lists is
neither more nor less than one strongly connected component of the calls at one position.
-/

namespace Peg

namespace Definitions

variable {lenient : Bool} {rules : List Rule}

/-- The definitions pass all checks before the one for left recursion: there are some, no two of
the same name, and the entry rule and all that is referred to anywhere are among them. -/
structure Resolved (rules : List Rule) (options : Options) : Prop where
  nonempty : rules ≠ []
  distinct : (rules.map Rule.name).Nodup
  entry : DefinesEntry rules options
  defined : ∀ r ∈ rules, r.RefersWithin rules

/-- The names, in the order of the definitions, are a strongly connected component of calls at one
position: from each of them calls lead to each of them, and nothing else is connected to them. -/
structure IsComponent (lenient : Bool) (rules : List Rule) (names : List String) : Prop where
  nonempty : names ≠ []
  ordered : names.Sublist (rules.map Rule.name)
  nodup : names.Nodup
  connected : ∀ caller ∈ names, ∀ callee ∈ names,
    Relation.TransGen (Calls lenient rules) caller callee
  complete : ∀ listed ∈ names, ∀ name, Relation.TransGen (Calls lenient rules) listed name →
    Relation.TransGen (Calls lenient rules) name listed → name ∈ names

/-- What calls a definition and is called by it is in the same component. -/
lemma mem_of_leftRecursion? (hdistinct : (rules.map Rule.name).Nodup) {cycle : List String}
    (h : leftRecursion? lenient rules = some cycle) {listed name : String}
    (hlisted : listed ∈ cycle)
    (hto : Relation.TransGen (Calls lenient rules) listed name)
    (hback : Relation.TransGen (Calls lenient rules) name listed) : name ∈ cycle := by
  obtain ⟨members, hmembers, rfl⟩ := Option.map_eq_some_iff.mp h
  obtain ⟨i, hi, r, hr, rfl⟩ := mem_names_at.mp hlisted
  -- whoever calls something is defined
  obtain ⟨_, ⟨r', hr', rfl, -⟩, -⟩ := Relation.TransGen.head'_iff.mp hback
  obtain ⟨j, hj, hget⟩ := exists_position?_of_mem hdistinct hr'
  have hplace := position?_of_getElem? hdistinct hr
  have hconnected : (callGraph lenient rules).Connected i j :=
    ⟨(path_of_calls hdistinct hto hplace hj).to_reflTransGen,
      (path_of_calls hdistinct hback hj hplace).to_reflTransGen⟩
  have hcomponent : members ∈ (callGraph lenient rules).components :=
    List.mem_of_find?_eq_some hmembers
  have hseparate := Digraph.separate_of_mem_components hcomponent
  exact mem_names_at.mpr ⟨j, hseparate i hi j hconnected, r', hget, rfl⟩

lemma isComponent_of_leftRecursion? (hdistinct : (rules.map Rule.name).Nodup) {cycle : List String}
    (h : leftRecursion? lenient rules = some cycle) : IsComponent lenient rules cycle := by
  obtain ⟨hne, hordered, hconnected⟩ := calls_of_leftRecursion? h
  refine ⟨hne, hordered, hordered.nodup hdistinct, hconnected, ?_⟩
  intro listed hlisted name hto hback
  exact mem_of_leftRecursion? hdistinct h hlisted hto hback

end Definitions

namespace Grammar

variable {rules : List Rule} {options : Options}

/-- Among definitions that pass the checks before it, the check for left recursion finds the rules
of one strongly connected component of calls at one position if there is a cycle of such calls, and
nothing otherwise. Just what it finds is the error; without a cycle there is a grammar. -/
theorem leftRecursion_exact (h : Definitions.Resolved rules options) :
    ((∃ cycle, Definitions.leftRecursion? options.lenientDiscard rules = some cycle) ↔
      ∃ name, Relation.TransGen (Definitions.Calls options.lenientDiscard rules) name name) ∧
    (∀ cycle, Definitions.leftRecursion? options.lenientDiscard rules = some cycle →
      Definitions.IsComponent options.lenientDiscard rules cycle) ∧
    (∀ cycle, (ofDefinitions rules options).1 = .error (.validation (.leftRecursion cycle)) ↔
      Definitions.leftRecursion? options.lenientDiscard rules = some cycle) ∧
    ((∃ g, (ofDefinitions rules options).1 = .ok g) ↔
      Definitions.leftRecursion? options.lenientDiscard rules = none) := by
  have hnone := @Definitions.leftRecursion?_eq_none options.lenientDiscard rules h.distinct
  obtain ⟨root, hresult⟩ := ofDefinitions_of_entry h.nonempty h.distinct h.entry
  rw [Definitions.linkAll_eq_none_iff.mpr h.defined] at hresult
  refine ⟨?_, fun cycle => Definitions.isComponent_of_leftRecursion? h.distinct, ?_, ?_⟩
  · rw [← Option.ne_none_iff_exists', ne_eq, hnone, Definitions.Acyclic]
    push Not
    rfl
  · intro cycle
    rw [hresult]
    cases Definitions.leftRecursion? options.lenientDiscard rules <;> simp
  · rw [hresult]
    cases Definitions.leftRecursion? options.lenientDiscard rules <;> simp

/-- Two rules call each other, one of them behind an option. A third one is called but does not call
back, and a fourth one calls itself only behind a letter. -/
theorem leftRecursion_exact_option :
    let a : Rule := .concat "a" [.optional "'x'?" (.literal "'x'" [120]), .reference "b" "b" none]
    let b : Rule := .alternate "b" (.reference "a" "a" none) (.reference "c" "c" none)
    let c : Rule := .alternate "c" (.concat "c" [.literal "'y'" [121], .reference "d" "d" none])
      (.literal "'z'" [122])
    let d : Rule := .concat "d" [.literal "'x'" [120], .optional "d?" (.reference "d" "d" none)]
    Definitions.Resolved [d, b, c, a] {} ∧
      (ofDefinitions [d, b, c, a] {}).1 = .error (.validation (.leftRecursion ["b", "a"])) ∧
      Definitions.IsComponent false [d, b, c, a] ["b", "a"] := by
  intro a b c d
  have hcycle : Definitions.leftRecursion? false [d, b, c, a] = some ["b", "a"] := by decide
  have hresolved : Definitions.Resolved [d, b, c, a] {} := by
    refine ⟨by simp, by decide, by rintro name ⟨⟩, ?_⟩
    rw [← Definitions.linkAll_eq_none_iff]
    rfl
  obtain ⟨-, hcomponent, herror, -⟩ := leftRecursion_exact hresolved
  exact ⟨hresolved, (herror _).mpr hcycle, hcomponent _ hcycle⟩

end Grammar

end Peg
