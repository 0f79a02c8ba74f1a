import Mathlib.Data.List.Nodup
import Peg.Grammar
import Peg.Proofs.Rule

/-!
# Accepted definitions

What the checks of `Grammar.ofDefinitions` establish: no two definitions have the same name, every
reference names a definition, and no rule calls itself at one position. The grammar has the same
rules, with their references linked.
-/

namespace Peg

/-! ### Linked rules -/

namespace Rule

@[simp] lemma linkAll_eq_map (rs : List Rule) : linkAll rs = rs.map link := by
  induction rs with
  | nil => rfl
  | cons r rs ih => simp [linkAll, ih]

@[simp] lemma name_link (r : Rule) : r.link.name = r.name := by
  cases r <;> rfl

@[simp] lemma dependencies_link (r : Rule) : r.link.dependencies = r.dependencies.map link := by
  cases r <;> simp [link, dependencies]

/-- What a linked rule contains are the linked parts of the rule. -/
lemma Contains.of_link {r inner : Rule} (h : r.link.Contains inner) :
    ∃ part, r.Contains part ∧ part.link = inner := by
  induction h with
  | refl => exact ⟨r, .refl, rfl⟩
  | tail _ hstep ih =>
    obtain ⟨part, hpart, rfl⟩ := ih
    rw [dependencies_link, List.mem_map] at hstep
    obtain ⟨sub, hsub, rfl⟩ := hstep
    exact ⟨sub, .tail hpart hsub, rfl⟩

/-- No reference in the rule is linked. -/
def Unlinked (r : Rule) : Prop :=
  ∀ name target link, r.Contains (.reference name target link) → link = none

/-- Every reference in the rule is linked by the name of its target. -/
def LinkedByName (r : Rule) : Prop :=
  ∀ name target link, r.Contains (.reference name target link) → link = some target

lemma Contains.of_link_reference {r : Rule} {name target : String} {link : Option String}
    (h : r.link.Contains (.reference name target link)) :
    ∃ before, r.Contains (.reference name target before) ∧ link = (before <|> some target) := by
  obtain ⟨part, hpart, heq⟩ := h.of_link
  cases part with
  | reference name' target' before =>
    simp only [Rule.link, reference.injEq] at heq
    obtain ⟨rfl, rfl, hlink⟩ := heq
    exact ⟨before, hpart, hlink.symm⟩
  | _ => simp [Rule.link] at heq

lemma Contains.of_link_pattern {r : Rule} {name : String} {p : Pattern}
    (h : r.link.Contains (.pattern name p)) : r.Contains (.pattern name p) := by
  obtain ⟨part, hpart, heq⟩ := h.of_link
  cases part with
  | pattern name' p' =>
    obtain ⟨rfl, rfl⟩ := Rule.pattern.inj heq
    exact hpart
  | _ => simp [Rule.link] at heq

lemma Unlinked.link {r : Rule} (h : r.Unlinked) : r.link.LinkedByName := by
  intro name target link hlink
  obtain ⟨before, hbefore, rfl⟩ := hlink.of_link_reference
  rw [h name target before hbefore]
  rfl

lemma mem_allReferences {rs : List Rule} {reference : String × Bool} :
    reference ∈ allReferences rs ↔ ∃ r ∈ rs, reference ∈ r.references := by
  induction rs with
  | nil => simp [allReferences]
  | cons r rs ih => simp [allReferences, ih]

lemma references_subset_of_part {r part : Rule} (h : part ∈ r.dependencies) :
    part.references ⊆ r.references := by
  intro reference hmem
  cases r with
  | literal | pattern | reference => simp [dependencies] at h
  | concat name rs => exact mem_allReferences.mpr ⟨part, h, hmem⟩
  | plus name child | star name child | optional name child | discard name child =>
    obtain rfl := List.mem_singleton.mp h
    exact hmem
  | alternate name left right =>
    have hor : part = left ∨ part = right := by simpa [dependencies] using h
    rw [references, List.mem_append]
    rcases hor with rfl | rfl
    · exact Or.inl hmem
    · exact Or.inr hmem

lemma Contains.mem_references {r : Rule} {name target : String} {link : Option String}
    (h : r.Contains (.reference name target link)) : (target, link.isSome) ∈ r.references := by
  induction h using Relation.ReflTransGen.head_induction_on with
  | refl => simp [references]
  | head hpart _ ih => exact references_subset_of_part hpart ih

lemma unlinked_of_references {r : Rule} (h : ∀ reference ∈ r.references, reference.2 = false) :
    r.Unlinked :=
  fun _ _ _ hcontains => by simpa using h _ hcontains.mem_references

end Rule

namespace Definitions

/-! ### Names -/

/-- The definitions by their names, with their references linked. -/
def graph (rules : List Rule) : RuleGraph := fun name => (find? rules name).map Rule.link

lemma find?_map {f : Rule → Rule} (hf : ∀ r, (f r).name = r.name) (rules : List Rule)
    (name : String) : find? (rules.map f) name = (find? rules name).map f := by
  rw [find?, find?, List.find?_map]
  simp only [Function.comp_def, hf]

lemma find?_map_link (rules : List Rule) (name : String) :
    find? (rules.map Rule.link) name = (find? rules name).map Rule.link :=
  find?_map Rule.name_link rules name

lemma mem_of_find? {rules : List Rule} {name : String} {r : Rule} (h : find? rules name = some r) :
    r ∈ rules ∧ r.name = name :=
  ⟨List.mem_of_find?_eq_some h, by simpa using List.find?_some h⟩

lemma find?_of_mem {rules : List Rule} (hdistinct : (rules.map Rule.name).Nodup) {r : Rule}
    (hr : r ∈ rules) : find? rules r.name = some r := by
  induction rules with
  | nil => simp at hr
  | cons first rest ih =>
    rw [List.map_cons, List.nodup_cons] at hdistinct
    obtain ⟨hfirst, hrest⟩ := hdistinct
    rcases List.mem_cons.mp hr with rfl | hr
    · simp [find?]
    · have hne : first.name ≠ r.name := fun heq => hfirst (heq ▸ List.mem_map_of_mem hr)
      have := ih hrest hr
      simp only [find?] at this
      simp [find?, hne, this]

lemma firstDuplicate?_eq_none (seen : List String) (rules : List Rule) :
    firstDuplicate? seen rules = none ↔
      (rules.map Rule.name).Nodup ∧ ∀ r ∈ rules, r.name ∉ seen := by
  induction rules generalizing seen with
  | nil => simp [firstDuplicate?]
  | cons r rs ih =>
    rw [firstDuplicate?]
    by_cases hseen : r.name ∈ seen
    · simp [hseen]
    · rw [if_neg (by simpa using hseen), ih, List.map_cons, List.nodup_cons]
      simp only [List.mem_cons, not_or, List.mem_map, forall_eq_or_imp, not_exists, not_and]
      constructor
      · rintro ⟨hnodup, hrest⟩
        exact ⟨⟨fun x hx => (hrest x hx).1, hnodup⟩, hseen, fun x hx => (hrest x hx).2⟩
      · rintro ⟨⟨hfirst, hnodup⟩, -, hrest⟩
        exact ⟨hnodup, fun x hx => ⟨hfirst x hx, hrest x hx⟩⟩

lemma linkReferences_eq_none {defined : String → Bool} {rule : String}
    {references : List (String × Bool)} (h : (linkReferences defined rule references).2 = none) :
    ∀ reference ∈ references, defined reference.1 = true := by
  induction references with
  | nil => simp
  | cons reference rest ih =>
    rw [linkReferences] at h
    by_cases hdefined : defined reference.1 = true
    · simp only [hdefined, if_true] at h
      rintro x hx
      rcases List.mem_cons.mp hx with rfl | hx
      · exact hdefined
      · exact ih h x hx
    · simp [hdefined] at h

lemma linkAll_eq_none {defined : String → Bool} {rules : List Rule}
    (h : (linkAll defined rules).2 = none) :
    ∀ r ∈ rules, ∀ reference ∈ r.references, defined reference.1 = true := by
  induction rules with
  | nil => simp
  | cons r rs ih =>
    rw [linkAll] at h
    split at h
    · simp at h
    · rename_i hlinked
      rintro x hx
      rcases List.mem_cons.mp hx with rfl | hx
      · exact linkReferences_eq_none (by rw [hlinked])
      · exact ih h x hx

end Definitions

/-! ### Acceptance -/

/-- What is known of a grammar that was made of definitions. -/
structure Grammar.Accepted (rules : List Rule) (options : Options) (g : Grammar) : Prop where
  rules_eq : g.rules = rules.map Rule.link
  root_mem : g.root ∈ g.rules
  options_eq : g.options = options
  distinct : (rules.map Rule.name).Nodup
  defined : ∀ r ∈ rules, ∀ name target link, r.Contains (.reference name target link) →
    (Definitions.find? rules target).isSome
  leftRecursion : Definitions.leftRecursion? options.lenientDiscard rules = none

namespace Grammar

lemma accepted_of_ofDefinitions {rules : List Rule} {options : Options} {g : Grammar}
    (h : (ofDefinitions rules options).1 = .ok g) : Accepted rules options g := by
  cases rules with
  | nil => simp [ofDefinitions] at h
  | cons first rest =>
    rw [ofDefinitions] at h
    simp only at h
    split at h
    · simp at h
    · rename_i hduplicate
      split at h
      · simp at h
      · rename_i root hroot
        split at h
        · simp at h
        · rename_i log hlinked
          split at h
          · simp at h
          · rename_i hrecursion
            obtain rfl := Except.ok.inj h
            have hreferences := Definitions.linkAll_eq_none (by rw [hlinked])
            refine ⟨rfl, ?_, rfl, ?_, ?_, hrecursion⟩
            · exact List.mem_map_of_mem (Definitions.mem_of_find? hroot).1
            · exact ((Definitions.firstDuplicate?_eq_none _ _).mp hduplicate).1
            · intro r hr name target link hcontains
              exact hreferences r hr _ hcontains.mem_references

namespace Accepted

variable {rules : List Rule} {options : Options} {g : Grammar}

lemma graph_eq (h : Accepted rules options g) (key : String) :
    g.graph key = (Definitions.find? rules key).map Rule.link := by
  rw [graph, rule?, h.rules_eq, Definitions.find?_map_link]

lemma graph_eq_graph (h : Accepted rules options g) : g.graph = Definitions.graph rules :=
  funext h.graph_eq

/-- The rule of a name is the only one that has it. -/
lemma rule?_name (h : Accepted rules options g) {rule : Rule} (hrule : rule ∈ g.rules) :
    g.rule? rule.name = some rule := by
  refine Definitions.find?_of_mem ?_ hrule
  rw [h.rules_eq, List.map_map]
  simpa [Function.comp_def] using h.distinct

lemma exists_root (h : Accepted rules options g) : ∃ root ∈ rules, root.link = g.root := by
  rw [← List.mem_map, ← h.rules_eq]
  exact h.root_mem

lemma link_mem (h : Accepted rules options g) {r : Rule} (hr : r ∈ rules) : r.link ∈ g.rules := by
  rw [h.rules_eq]
  exact List.mem_map_of_mem hr

/-- Looking up the name of a definition gives the definition with its references linked. -/
lemma rule?_link (h : Accepted rules options g) {r : Rule} (hr : r ∈ rules) :
    g.rule? r.name = some r.link := by
  have hname := h.rule?_name (h.link_mem hr)
  rwa [Rule.name_link] at hname

lemma exists_of_graph (h : Accepted rules options g) {key : String} {rule : Rule}
    (hkey : g.graph key = some rule) :
    ∃ r, Definitions.find? rules key = some r ∧ r ∈ rules ∧ r.name = key ∧ r.link = rule := by
  rw [h.graph_eq, Option.map_eq_some_iff] at hkey
  obtain ⟨r, hr, rfl⟩ := hkey
  exact ⟨r, hr, (Definitions.mem_of_find? hr).1, (Definitions.mem_of_find? hr).2, rfl⟩

/-- References that were not linked before lead to a rule of the grammar. -/
lemma exists_target (h : Accepted rules options g) (hunlinked : ∀ r ∈ rules, r.Unlinked)
    {rule : Rule} (hrule : rule ∈ g.rules) {name target : String} {link : Option String}
    (hcontains : rule.Contains (.reference name target link)) :
    link = some target ∧ ∃ targetRule, g.graph target = some targetRule := by
  rw [h.rules_eq, List.mem_map] at hrule
  obtain ⟨r, hr, rfl⟩ := hrule
  obtain ⟨before, hbefore, -⟩ := hcontains.of_link_reference
  obtain ⟨targetRule, htarget⟩ := Option.isSome_iff_exists.mp (h.defined r hr _ _ _ hbefore)
  refine ⟨(hunlinked r hr).link name target link hcontains, targetRule.link, ?_⟩
  rw [h.graph_eq, htarget]
  rfl

end Accepted

end Grammar

end Peg
