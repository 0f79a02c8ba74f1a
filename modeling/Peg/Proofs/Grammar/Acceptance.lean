import Peg.Proofs.Grammar.WellFormed
import Peg.Proofs.Match.Expectations

/-!
# Accepted grammars

Definitions are accepted if and only if they are well-formed, and a grammar made of them has no
reference that stands for nothing: each leads to the definition that it names. So no match, whatever
the input, ever fails because a reference could not be followed.
-/

namespace Peg

/-! ### References of a grammar -/

namespace Rule

lemma allResolved_eq_true {rs : List Rule} :
    allResolved rs = true ↔ ∀ r ∈ rs, r.isResolved = true := by
  induction rs with
  | nil => simp [allResolved]
  | cons r rs ih => simp [allResolved, ih]

lemma isResolved_of_contains (r : Rule) :
    (∀ name target link, r.Contains (.reference name target link) → link.isSome = true) →
      r.isResolved = true := by
  induction r using Rule.inductionOn with
  | literal | pattern => exact fun _ => rfl
  | reference name target link => exact fun h => h name target link .refl
  | concat name parts ih =>
    intro h
    refine allResolved_eq_true.mpr fun part hpart => ih part hpart ?_
    exact fun _ _ _ hcontains => h _ _ _ (.of_part hpart hcontains)
  | plus name child ih | star name child ih | optional name child ih | discard name child ih =>
    intro h
    exact ih fun _ _ _ hcontains => h _ _ _ (.of_part (List.mem_singleton_self child) hcontains)
  | alternate name left right ihl ihr =>
    intro h
    rw [isResolved, Bool.and_eq_true]
    exact ⟨ihl fun _ _ _ hcontains => h _ _ _ (.of_part (by simp [dependencies]) hcontains),
      ihr fun _ _ _ hcontains => h _ _ _ (.of_part (by simp [dependencies]) hcontains)⟩

end Rule

namespace Grammar

variable {rules : List Rule} {options : Options} {g : Grammar}

/-- The rules of the grammar are the definitions in their order, each found by its name, and every
reference stands for the definition that it names. -/
structure Links (g : Grammar) (rules : List Rule) : Prop where
  rules_eq : g.rules = rules.map Rule.link
  rule?_eq_some : ∀ name r, g.rule? name = some r ↔ r ∈ g.rules ∧ r.name = name
  rule?_eq_none : ∀ name, g.rule? name = none ↔ name ∉ rules.map Rule.name
  target : ∀ r ∈ g.rules, ∀ name target link, r.Contains (.reference name target link) →
    ∃ next ∈ g.rules, next.name = target ∧ link.bind g.graph = some next
  resolved : ∀ r ∈ g.rules, r.isResolved = true

lemma Accepted.links (h : Accepted rules options g) (hunlinked : ∀ r ∈ rules, r.Unlinked) :
    g.Links rules where
  rules_eq := h.rules_eq
  rule?_eq_some name r := by
    refine ⟨Definitions.mem_of_find?, ?_⟩
    rintro ⟨hr, rfl⟩
    exact h.rule?_name hr
  rule?_eq_none name := by
    rw [rule?, Definitions.find?_eq_none, h.rules_eq, List.map_map]
    simp only [Function.comp_def, Rule.name_link]
  target r hr name target link hcontains := by
    obtain ⟨rfl, next, hnext⟩ := h.exists_target hunlinked hr hcontains
    obtain ⟨hmem, hname⟩ := Definitions.mem_of_find? hnext
    exact ⟨next, hmem, hname, hnext⟩
  resolved r hr := by
    refine r.isResolved_of_contains fun name target link hcontains => ?_
    rw [(h.exists_target hunlinked hr hcontains).1]
    rfl

/-- Whatever a rule of the grammar leads to is contained in a rule of the grammar. -/
lemma exists_contains_of_leadsTo {rule inner : Rule} (hrule : rule ∈ g.rules)
    (h : rule.LeadsTo g.graph inner) : ∃ root ∈ g.rules, root.Contains inner := by
  induction h with
  | refl => exact ⟨rule, hrule, .refl⟩
  | tail _ hstep ih =>
    rcases hstep with hpart | ⟨name, target, key, rfl, hkey⟩
    · obtain ⟨root, hroot, hcontains⟩ := ih
      exact ⟨root, hroot, .tail hcontains hpart⟩
    · exact ⟨_, (Definitions.mem_of_find? hkey).1, .refl⟩

/-! ### Errors of a grammar -/

/-- The text is not what a reference expects that stands for no rule. -/
def NotOfReference (text : String) : Prop := ∀ target : String, text ≠ s!"resolved rule `{target}`"

lemma notOfReference_of_head? {text : String} (h : text.toList.head? ≠ some 'r') :
    NotOfReference text := by
  rintro target rfl
  have hword : toString "resolved rule `" = "resolved rule `" := rfl
  simp [hword] at h

lemma notOfReference_expectation {rule : Rule} (h : rule.isTerminal = true) :
    NotOfReference rule.expectation := by
  refine notOfReference_of_head? ?_
  cases rule with
  | literal name bytes => simp [Rule.expectation]
  | pattern name p => simp [Rule.expectation]
  | _ => simp [Rule.isTerminal] at h

lemma notOfReference_nestingDepth (limit : Nat) :
    NotOfReference s!"nesting depth within {limit}" := by
  refine notOfReference_of_head? ?_
  have hword : toString "nesting depth within " = "nesting depth within " := rfl
  simp [hword]

lemma Links.expects (h : g.Links rules) {rule : Rule} (hrule : rule ∈ g.rules) :
    rule.Expects NotOfReference g.graph where
  terminal inner _ hterminal := notOfReference_expectation hterminal
  reference name target link hleads hlink := by
    obtain ⟨root, hroot, hcontains⟩ := exists_contains_of_leadsTo hrule hleads
    obtain ⟨next, -, -, hnext⟩ := h.target root hroot name target link hcontains
    cases hlink.symm.trans hnext

/-- No match of the rule fails because a reference stands for nothing: every reference that is met
stands for a rule, and no error expects what such a failure would, unless one did before. -/
structure NeverUnresolved (g : Grammar) (rule : Rule) : Prop where
  visits : ∀ (cx : Context), ∀ pos ≤ cx.source.size, ∀ v ∈ (cx.trace g.graph rule pos).visits,
    ∀ name target link, v.rule = .reference name target link →
      ∃ next ∈ g.rules, next.name = target ∧ link.bind g.graph = some next
  outcome : ∀ (cx : Context) (pos : Nat), cx.toTrail.Expects NotOfReference →
    Outcome.Expects NotOfReference
      ((cx.matchAt g.graph rule pos).1, (cx.matchAt g.graph rule pos).2.toTrail)
  reported : ∀ source e,
    g.run rule source = .error e ∨ g.parseRule rule.name source = .error (.mismatch e) ∨
      rule = g.root ∧ (g.matchPrefix source = .error e ∨ g.parse source = .error e) →
    e.Expects NotOfReference

lemma expects_run {P : String → Prop} {rule : Rule} {source : Source} {e : MatchError}
    (houtcome : Outcome.Expects P (((g.context source).matchAt g.graph rule 0).1,
      ((g.context source).matchAt g.graph rule 0).2.toTrail))
    (h : g.run rule source = .error e) : e.Expects P := by
  rw [run] at h
  generalize (g.context source).matchAt g.graph rule 0 = result at houtcome h
  obtain ⟨result, cx⟩ := result
  simp only at houtcome h
  cases houtcome with
  | success hcx =>
    split at h
    · rename_i overflow hoverflow
      obtain rfl := Except.error.inj h
      exact hcx.overflow overflow hoverflow
    · cases h
  | failure hbubbled hcx =>
    split at h
    · rename_i overflow hoverflow
      obtain rfl := Except.error.inj h
      exact hcx.overflow overflow hoverflow
    · rename_i hoverflow
      obtain rfl := Except.error.inj h
      rw [Context.toReport, hoverflow]
      cases hfurthest : cx.furthest with
      | none => exact hbubbled
      | some furthest => exact hcx.furthest furthest hfurthest

lemma Links.neverUnresolved (h : g.Links rules) {rule : Rule} (hrule : rule ∈ g.rules) :
    g.NeverUnresolved rule := by
  have houtcome : ∀ (cx : Context) (pos : Nat), cx.toTrail.Expects NotOfReference →
      Outcome.Expects NotOfReference
        ((cx.matchAt g.graph rule pos).1, (cx.matchAt g.graph rule pos).2.toTrail) :=
    fun cx pos htrail => rule.attemptWithin_expects (notOfReference_nestingDepth cx.maxDepth)
      (cx.maxDepth - cx.depth) (h.expects hrule) pos cx.toTrail htrail
  refine ⟨?_, houtcome, ?_⟩
  · intro cx pos hpos v hv name target link hreference
    obtain ⟨root, hroot, hcontains⟩ := exists_contains_of_mem_visits hrule hpos hv
    rw [hreference] at hcontains
    exact h.target root hroot name target link hcontains
  · intro source e he
    have hname : g.rule? rule.name = some rule := (h.rule?_eq_some _ _).mpr ⟨hrule, rfl⟩
    exact expects_run (houtcome (g.context source) 0 ⟨nofun, nofun⟩) (run_eq_error hname he)

/-- Definitions that are not linked yet are accepted if and only if they are well-formed; otherwise
the error is that of the first flaw, which for left recursion names definitions that all call each
other. The grammar has the definitions as its rules, all references stand for the definitions that
they name, and no match ever fails for the lack of one. -/
theorem accepts_wellFormed (hunlinked : ∀ r ∈ rules, r.Unlinked) (options : Options) :
    ((∃ g, (ofDefinitions rules options).1 = .ok g) ↔ Definitions.WellFormed rules options) ∧
    (∀ e, (ofDefinitions rules options).1 = .error e ↔ Definitions.Flaw rules options e) ∧
    (∀ cycle, Definitions.Flaw rules options (.validation (.leftRecursion cycle)) →
      cycle ≠ [] ∧ cycle.Sublist (rules.map Rule.name) ∧
      ∀ caller ∈ cycle, ∀ callee ∈ cycle,
        Relation.TransGen (Definitions.Calls options.lenientDiscard rules) caller callee) ∧
    ∀ g, (ofDefinitions rules options).1 = .ok g →
      g.Links rules ∧ g.root ∈ g.rules ∧ ∀ rule ∈ g.rules, g.NeverUnresolved rule := by
  refine ⟨exists_ofDefinitions_iff, fun e => ⟨flaw_of_ofDefinitions, ofDefinitions_of_flaw⟩, ?_, ?_⟩
  · intro cycle hflaw
    cases hflaw with
    | leftRecursion _ _ _ _ hcycle => exact Definitions.calls_of_leftRecursion? hcycle
  · intro g h
    have haccepted := accepted_of_ofDefinitions h
    have hlinks := haccepted.links hunlinked
    exact ⟨hlinks, haccepted.root_mem, fun rule hrule => hlinks.neverUnresolved hrule⟩

/-- A list of letters is well-formed, but not without the definition of its letters. -/
theorem accepts_wellFormed_list :
    let list : Rule := .concat "list"
      [.reference "item" "item" none, .optional "list?" (.reference "list" "list" none)]
    let item : Rule := .literal "item" [97]
    (∀ r ∈ [list, item], r.Unlinked) ∧
      Definitions.WellFormed [list, item] {} ∧
      (∃ g, (ofDefinitions [list, item] {}).1 = .ok g ∧ g.Links [list, item] ∧
        g.NeverUnresolved g.root) ∧
      Definitions.Flaw [list] {} (.validation (.undefinedRule "item" "list")) := by
  intro list item
  have hunlinked : ∀ r ∈ [list, item], r.Unlinked := by
    intro r hr
    refine Rule.unlinked_of_references ?_
    simp only [List.mem_cons, List.not_mem_nil, or_false] at hr
    rcases hr with rfl | rfl <;> decide
  have hlist : ∀ r ∈ [list], r.Unlinked :=
    fun r hr => hunlinked r (List.mem_cons.mpr (Or.inl (List.mem_singleton.mp hr)))
  have hok : ∃ g, (ofDefinitions [list, item] {}).1 = .ok g := ⟨_, rfl⟩
  obtain ⟨haccepts, -, -, hgrammar⟩ := @accepts_wellFormed [list, item] hunlinked {}
  obtain ⟨g, hg⟩ := hok
  obtain ⟨hlinks, hroot, hnever⟩ := hgrammar g hg
  refine ⟨hunlinked, haccepts.mp ⟨g, hg⟩, ⟨g, hg, hlinks, hnever g.root hroot⟩, ?_⟩
  exact ((@accepts_wellFormed [list] hlist {}).2.1 _).mp rfl

end Grammar

end Peg
