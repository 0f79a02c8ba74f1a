import Peg.Proofs.Grammar.WellFormed

/-!
# The order of definitions

Definitions are looked up by name, and what the checks ask for can be said of the set of definitions
alone: which rules may match nothing and which call which others only grows with the definitions. So
the order of definitions decides which of them is the entry when none is asked for, and nothing
else.
-/

namespace Peg

/-! ### Fewer and more definitions -/

namespace Rule

variable {lenient : Bool} {rules rules' : List Rule}

/-- More definitions allow for more rules to match nothing. -/
lemma MayBeEmpty.mono {rule : Rule} (h : rule.MayBeEmpty lenient rules) (hsub : rules ⊆ rules') :
    rule.MayBeEmpty lenient rules' := by
  induction h with
  | literal => exact .literal
  | pattern h => exact .pattern h
  | reference hr _ ih => exact .reference (hsub hr) ih
  | concat _ ih => exact .concat ih
  | plus _ ih => exact .plus ih
  | star => exact .star
  | optional => exact .optional
  | left _ ih => exact .left ih
  | right _ ih => exact .right ih
  | discard _ ih => exact .discard ih
  | lenientDiscard h => exact .lenientDiscard h

lemma CallsAtOnce.mono {target : String} {rule : Rule}
    (h : rule.CallsAtOnce lenient rules target) (hsub : rules ⊆ rules') :
    rule.CallsAtOnce lenient rules' target := by
  induction h with
  | reference => exact .reference
  | part hbefore _ ih => exact .part (fun r hr => (hbefore r hr).mono hsub) ih
  | plus _ ih => exact .plus ih
  | star _ ih => exact .star ih
  | optional _ ih => exact .optional ih
  | left _ ih => exact .left ih
  | right _ ih => exact .right ih
  | discard _ ih => exact .discard ih

lemma RefersWithin.mono {rule : Rule} (h : rule.RefersWithin rules)
    (hsub : rules.map Rule.name ⊆ rules'.map Rule.name) : rule.RefersWithin rules' := by
  rintro inner hinner ⟨name, target, link, rfl, htarget⟩
  exact h _ hinner ⟨name, target, link, rfl, fun hmem => htarget (hsub hmem)⟩

end Rule

namespace Definitions

variable {lenient : Bool} {rules rules' : List Rule} {options : Options}

lemma Calls.mono {caller callee : String} (h : Calls lenient rules caller callee)
    (hsub : rules ⊆ rules') : Calls lenient rules' caller callee := by
  obtain ⟨r, hr, hname, hcalls⟩ := h
  exact ⟨r, hsub hr, hname, hcalls.mono hsub⟩

/-- With some definitions left out no new cycles come up. -/
lemma Acyclic.anti (h : Acyclic lenient rules') (hsub : rules ⊆ rules') :
    Acyclic lenient rules := by
  intro name hcycle
  apply h name
  exact Relation.TransGen.mono (fun _ _ hcalls => Calls.mono hcalls hsub) name name hcycle

/-! ### Definitions in another order -/

lemma find?_eq_some_iff (hdistinct : (rules.map Rule.name).Nodup) {name : String} {r : Rule} :
    find? rules name = some r ↔ r ∈ rules ∧ r.name = name := by
  constructor
  · exact mem_of_find?
  · rintro ⟨hr, rfl⟩
    exact find?_of_mem hdistinct hr

lemma find?_perm (hperm : rules.Perm rules') (hdistinct : (rules.map Rule.name).Nodup)
    (name : String) : find? rules' name = find? rules name := by
  have hdistinct' : (rules'.map Rule.name).Nodup := (hperm.map Rule.name).nodup_iff.mp hdistinct
  apply Option.ext
  intro r
  rw [find?_eq_some_iff hdistinct', find?_eq_some_iff hdistinct, hperm.mem_iff]

lemma WellFormed.perm (h : WellFormed rules options) (hperm : rules.Perm rules') :
    WellFormed rules' options where
  nonempty := fun hempty => h.nonempty (hempty ▸ hperm).eq_nil
  distinct := (hperm.map Rule.name).nodup_iff.mp h.distinct
  entry := fun name hname => (hperm.map Rule.name).mem_iff.mp (h.entry name hname)
  defined := fun r hr =>
    (h.defined r (hperm.mem_iff.mpr hr)).mono (hperm.map Rule.name).subset
  acyclic := h.acyclic.anti hperm.symm.subset

end Definitions

/-! ### The entry of a grammar -/

namespace Grammar

variable {rules rules' : List Rule} {options : Options} {g g' : Grammar}

/-- The entry of accepted definitions is the one of the name asked for, or else the first one. What
is logged are the links and then the definitions that cannot be reached from the entry. -/
lemma entry_of_ofDefinitions {first : Rule} {rest : List Rule}
    (h : (ofDefinitions (first :: rest) options).1 = .ok g) :
    (∃ root, Definitions.find? (first :: rest) (options.entry.getD first.name) = some root ∧
      g.root = root.link) ∧
    (ofDefinitions (first :: rest) options).2 =
      (Definitions.linkAll (fun name => (Definitions.find? (first :: rest) name).isSome)
        (first :: rest)).1 ++
      (Definitions.unreachable (first :: rest) (options.entry.getD first.name)).map
        fun r => .unreachable r.name := by
  rw [ofDefinitions] at h ⊢
  simp only at h ⊢
  split at h
  · cases h
  split at h
  · cases h
  rename_i root hroot
  split at h
  · cases h
  rename_i log hlinked
  split at h
  · cases h
  obtain rfl := Except.ok.inj h
  refine ⟨⟨root, hroot, rfl⟩, ?_⟩
  rw [hlinked]

lemma rule?_entry {first : Rule} {rest : List Rule}
    (h : (ofDefinitions (first :: rest) options).1 = .ok g) :
    g.rule? (options.entry.getD first.name) = some g.root := by
  obtain ⟨⟨root, hfound, hroot⟩, -⟩ := entry_of_ofDefinitions h
  show g.graph (options.entry.getD first.name) = some g.root
  rw [(accepted_of_ofDefinitions h).graph_eq, hfound, hroot]
  rfl

/-- Grammars of the same options match a rule alike if it is attempted alike in both. -/
lemma run_congr (hoptions : g'.options = g.options) {rule : Rule}
    (hattempts : ∀ s levels,
      rule.attemptWithin s g'.graph levels = rule.attemptWithin s g.graph levels)
    (source : Source) : g'.run rule source = g.run rule source := by
  simp only [run, context, Context.matchAt, hoptions, hattempts]

lemma matchPrefix_congr (hroot : g'.root = g.root) {source : Source}
    (h : g'.run g.root source = g.run g.root source) :
    g'.matchPrefix source = g.matchPrefix source ∧ g'.parse source = g.parse source := by
  have hmatch : g'.matchPrefix source = g.matchPrefix source := by
    rw [matchPrefix, matchPrefix, hroot, h]
  refine ⟨hmatch, ?_⟩
  rw [parse, parse, hmatch, hroot]

lemma parseRule_congr {name : String} {rule : Rule} (hname : g.rule? name = some rule)
    (hname' : g'.rule? name = some rule) {source : Source}
    (h : g'.run rule source = g.run rule source) :
    g'.parseRule name source = g.parseRule name source := by
  simp only [parseRule, hname, hname', h]

/-- The order of definitions makes no difference once the entry is asked for by its name. They are
accepted in all orders or in none, and the grammars give the same trees and errors for all rules. -/
theorem order_irrelevant (hperm : rules.Perm rules') {entry : String}
    (hentry : options.entry = some entry) :
    ((∃ g, (ofDefinitions rules options).1 = .ok g) ↔
      ∃ g', (ofDefinitions rules' options).1 = .ok g') ∧
    ∀ g g', (ofDefinitions rules options).1 = .ok g → (ofDefinitions rules' options).1 = .ok g' →
      g.rules.Perm g'.rules ∧ g'.root = g.root ∧
      ∀ source, g'.matchPrefix source = g.matchPrefix source ∧ g'.parse source = g.parse source ∧
        ∀ name, g'.parseRule name source = g.parseRule name source := by
  constructor
  · rw [exists_ofDefinitions_iff, exists_ofDefinitions_iff]
    exact ⟨fun h => h.perm hperm, fun h => h.perm hperm.symm⟩
  · intro g g' h h'
    have haccepted := accepted_of_ofDefinitions h
    have haccepted' := accepted_of_ofDefinitions h'
    have hgraph : g'.graph = g.graph := by
      funext key
      rw [haccepted.graph_eq, haccepted'.graph_eq,
        Definitions.find?_perm hperm haccepted.distinct]
    have hroot : g'.root = g.root := by
      cases rules with
      | nil => cases h
      | cons first rest =>
        cases rules' with
        | nil => cases h'
        | cons first' rest' =>
          have hfound := rule?_entry h
          have hfound' := rule?_entry h'
          rw [hentry, Option.getD_some] at hfound hfound'
          exact Option.some.inj (hfound'.symm.trans ((congrFun hgraph entry).trans hfound))
    have hrun : ∀ rule source, g'.run rule source = g.run rule source := fun rule =>
      run_congr (haccepted'.options_eq.trans haccepted.options_eq.symm) fun _ _ => by rw [hgraph]
    refine ⟨?_, hroot, fun source => ?_⟩
    · rw [haccepted.rules_eq, haccepted'.rules_eq]
      exact hperm.map Rule.link
    · obtain ⟨hmatch, hparse⟩ := matchPrefix_congr hroot (hrun g.root source)
      refine ⟨hmatch, hparse, fun name => ?_⟩
      have hname : g'.rule? name = g.rule? name := congrFun hgraph name
      cases hfound : g.rule? name with
      | none => rw [parseRule, parseRule, hname, hfound]
      | some rule => exact parseRule_congr hfound (hname.trans hfound) (hrun rule source)

/-- A list of letters, with the letters defined behind the list and before it. -/
theorem order_irrelevant_list :
    let list : Rule := .concat "list"
      [.reference "item" "item" none, .optional "list?" (.reference "list" "list" none)]
    let item : Rule := .literal "item" [97]
    let options : Options := { entry := some "list" }
    [list, item].Perm [item, list] ∧ options.entry = some "list" ∧
      ∃ g g', (ofDefinitions [list, item] options).1 = .ok g ∧
        (ofDefinitions [item, list] options).1 = .ok g' ∧
        g'.parse (.ofBytes [97, 97]) = g.parse (.ofBytes [97, 97]) ∧
        g'.parseRule "item" (.ofBytes [98]) = g.parseRule "item" (.ofBytes [98]) := by
  intro list item options
  have hperm : [list, item].Perm [item, list] := .swap item list []
  have h : ∃ g, (ofDefinitions [list, item] options).1 = .ok g := ⟨_, rfl⟩
  obtain ⟨haccepts, hsame⟩ := @order_irrelevant _ _ options hperm "list" rfl
  obtain ⟨g, hg⟩ := h
  obtain ⟨g', hg'⟩ := haccepts.mp ⟨g, hg⟩
  obtain ⟨-, -, hresults⟩ := hsame g g' hg hg'
  exact ⟨hperm, rfl, g, g', hg, hg', (hresults _).2.1, (hresults _).2.2 "item"⟩

end Grammar

end Peg
