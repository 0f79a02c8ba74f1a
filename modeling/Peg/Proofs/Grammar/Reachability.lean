import Peg.Proofs.Grammar.Order
import Peg.Proofs.Match.Leaves

/-!
# Definitions that cannot be reached

The definitions that are reported as unreachable are those that no chain of references leads to from
the entry. Without them the remaining definitions pass all checks again, and since a match follows
references only, no match of the entry can tell that they are gone.
-/

namespace Peg

/-! ### Vertices that can be reached -/

/-- A walk from a vertex visits just what can be reached from there. -/
theorem Digraph.mem_reachable {g : Digraph} {u v : Nat} : u ∈ g.reachable v ↔ g.Reaches v u := by
  obtain ⟨hextends, hvisited⟩ := walk_extends (g := g) v {}
  constructor
  · intro hu
    have hmem : u ∈ (g.walk v {}).left := (hextends.left u).mpr (Or.inr ⟨hu, by simp⟩)
    rcases visit_leaves (g.size + 1) v {} u hmem with hmem | ⟨x, hx, hway⟩
    · cases hmem
    · obtain rfl := List.mem_singleton.mp hx
      exact hway
  · intro hway
    induction hway with
    | refl => exact hvisited
    | tail _ hedge ih => exact hextends.closed _ ih (by simp) _ hedge

/-! ### References between definitions -/

namespace Rule

/-- The target of a reference. -/
def target? : Rule → Option String
  | .reference _ target _ => some target
  | _ => none

lemma allTargets_eq_flatMap (rs : List Rule) : allTargets rs = rs.flatMap targets := by
  induction rs with
  | nil => rfl
  | cons r rs ih => rw [allTargets, List.flatMap_cons, ih]

/-- The targets of a rule are those of the references in it, in preorder. -/
lemma targets_eq_filterMap (r : Rule) : r.targets = r.preorder.filterMap target? := by
  induction r using Rule.inductionOn with
  | literal | pattern | reference => rfl
  | concat name parts ih =>
    rw [targets, preorder, allTargets_eq_flatMap, preorderOfAll_eq_flatMap,
      List.filterMap_cons_none rfl, List.filterMap_flatMap]
    exact List.flatMap_congr ih
  | plus name child ih | star name child ih | optional name child ih | discard name child ih =>
    rw [targets, preorder, List.filterMap_cons_none rfl, ih]
  | alternate name left right ihl ihr =>
    rw [targets, preorder, List.filterMap_cons_none rfl, List.filterMap_append, ihl, ihr]

lemma target?_eq_some {r : Rule} {target : String} :
    r.target? = some target ↔ ∃ name link, r = .reference name target link := by
  cases r <;> simp [target?]

lemma mem_targets {r : Rule} {target : String} :
    target ∈ r.targets ↔ ∃ name link, r.Contains (.reference name target link) := by
  rw [targets_eq_filterMap, List.mem_filterMap]
  simp only [mem_preorder, target?_eq_some]
  constructor
  · rintro ⟨_, hcontains, name, link, rfl⟩
    exact ⟨name, link, hcontains⟩
  · rintro ⟨name, link, hcontains⟩
    exact ⟨_, hcontains, name, link, rfl⟩

end Rule

namespace Definitions

variable {rules rules' : List Rule} {entry : String}

/-- The definition of the one name refers to the other one. -/
def Refers (rules : List Rule) (caller callee : String) : Prop :=
  ∃ r ∈ rules, r.name = caller ∧ ∃ name link, r.Contains (.reference name callee link)

/-- A chain of references leads from the one name to the other one. -/
abbrev Reaches (rules : List Rule) : String → String → Prop :=
  Relation.ReflTransGen (Refers rules)

lemma edge_referenceGraph {i j : Nat} : (referenceGraph rules).Edge i j ↔
    ∃ r, rules[i]? = some r ∧ ∃ target ∈ r.targets, position? rules target = some j := by
  simp only [Digraph.Edge, referenceGraph, Digraph.ofList, Digraph.successors,
    List.getElem?_toArray, List.getElem?_map]
  cases h : rules[i]? with
  | none => simp
  | some r => simp

/-- A path between places is a chain of references between the names there. -/
lemma reaches_of_path {i j : Nat} (h : (referenceGraph rules).Reaches i j) {r r' : Rule}
    (hr : rules[i]? = some r) (hr' : rules[j]? = some r') : Reaches rules r.name r'.name := by
  induction h generalizing r' with
  | refl =>
    obtain rfl : r = r' := Option.some.inj (hr.symm.trans hr')
    exact .refl
  | tail _ hedge ih =>
    obtain ⟨u, hu, target, htarget, hj⟩ := edge_referenceGraph.mp hedge
    obtain ⟨v, hv, rfl⟩ := exists_of_position? hj
    obtain rfl : v = r' := Option.some.inj (hv.symm.trans hr')
    exact .tail (ih hu) ⟨u, List.mem_of_getElem? hu, rfl, Rule.mem_targets.mp htarget⟩

/-- A chain of references between names is a path between their places. -/
lemma path_of_reaches (hdistinct : (rules.map Rule.name).Nodup) {caller callee : String}
    (h : Reaches rules caller callee) {i j : Nat} (hi : position? rules caller = some i)
    (hj : position? rules callee = some j) : (referenceGraph rules).Reaches i j := by
  induction h generalizing j with
  | refl =>
    obtain rfl : i = j := Option.some.inj (hi.symm.trans hj)
    exact .refl
  | tail _ hrefers ih =>
    obtain ⟨r, hr, rfl, hcontains⟩ := hrefers
    obtain ⟨k, hk, hget⟩ := exists_position?_of_mem hdistinct hr
    exact .tail (ih hk) (edge_referenceGraph.mpr ⟨r, hget, _, Rule.mem_targets.mpr hcontains, hj⟩)

open Classical in
/-- The unreachable definitions are those that no chain of references leads to, in order. -/
theorem unreachable_eq_filter (hdistinct : (rules.map Rule.name).Nodup)
    (hentry : entry ∈ rules.map Rule.name) :
    unreachable rules entry = rules.filter fun r => ¬ Reaches rules entry r.name := by
  obtain ⟨first, hfirst, rfl⟩ := List.mem_map.mp hentry
  obtain ⟨v, hv, hget⟩ := exists_position?_of_mem hdistinct hfirst
  have hreached : ∀ q ∈ rules.zipIdx,
      (!((referenceGraph rules).reachable v).contains q.2) =
        decide (¬ Reaches rules first.name q.1.name) := by
    rintro ⟨r, i⟩ hq
    have hi : rules[i]? = some r := List.mem_zipIdx_iff_getElem?.mp hq
    rw [Bool.eq_iff_iff, Bool.not_eq_true', List.contains_eq_mem, decide_eq_false_iff_not,
      decide_eq_true_eq, Digraph.mem_reachable, not_iff_not]
    constructor
    · exact fun hpath => reaches_of_path hpath hget hi
    · exact fun hreaches =>
        path_of_reaches hdistinct hreaches hv (position?_of_getElem? hdistinct hi)
  calc unreachable rules first.name
      = (rules.zipIdx.filter fun q => ¬ Reaches rules first.name q.1.name).map Prod.fst := by
        simp only [unreachable, hv]
        rw [List.filter_congr hreached]
    _ = (rules.zipIdx.map Prod.fst).filter fun r => ¬ Reaches rules first.name r.name :=
        by rw [List.filter_map]; rfl
    _ = rules.filter fun r => ¬ Reaches rules first.name r.name := by rw [List.zipIdx_map_fst]

lemma mem_unreachable (hdistinct : (rules.map Rule.name).Nodup)
    (hentry : entry ∈ rules.map Rule.name) {r : Rule} :
    r ∈ unreachable rules entry ↔ r ∈ rules ∧ ¬ Reaches rules entry r.name := by
  classical
  rw [unreachable_eq_filter hdistinct hentry, List.mem_filter, decide_eq_true_eq]

end Definitions

/-! ### Attempts that follow the same references -/

namespace Rule

lemma Contains.leadsTo {graph : RuleGraph} {rule inner : Rule} (h : rule.Contains inner) :
    rule.LeadsTo graph inner :=
  Relation.ReflTransGen.mono (fun _ _ hpart => Or.inl hpart) _ _ h

/-- The attempt of a rule depends on the attempts of the keys in it only. -/
lemma attempt_congr {s : Setup} {enter enter' : String → Option Attempt} {rule : Rule}
    (h : ∀ name target key, rule.Contains (.reference name target (some key)) →
      enter' key = enter key) : rule.attempt s enter' = rule.attempt s enter := by
  induction rule using Rule.inductionOn with
  | literal | pattern => rfl
  | reference name target link =>
    cases link with
    | none => rfl
    | some key =>
      have hkey := h name target key .refl
      simp only [attempt, Option.bind_some, hkey]
  | concat name parts ih =>
    have hparts : parts.map (attempt s enter') = parts.map (attempt s enter) :=
      List.map_congr_left fun part hpart => ih part hpart fun name target key hcontains =>
        h name target key (.of_part hpart hcontains)
    rw [attempt, attempt, attempts_eq_map, attempts_eq_map, hparts]
  | plus name child ih | star name child ih | optional name child ih | discard name child ih =>
    have hchild := ih fun name target key hcontains =>
      h name target key (.of_part (List.mem_singleton_self child) hcontains)
    rw [attempt, attempt, hchild]
  | alternate name left right ihl ihr =>
    have hleft := ihl fun name target key hcontains =>
      h name target key (.of_part (by simp [dependencies]) hcontains)
    have hright := ihr fun name target key hcontains =>
      h name target key (.of_part (by simp [dependencies]) hcontains)
    rw [attempt, attempt, hleft, hright]

/-- Graphs that agree on all keys that a rule leads to make the same attempts of it. -/
theorem attemptWithin_congr {graph graph' : RuleGraph} {rule : Rule}
    (h : ∀ name target key, rule.LeadsTo graph (.reference name target (some key)) →
      graph' key = graph key) (s : Setup) (levels : Nat) :
    rule.attemptWithin s graph' levels = rule.attemptWithin s graph levels := by
  induction levels generalizing rule with
  | zero =>
    rw [attemptWithin_eq_attempt, attemptWithin_eq_attempt]
    apply attempt_congr
    intro name target key hcontains
    rw [enterWithin, enterWithin, h name target key hcontains.leadsTo]
  | succ left ih =>
    rw [attemptWithin_eq_attempt, attemptWithin_eq_attempt]
    apply attempt_congr
    intro name target key hcontains
    have hleads : rule.LeadsTo graph (.reference name target (some key)) := hcontains.leadsTo
    rw [enterWithin, enterWithin, h name target key hleads]
    cases hkey : graph key with
    | none => rfl
    | some next =>
      have hnext : rule.LeadsTo graph next := .tail hleads (Or.inr ⟨name, target, key, rfl, hkey⟩)
      simp only [Option.map_some]
      rw [ih fun name target key hinner => h name target key (hnext.trans hinner)]

end Rule

/-! ### What is left of the definitions -/

/-- The name of the rule that the message reports as unreachable. -/
def LogMessage.unreachable? : LogMessage → Option String
  | .unreachable rule => some rule
  | _ => none

lemma LogMessage.isWarning_eq_isSome (m : LogMessage) : m.isWarning = m.unreachable?.isSome := by
  cases m <;> rfl

namespace Definitions

variable {rules kept : List Rule} {options : Options} {entry : String}

/-- The definitions that the log does not report as unreachable. -/
def unreported (log : List LogMessage) (rules : List Rule) : List Rule :=
  rules.filter fun r => !(log.filterMap LogMessage.unreachable?).contains r.name

lemma unreachable?_linkReferences (defined : String → Bool) (rule : String)
    (references : List (String × Bool)) :
    (linkReferences defined rule references).1.filterMap LogMessage.unreachable? = [] := by
  induction references with
  | nil => rfl
  | cons reference rest ih =>
    obtain ⟨target, isLinked⟩ := reference
    by_cases htarget : defined target = true
    · simp only [linkReferences, htarget, if_true]
      cases isLinked <;> exact ih
    · simp [linkReferences, htarget]

lemma unreachable?_warnings (rules : List Rule) :
    (rules.map fun r => LogMessage.unreachable r.name).filterMap LogMessage.unreachable? =
      rules.map Rule.name := by
  rw [List.filterMap_map]
  exact congrFun List.filterMap_eq_map' rules

/-- Linking reports nothing as unreachable. -/
lemma unreachable?_linkAll (defined : String → Bool) (rules : List Rule) :
    (linkAll defined rules).1.filterMap LogMessage.unreachable? = [] := by
  induction rules with
  | nil => rfl
  | cons r rs ih =>
    have hlog := unreachable?_linkReferences defined r.name r.references
    rw [linkAll]
    rcases hlinked : linkReferences defined r.name r.references with ⟨log, _ | missing⟩
    all_goals rw [hlinked] at hlog
    · rw [List.filterMap_append, hlog, ih, List.append_nil]
    · exact hlog

/-- The definitions that some chain of references leads to from the entry. -/
structure ReachablePart (rules : List Rule) (entry : String) (kept : List Rule) : Prop where
  sublist : kept.Sublist rules
  mem_iff : ∀ r, r ∈ kept ↔ r ∈ rules ∧ Reaches rules entry r.name

namespace ReachablePart

lemma distinct (h : ReachablePart rules entry kept) (hdistinct : (rules.map Rule.name).Nodup) :
    (kept.map Rule.name).Nodup :=
  hdistinct.sublist (h.sublist.map Rule.name)

lemma mem_names (h : ReachablePart rules entry kept) {name : String}
    (hname : name ∈ rules.map Rule.name) (hreaches : Reaches rules entry name) :
    name ∈ kept.map Rule.name := by
  obtain ⟨r, hr, rfl⟩ := List.mem_map.mp hname
  exact List.mem_map_of_mem ((h.mem_iff r).mpr ⟨hr, hreaches⟩)

/-- No chain of references from the entry leaves the reachable part. -/
lemma reaches (h : ReachablePart rules entry kept) {name : String}
    (hreaches : Reaches rules entry name) : Reaches kept entry name := by
  induction hreaches with
  | refl => exact .refl
  | tail hway hrefers ih =>
    obtain ⟨r, hr, rfl, hcontains⟩ := hrefers
    exact .tail ih ⟨r, (h.mem_iff r).mpr ⟨hr, hway⟩, rfl, hcontains⟩

lemma find?_eq (h : ReachablePart rules entry kept) (hdistinct : (rules.map Rule.name).Nodup)
    {name : String} (hreaches : Reaches rules entry name) :
    find? kept name = find? rules name := by
  apply Option.ext
  intro r
  rw [find?_eq_some_iff (h.distinct hdistinct), find?_eq_some_iff hdistinct, h.mem_iff, and_assoc,
    and_congr_right_iff]
  refine fun _ => ⟨fun hr => hr.2, ?_⟩
  rintro rfl
  exact ⟨hreaches, rfl⟩

/-- The definition that comes first stays so if it is the entry. -/
lemma exists_cons {first : Rule} {rest : List Rule}
    (h : ReachablePart (first :: rest) first.name kept)
    (hdistinct : ((first :: rest).map Rule.name).Nodup) : ∃ rest', kept = first :: rest' := by
  have hfirst : first ∈ kept := (h.mem_iff first).mpr ⟨List.mem_cons_self, .refl⟩
  obtain ⟨hnew, -⟩ := List.nodup_cons.mp hdistinct
  cases h.sublist with
  | cons _ hsub => exact absurd (List.mem_map_of_mem (hsub.subset hfirst)) hnew
  | cons_cons _ hsub => exact ⟨_, rfl⟩

/-- The reachable part of well-formed definitions is well-formed. -/
lemma wellFormed (h : ReachablePart rules entry kept) (hrules : WellFormed rules options)
    (hentry : entry ∈ rules.map Rule.name) (hoption : ∀ name ∈ options.entry, name = entry) :
    WellFormed kept options where
  nonempty := by
    rintro rfl
    exact absurd (h.mem_names hentry .refl) (by simp)
  distinct := h.distinct hrules.distinct
  entry := by
    intro name hname
    obtain rfl := hoption name hname
    exact h.mem_names hentry .refl
  defined := by
    rintro r hr _ hcontains ⟨name, target, link, rfl, htarget⟩
    obtain ⟨hr, hreaches⟩ := (h.mem_iff r).mp hr
    apply htarget
    refine h.mem_names ?_ (.tail hreaches ⟨r, hr, rfl, name, link, hcontains⟩)
    by_contra hundefined
    exact hrules.defined r hr _ hcontains ⟨name, target, link, rfl, hundefined⟩
  acyclic := hrules.acyclic.anti h.sublist.subset

/-- Nothing is unreachable in the reachable part. -/
lemma unreachable_eq_nil (h : ReachablePart rules entry kept)
    (hdistinct : (rules.map Rule.name).Nodup) (hentry : entry ∈ rules.map Rule.name) :
    unreachable kept entry = [] := by
  rw [List.eq_nil_iff_forall_not_mem]
  intro r hr
  rw [mem_unreachable (h.distinct hdistinct) (h.mem_names hentry .refl)] at hr
  exact hr.2 (h.reaches ((h.mem_iff r).mp hr.1).2)

end ReachablePart

/-- A reference that is linked already stands for the definition that it names, or for none. -/
def LinkedAsNamed (rules : List Rule) : Prop :=
  ∀ r ∈ rules, ∀ name target key, r.Contains (.reference name target (some key)) →
    key ∈ rules.map Rule.name → key = target

lemma linkedAsNamed_of_unlinked (h : ∀ r ∈ rules, r.Unlinked) : LinkedAsNamed rules := by
  intro r hr name target key hcontains
  cases h r hr name target (some key) hcontains

/-- A link between definitions is a reference of the one to the other. -/
lemma LinkedAsNamed.refers (h : LinkedAsNamed rules) {r : Rule} (hr : r ∈ rules)
    {name target key : String} (hcontains : r.link.Contains (.reference name target (some key)))
    (hkey : key ∈ rules.map Rule.name) : Refers rules r.name key := by
  obtain ⟨before, hbefore, hlink⟩ := hcontains.of_link_reference
  have htarget : key = target := by
    cases before with
    | none => exact Option.some.inj hlink
    | some linked =>
      obtain rfl : key = linked := Option.some.inj hlink
      exact h r hr name target key hbefore hkey
  subst htarget
  exact ⟨r, hr, rfl, name, before, hbefore⟩

end Definitions

namespace Grammar

variable {rules kept : List Rule} {options : Options} {g g' : Grammar} {entry : String}

/-- Whatever a reachable rule leads to is contained in a reachable rule. -/
lemma Accepted.exists_reached (h : Accepted rules options g)
    (hlinks : Definitions.LinkedAsNamed rules) {r inner : Rule} (hr : r ∈ rules)
    (hreaches : Definitions.Reaches rules entry r.name) (hleads : r.link.LeadsTo g.graph inner) :
    ∃ u ∈ rules, Definitions.Reaches rules entry u.name ∧ u.link.Contains inner := by
  induction hleads with
  | refl => exact ⟨r, hr, hreaches, .refl⟩
  | tail _ hstep ih =>
    obtain ⟨u, hu, hreached, hcontains⟩ := ih
    rcases hstep with hpart | ⟨name, target, key, rfl, hkey⟩
    · exact ⟨u, hu, hreached, .tail hcontains hpart⟩
    · obtain ⟨next, -, hnext, rfl, rfl⟩ := h.exists_of_graph hkey
      have hrefers := hlinks.refers hu hcontains (List.mem_map_of_mem hnext)
      exact ⟨next, hnext, .tail hreached hrefers, .refl⟩

/-- A match of a reachable rule follows references to reachable rules only. -/
lemma Accepted.attemptWithin_reached (h : Accepted rules options g)
    (h' : Accepted kept options g') (hlinks : Definitions.LinkedAsNamed rules)
    (hpart : Definitions.ReachablePart rules entry kept) {r : Rule} (hr : r ∈ kept) (s : Setup)
    (levels : Nat) : r.link.attemptWithin s g'.graph levels =
      r.link.attemptWithin s g.graph levels := by
  obtain ⟨hr, hreaches⟩ := (hpart.mem_iff r).mp hr
  apply Rule.attemptWithin_congr
  intro name target key hleads
  obtain ⟨u, hu, hreached, hcontains⟩ := h.exists_reached hlinks hr hreaches hleads
  rw [h.graph_eq, h'.graph_eq]
  by_cases hkey : key ∈ rules.map Rule.name
  · have hrefers := hlinks.refers hu hcontains hkey
    rw [hpart.find?_eq h.distinct (.tail hreached hrefers)]
  · have hkept : key ∉ kept.map Rule.name :=
      fun hmem => hkey ((hpart.sublist.map Rule.name).subset hmem)
    rw [Definitions.find?_eq_none.mpr hkey, Definitions.find?_eq_none.mpr hkept]

lemma Accepted.name_root_mem (h : Accepted rules options g) :
    g.root.name ∈ rules.map Rule.name := by
  obtain ⟨r, hr, hlink⟩ := h.exists_root
  rw [← hlink, Rule.name_link]
  exact List.mem_map_of_mem hr

lemma name_root {first : Rule} {rest : List Rule}
    (h : (ofDefinitions (first :: rest) options).1 = .ok g) :
    g.root.name = options.entry.getD first.name :=
  (Definitions.mem_of_find? (rule?_entry h)).2

/-- The log of accepted definitions reports those that cannot be reached from the entry. -/
lemma unreachable?_log (h : (ofDefinitions rules options).1 = .ok g) :
    (ofDefinitions rules options).2.filterMap LogMessage.unreachable? =
      (Definitions.unreachable rules g.root.name).map Rule.name := by
  cases rules with
  | nil => cases h
  | cons first rest =>
    rw [(entry_of_ofDefinitions h).2, List.filterMap_append, Definitions.unreachable?_linkAll,
      List.nil_append, name_root h, Definitions.unreachable?_warnings]

lemma reachablePart_unreported (h : (ofDefinitions rules options).1 = .ok g) :
    Definitions.ReachablePart rules g.root.name
      (Definitions.unreported (ofDefinitions rules options).2 rules) where
  sublist := List.filter_sublist
  mem_iff r := by
    have haccepted := accepted_of_ofDefinitions h
    have hunreachable := fun u => Definitions.mem_unreachable haccepted.distinct
      haccepted.name_root_mem (r := u)
    rw [Definitions.unreported, unreachable?_log h, List.mem_filter, and_congr_right_iff]
    intro hr
    have hreported : r.name ∈ (Definitions.unreachable rules g.root.name).map Rule.name ↔
        ¬ Definitions.Reaches rules g.root.name r.name := by
      constructor
      · intro hmem
        obtain ⟨u, hu, hname⟩ := List.mem_map.mp hmem
        rw [← hname]
        exact ((hunreachable u).mp hu).2
      · intro hnot
        exact List.mem_map_of_mem ((hunreachable r).mpr ⟨hr, hnot⟩)
    simp [hreported]

/-- Leaving out what is reported as unreachable. -/
lemma exists_ofDefinitions_kept (h : (ofDefinitions rules options).1 = .ok g)
    (hpart : Definitions.ReachablePart rules g.root.name kept) :
    ∃ g', (ofDefinitions kept options).1 = .ok g' ∧ g'.root = g.root := by
  have haccepted := accepted_of_ofDefinitions h
  cases rules with
  | nil => cases h
  | cons first rest =>
    have hname := name_root h
    have hwellFormed : Definitions.WellFormed kept options := by
      refine hpart.wellFormed (exists_ofDefinitions_iff.mp ⟨g, h⟩) haccepted.name_root_mem ?_
      intro name hentry
      rw [hname, hentry, Option.getD_some]
    obtain ⟨g', h'⟩ := exists_ofDefinitions_iff.mpr hwellFormed
    refine ⟨g', h', ?_⟩
    have haccepted' := accepted_of_ofDefinitions h'
    have hname' : g'.root.name = g.root.name := by
      cases kept with
      | nil => cases h'
      | cons first' rest' =>
        rw [name_root h', hname]
        cases hentry : options.entry with
        | some name => rfl
        | none =>
          rw [hentry, Option.getD_none] at hname
          rw [hname] at hpart
          obtain ⟨_, hcons⟩ := hpart.exists_cons haccepted.distinct
          rw [(List.cons.inj hcons).1]
    have hroot : g'.graph g'.root.name = g.graph g.root.name := by
      rw [hname', haccepted'.graph_eq, haccepted.graph_eq, hpart.find?_eq haccepted.distinct .refl]
    rw [graph, graph, haccepted.rule?_name haccepted.root_mem,
      haccepted'.rule?_name haccepted'.root_mem] at hroot
    exact Option.some.inj hroot

/-- Definitions that are reported as unreachable are dead: they are those that no chain of
references leads to from the entry, and without them the others make a grammar with the same entry
that has nothing unreachable and gives the same trees and errors. Chains follow the names of targets
as matches follow links, so no link may have been set to another definition beforehand. -/
theorem unreachable_dead (h : (ofDefinitions rules options).1 = .ok g) :
    let kept := Definitions.unreported (ofDefinitions rules options).2 rules
    (∀ r, r ∈ kept ↔ r ∈ rules ∧ Definitions.Reaches rules g.root.name r.name) ∧
    ∃ g', (ofDefinitions kept options).1 = .ok g' ∧ g'.root = g.root ∧
      (∀ message ∈ (ofDefinitions kept options).2, message.isWarning = false) ∧
      (Definitions.LinkedAsNamed rules → ∀ source,
        g'.matchPrefix source = g.matchPrefix source ∧ g'.parse source = g.parse source ∧
        ∀ r ∈ kept, g'.parseRule r.name source = g.parseRule r.name source) := by
  intro kept
  have haccepted := accepted_of_ofDefinitions h
  have hpart : Definitions.ReachablePart rules g.root.name kept := reachablePart_unreported h
  obtain ⟨g', h', hroot⟩ := exists_ofDefinitions_kept h hpart
  have haccepted' := accepted_of_ofDefinitions h'
  refine ⟨hpart.mem_iff, g', h', hroot, ?_, fun hlinks source => ?_⟩
  · have hlog := unreachable?_log h'
    rw [hroot, hpart.unreachable_eq_nil haccepted.distinct haccepted.name_root_mem, List.map_nil,
      List.filterMap_eq_nil_iff] at hlog
    intro message hmessage
    rw [LogMessage.isWarning_eq_isSome, hlog message hmessage]
    rfl
  · have hrun : ∀ r ∈ kept, g'.run r.link source = g.run r.link source := fun r hr =>
      run_congr (haccepted'.options_eq.trans haccepted.options_eq.symm)
        (haccepted.attemptWithin_reached haccepted' hlinks hpart hr) source
    obtain ⟨root, hkept, hlink⟩ := haccepted'.exists_root
    rw [hroot] at hlink
    obtain ⟨hmatch, hparse⟩ := matchPrefix_congr hroot (hlink ▸ hrun root hkept)
    refine ⟨hmatch, hparse, fun r hr => ?_⟩
    have hrules : r ∈ rules := ((hpart.mem_iff r).mp hr).1
    exact parseRule_congr (haccepted.rule?_link hrules) (haccepted'.rule?_link hr) (hrun r hr)

/-- A list of letters behind a definition that only refers to itself. -/
theorem unreachable_dead_list :
    let dead : Rule := .concat "dead"
      [.literal "'b'" [98], .optional "dead?" (.reference "dead" "dead" none)]
    let list : Rule := .concat "list"
      [.literal "'a'" [97], .optional "list?" (.reference "list" "list" none)]
    let options : Options := { entry := some "list" }
    let kept := Definitions.unreported (ofDefinitions [dead, list] options).2 [dead, list]
    Definitions.LinkedAsNamed [dead, list] ∧ kept = [list] ∧
      ∃ g g', (ofDefinitions [dead, list] options).1 = .ok g ∧
        (ofDefinitions kept options).1 = .ok g' ∧ g'.root = g.root ∧
        g'.parse (.ofBytes [97, 97]) = g.parse (.ofBytes [97, 97]) := by
  intro dead list options kept
  have hreferences : ∀ r ∈ [dead, list], ∀ reference ∈ r.references, reference.2 = false := by
    decide
  have hlinks : Definitions.LinkedAsNamed [dead, list] :=
    Definitions.linkedAsNamed_of_unlinked fun r hr =>
      Rule.unlinked_of_references (hreferences r hr)
  have h : ∃ g, (ofDefinitions [dead, list] options).1 = .ok g := ⟨_, rfl⟩
  obtain ⟨g, hg⟩ := h
  obtain ⟨-, g', hg', hroot, -, hresults⟩ := unreachable_dead hg
  exact ⟨hlinks, rfl, g, g', hg, hg', hroot, (hresults hlinks _).2.1⟩

end Grammar

end Peg
