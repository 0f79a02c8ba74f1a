import Peg.Proofs.Grammar.LeftRecursion

/-!
# Calls at one position

Which rules may match nothing, and which rules call which others at their own position, said by the
smallest relations that are closed under what rules may do. The collected names and the left calls
are just these, so the check for left recursion finds a cycle if and only if there is one.
-/

namespace Peg

/-! ### Rules that may match nothing -/

namespace Rule

/-- The rule may match nothing, as far as the definitions and the lengths of patterns tell. -/
inductive MayBeEmpty (lenient : Bool) (rules : List Rule) : Rule → Prop where
  | literal {name : String} : MayBeEmpty lenient rules (.literal name [])
  | pattern {name : String} {p : Pattern} (h : p.mayBeEmpty = true) :
      MayBeEmpty lenient rules (.pattern name p)
  | reference {name : String} {link : Option String} {r : Rule} (hr : r ∈ rules)
      (h : MayBeEmpty lenient rules r) : MayBeEmpty lenient rules (.reference name r.name link)
  | concat {name : String} {parts : List Rule}
      (h : ∀ part ∈ parts, MayBeEmpty lenient rules part) :
      MayBeEmpty lenient rules (.concat name parts)
  | plus {name : String} {child : Rule} (h : MayBeEmpty lenient rules child) :
      MayBeEmpty lenient rules (.plus name child)
  | star {name : String} {child : Rule} : MayBeEmpty lenient rules (.star name child)
  | optional {name : String} {child : Rule} : MayBeEmpty lenient rules (.optional name child)
  | left {name : String} {left right : Rule} (h : MayBeEmpty lenient rules left) :
      MayBeEmpty lenient rules (.alternate name left right)
  | right {name : String} {left right : Rule} (h : MayBeEmpty lenient rules right) :
      MayBeEmpty lenient rules (.alternate name left right)
  | discard {name : String} {child : Rule} (h : MayBeEmpty lenient rules child) :
      MayBeEmpty lenient rules (.discard name child)
  | lenientDiscard {name : String} {child : Rule} (h : lenient = true) :
      MayBeEmpty lenient rules (.discard name child)

variable {lenient : Bool} {rules : List Rule} {named : String → Bool}

lemma allNullable_eq_true {rs : List Rule} :
    allNullable lenient named rs = true ↔ ∀ r ∈ rs, r.isNullable lenient named = true := by
  induction rs with
  | nil => simp [allNullable]
  | cons r rs ih => simp [allNullable, ih]

/-- If the names are those of rules that may match nothing, then so may every nullable rule. -/
lemma mayBeEmpty_of_isNullable
    (hnamed : ∀ name, named name = true → ∃ r ∈ rules, r.name = name ∧ MayBeEmpty lenient rules r)
    {rule : Rule} (h : rule.isNullable lenient named = true) : MayBeEmpty lenient rules rule := by
  induction rule using Rule.inductionOn with
  | literal name bytes =>
    obtain rfl : bytes = [] := by simpa [isNullable] using h
    exact .literal
  | pattern name p => exact .pattern h
  | reference name target link =>
    obtain ⟨r, hr, rfl, hempty⟩ := hnamed target h
    exact .reference hr hempty
  | concat name parts ih =>
    rw [isNullable, allNullable_eq_true] at h
    exact .concat fun part hpart => ih part hpart (h part hpart)
  | plus name child ih => exact .plus (ih h)
  | star name child => exact .star
  | optional name child => exact .optional
  | alternate name left right ihl ihr =>
    rw [isNullable, Bool.or_eq_true] at h
    rcases h with h | h
    · exact .left (ihl h)
    · exact .right (ihr h)
  | discard name child ih =>
    rw [isNullable, Bool.or_eq_true] at h
    rcases h with h | h
    · exact .lenientDiscard h
    · exact .discard (ih h)

end Rule

namespace Definitions

variable {lenient : Bool} {rules : List Rule} {known : List String}

/-- The names are those of rules that may match nothing. -/
def OfEmpty (lenient : Bool) (rules : List Rule) (known : List String) : Prop :=
  ∀ name ∈ known, ∃ r ∈ rules, r.name = name ∧ r.MayBeEmpty lenient rules

lemma OfEmpty.nullablePass (h : OfEmpty lenient rules known) {rs : List Rule} (hrs : rs ⊆ rules) :
    OfEmpty lenient rules (nullablePass lenient rs known) := by
  induction rs with
  | nil => exact h
  | cons r rs ih =>
    obtain ⟨hr, hrs⟩ := List.cons_subset.mp hrs
    rw [nullablePass_cons]
    split
    · exact ih hrs
    split
    · rename_i hnullable
      refine List.forall_mem_cons.mpr ⟨⟨r, hr, rfl, ?_⟩, ih hrs⟩
      exact Rule.mayBeEmpty_of_isNullable (fun name hname => ih hrs name (by simpa using hname))
        hnullable
    · exact ih hrs

lemma OfEmpty.nullableWithin (h : OfEmpty lenient rules known) (fuel : Nat) :
    OfEmpty lenient rules (nullableWithin lenient rules fuel known) := by
  induction fuel generalizing known with
  | zero => exact h
  | succ fuel ih =>
    rw [Definitions.nullableWithin]
    split
    · exact h
    · exact ih (h.nullablePass (List.Subset.refl _))

lemma ofEmpty_nullable : OfEmpty lenient rules (nullable lenient rules) :=
  OfEmpty.nullableWithin (by simp [OfEmpty]) _

/-- Given the collected names, just the rules that may match nothing are nullable. -/
theorem isNullable_nullable {rule : Rule} :
    rule.isNullable lenient (nullable lenient rules).contains = true ↔
      rule.MayBeEmpty lenient rules := by
  refine ⟨Rule.mayBeEmpty_of_isNullable fun name hname =>
    ofEmpty_nullable name (by simpa using hname), fun h => ?_⟩
  induction h with
  | literal | star | optional => rfl
  | pattern h => exact h
  | reference hr _ ih => simpa [Rule.isNullable] using mem_nullable_of_isNullable hr ih
  | concat _ ih => exact Rule.allNullable_eq_true.mpr ih
  | plus _ ih => exact ih
  | left _ ih => rw [Rule.isNullable, ih, Bool.true_or]
  | right _ ih => rw [Rule.isNullable, ih, Bool.or_true]
  | discard _ ih => rw [Rule.isNullable, ih, Bool.or_true]
  | lenientDiscard h => rw [Rule.isNullable, h, Bool.true_or]

end Definitions

/-! ### References at the position of the rule -/

namespace Rule

/-- The rule may follow a reference to the target at its own position. -/
inductive CallsAtOnce (lenient : Bool) (rules : List Rule) (target : String) : Rule → Prop where
  | reference {name : String} {link : Option String} :
      CallsAtOnce lenient rules target (.reference name target link)
  | part {name : String} {before after : List Rule} {part : Rule}
      (hbefore : ∀ r ∈ before, r.MayBeEmpty lenient rules)
      (h : CallsAtOnce lenient rules target part) :
      CallsAtOnce lenient rules target (.concat name (before ++ part :: after))
  | plus {name : String} {child : Rule} (h : CallsAtOnce lenient rules target child) :
      CallsAtOnce lenient rules target (.plus name child)
  | star {name : String} {child : Rule} (h : CallsAtOnce lenient rules target child) :
      CallsAtOnce lenient rules target (.star name child)
  | optional {name : String} {child : Rule} (h : CallsAtOnce lenient rules target child) :
      CallsAtOnce lenient rules target (.optional name child)
  | left {name : String} {left right : Rule} (h : CallsAtOnce lenient rules target left) :
      CallsAtOnce lenient rules target (.alternate name left right)
  | right {name : String} {left right : Rule} (h : CallsAtOnce lenient rules target right) :
      CallsAtOnce lenient rules target (.alternate name left right)
  | discard {name : String} {child : Rule} (h : CallsAtOnce lenient rules target child) :
      CallsAtOnce lenient rules target (.discard name child)

variable {lenient : Bool} {rules : List Rule} {named : String → Bool} {target : String}

/-- A left call of a sequence is one of a part behind nullable ones. -/
lemma exists_of_mem_leftCallsOfAll {parts : List Rule}
    (h : target ∈ leftCallsOfAll lenient named parts) :
    ∃ before part after, parts = before ++ part :: after ∧
      (∀ r ∈ before, r.isNullable lenient named = true) ∧
      target ∈ part.leftCalls lenient named := by
  induction parts with
  | nil => simp [leftCallsOfAll] at h
  | cons head rest ih =>
    rw [leftCallsOfAll] at h
    split at h
    · rename_i hhead
      rcases List.mem_append.mp h with h | h
      · exact ⟨[], head, rest, rfl, by simp, h⟩
      · obtain ⟨before, part, after, rfl, hbefore, hpart⟩ := ih h
        exact ⟨head :: before, part, after, rfl, List.forall_mem_cons.mpr ⟨hhead, hbefore⟩, hpart⟩
    · exact ⟨[], head, rest, rfl, by simp, h⟩

end Rule

namespace Definitions

variable {lenient : Bool} {rules : List Rule} {target : String}

/-- Given the collected names, the left calls are the references at the position of the rule. -/
theorem mem_leftCalls_nullable {rule : Rule} :
    target ∈ rule.leftCalls lenient (nullable lenient rules).contains ↔
      rule.CallsAtOnce lenient rules target := by
  constructor
  · intro h
    induction rule using Rule.inductionOn with
    | literal | pattern => simp [Rule.leftCalls] at h
    | reference name callee link =>
      obtain rfl := List.mem_singleton.mp h
      exact .reference
    | concat name parts ih =>
      obtain ⟨before, part, after, rfl, hbefore, hpart⟩ := Rule.exists_of_mem_leftCallsOfAll h
      exact .part (fun r hr => isNullable_nullable.mp (hbefore r hr)) (ih part (by simp) hpart)
    | plus name child ih => exact .plus (ih h)
    | star name child ih => exact .star (ih h)
    | optional name child ih => exact .optional (ih h)
    | alternate name left right ihl ihr =>
      rcases List.mem_append.mp h with h | h
      · exact .left (ihl h)
      · exact .right (ihr h)
    | discard name child ih => exact .discard (ih h)
  · intro h
    induction h with
    | reference => exact List.mem_singleton_self target
    | part hbefore _ ih =>
      have hnullable := Rule.allNullable_eq_true.mpr fun r hr =>
        isNullable_nullable.mpr (hbefore r hr)
      exact Rule.leftCalls_subset_leftCallsOfAll hnullable ih
    | plus _ ih | star _ ih | optional _ ih | discard _ ih => exact ih
    | left _ ih => exact List.mem_append_left _ ih
    | right _ ih => exact List.mem_append_right _ ih

/-! ### Cycles -/

/-- The definition of the one name may follow a reference to the other one at its own position. -/
def Calls (lenient : Bool) (rules : List Rule) (caller callee : String) : Prop :=
  ∃ r ∈ rules, r.name = caller ∧ r.CallsAtOnce lenient rules callee

/-- No rule calls itself at its own position, whatever the way. -/
def Acyclic (lenient : Bool) (rules : List Rule) : Prop :=
  ∀ name, ¬ Relation.TransGen (Calls lenient rules) name name

lemma exists_of_position? {name : String} {i : Nat} (h : position? rules name = some i) :
    ∃ r, rules[i]? = some r ∧ r.name = name := by
  obtain ⟨hi, hname, -⟩ := List.findIdx?_eq_some_iff_getElem.mp h
  exact ⟨rules[i], List.getElem?_eq_getElem hi, by simpa using hname⟩

lemma exists_position?_of_mem (hdistinct : (rules.map Rule.name).Nodup) {r : Rule}
    (hr : r ∈ rules) :
    ∃ i, position? rules r.name = some i ∧ rules[i]? = some r :=
  exists_position? (find?_of_mem hdistinct hr)

lemma position?_of_getElem? (hdistinct : (rules.map Rule.name).Nodup) {i : Nat} {r : Rule}
    (h : rules[i]? = some r) : position? rules r.name = some i := by
  obtain ⟨k, hk, hget⟩ := exists_position?_of_mem hdistinct (List.mem_of_getElem? h)
  have hlt : k < (rules.map Rule.name).length := by
    rw [List.length_map]
    exact position?_lt hk
  have hsame : (rules.map Rule.name)[k]? = (rules.map Rule.name)[i]? := by
    rw [List.getElem?_map, List.getElem?_map, hget, h]
  obtain rfl := (List.getElem?_inj hlt hdistinct).mp hsame
  exact hk

/-- A path between places is a chain of calls between the names there. -/
lemma calls_of_path {i j : Nat} (h : Relation.TransGen (callGraph lenient rules).Edge i j)
    {r : Rule} (hr : rules[i]? = some r) :
    ∃ r', rules[j]? = some r' ∧ Relation.TransGen (Calls lenient rules) r.name r'.name := by
  have hcalls : ∀ {k l : Nat} {u : Rule}, (callGraph lenient rules).Edge k l → rules[k]? = some u →
      ∃ u', rules[l]? = some u' ∧ Calls lenient rules u.name u'.name := by
    intro k l u hedge hu
    obtain ⟨v, hv, callee, hcallee, hl⟩ := edge_callGraph.mp hedge
    obtain rfl : u = v := Option.some.inj (hu.symm.trans hv)
    obtain ⟨u', hu', rfl⟩ := exists_of_position? hl
    exact ⟨u', hu', u, List.mem_of_getElem? hu, rfl, mem_leftCalls_nullable.mp hcallee⟩
  induction h with
  | single hedge =>
    obtain ⟨r', hr', hcall⟩ := hcalls hedge hr
    exact ⟨r', hr', .single hcall⟩
  | tail _ hedge ih =>
    obtain ⟨u, hu, hpath⟩ := ih
    obtain ⟨r', hr', hcall⟩ := hcalls hedge hu
    exact ⟨r', hr', .tail hpath hcall⟩

/-- A chain of calls between names is a path between their places. -/
lemma path_of_calls (hdistinct : (rules.map Rule.name).Nodup) {caller callee : String}
    (h : Relation.TransGen (Calls lenient rules) caller callee) {i j : Nat}
    (hi : position? rules caller = some i) (hj : position? rules callee = some j) :
    Relation.TransGen (callGraph lenient rules).Edge i j := by
  have hedge : ∀ {name name' : String} {k l : Nat}, Calls lenient rules name name' →
      position? rules name = some k → position? rules name' = some l →
      (callGraph lenient rules).Edge k l := by
    rintro name name' k l ⟨r, hr, rfl, hcalls⟩ hk hl
    obtain ⟨k', hk', hget⟩ := exists_position?_of_mem hdistinct hr
    obtain rfl : k' = k := Option.some.inj (hk'.symm.trans hk)
    exact edge_callGraph.mpr ⟨r, hget, name', mem_leftCalls_nullable.mpr hcalls, hl⟩
  induction h generalizing j with
  | single hcall => exact .single (hedge hcall hi hj)
  | tail _ hcall ih =>
    obtain ⟨r, hr, rfl, -⟩ := id hcall
    obtain ⟨k, hk, -⟩ := exists_position?_of_mem hdistinct hr
    exact .tail (ih hk) (hedge hcall hk hj)

/-- The names at the places are those of the definitions there. -/
lemma mem_names_at {places : List Nat} {name : String} :
    name ∈ (rules.zipIdx.filter fun r => places.contains r.2).map (·.1.name) ↔
      ∃ i ∈ places, ∃ r, rules[i]? = some r ∧ r.name = name := by
  simp only [List.mem_map, List.mem_filter, List.mem_zipIdx_iff_getElem?, Prod.exists]
  constructor
  · rintro ⟨r, i, ⟨hr, hi⟩, rfl⟩
    exact ⟨i, by simpa using hi, r, hr, rfl⟩
  · rintro ⟨i, hi, r, hr, rfl⟩
    exact ⟨r, i, ⟨hr, by simpa using hi⟩, rfl⟩

/-- The check for left recursion finds definitions, in their order, that all call each other. -/
theorem calls_of_leftRecursion? {cycle : List String}
    (h : leftRecursion? lenient rules = some cycle) :
    cycle ≠ [] ∧ cycle.Sublist (rules.map Rule.name) ∧ ∀ caller ∈ cycle, ∀ callee ∈ cycle,
      Relation.TransGen (Calls lenient rules) caller callee := by
  obtain ⟨members, hmembers, rfl⟩ := Option.map_eq_some_iff.mp h
  obtain ⟨hne, hways⟩ := Digraph.cycle_of_cyclicComponent? hmembers
  refine ⟨?_, ?_, ?_⟩
  · obtain ⟨i, hi⟩ := List.exists_mem_of_ne_nil members hne
    obtain ⟨j, hedge, -⟩ := Relation.TransGen.head'_iff.mp (hways i hi i hi)
    obtain ⟨r, hr, -⟩ := edge_callGraph.mp hedge
    exact List.ne_nil_of_mem (mem_names_at.mpr ⟨i, hi, r, hr, rfl⟩)
  · have hnames : rules.map Rule.name = rules.zipIdx.map (·.1.name) := by
      conv_lhs => rw [← List.zipIdx_map_fst 0 rules, List.map_map]
      rfl
    rw [hnames]
    exact List.filter_sublist.map _
  · intro caller hcaller callee hcallee
    obtain ⟨i, hi, r, hr, rfl⟩ := mem_names_at.mp hcaller
    obtain ⟨j, hj, r', hr', rfl⟩ := mem_names_at.mp hcallee
    obtain ⟨last, hlast, hcalls⟩ := calls_of_path (hways i hi j hj) hr
    obtain rfl : r' = last := Option.some.inj (hr'.symm.trans hlast)
    exact hcalls

/-- The check for left recursion finds nothing if and only if there is nothing to find. -/
theorem leftRecursion?_eq_none (hdistinct : (rules.map Rule.name).Nodup) :
    leftRecursion? lenient rules = none ↔ Acyclic lenient rules := by
  rw [leftRecursion?_eq_none_iff]
  constructor
  · intro hnone name hcycle
    obtain ⟨callee, ⟨r, hr, rfl, -⟩, -⟩ := Relation.TransGen.head'_iff.mp hcycle
    obtain ⟨i, hi, -⟩ := exists_position?_of_mem hdistinct hr
    exact hnone i (path_of_calls hdistinct hcycle hi hi)
  · intro hacyclic i hcycle
    obtain ⟨j, hedge, -⟩ := Relation.TransGen.head'_iff.mp hcycle
    obtain ⟨r, hr, -⟩ := edge_callGraph.mp hedge
    obtain ⟨r', hr', hcalls⟩ := calls_of_path hcycle hr
    obtain rfl : r = r' := Option.some.inj (hr.symm.trans hr')
    exact hacyclic r.name hcalls

end Definitions

end Peg
