import Peg.Proofs.Grammar.SamePosition

/-!
# Well-formed definitions

`Definitions.WellFormed` says without any check what definitions have to be like, and
`Definitions.Flaw` what is the first thing wrong with others. The checks of `Grammar.ofDefinitions`
accept just the well-formed definitions, and report just the first flaw of the others.
-/

namespace Peg

/-! ### Rules in preorder -/

namespace Rule

mutual

/-- The rule and, behind it, all that its parts are built from, one part after the other. -/
def preorder : Rule → List Rule
  | .literal name bytes => [.literal name bytes]
  | .pattern name p => [.pattern name p]
  | .reference name target link => [.reference name target link]
  | .concat name rs => .concat name rs :: preorderOfAll rs
  | .plus name r => .plus name r :: r.preorder
  | .star name r => .star name r :: r.preorder
  | .optional name r => .optional name r :: r.preorder
  | .alternate name r s => .alternate name r s :: (r.preorder ++ s.preorder)
  | .discard name r => .discard name r :: r.preorder

def preorderOfAll : List Rule → List Rule
  | [] => []
  | r :: rs => r.preorder ++ preorderOfAll rs

end

@[simp] lemma preorderOfAll_eq_flatMap (rs : List Rule) :
    preorderOfAll rs = rs.flatMap preorder := by
  induction rs with
  | nil => rfl
  | cons r rs ih => simp [preorderOfAll, ih]

lemma preorder_eq (r : Rule) : r.preorder = r :: r.dependencies.flatMap preorder := by
  cases r <;> simp [preorder, dependencies]

/-- The preorder holds just what the rule contains. -/
lemma mem_preorder {rule inner : Rule} : inner ∈ rule.preorder ↔ rule.Contains inner := by
  constructor
  · intro h
    induction rule using Rule.inductionOn with
    | literal | pattern | reference =>
      obtain rfl := List.mem_singleton.mp h
      exact .refl
    | concat name parts ih =>
      rw [preorder_eq, List.mem_cons, List.mem_flatMap] at h
      rcases h with rfl | ⟨part, hpart, h⟩
      · exact .refl
      · exact .of_part hpart (ih part hpart h)
    | plus name child ih | star name child ih | optional name child ih | discard name child ih =>
      rcases List.mem_cons.mp h with rfl | h
      · exact .refl
      · exact .of_part (List.mem_singleton_self child) (ih h)
    | alternate name left right ihl ihr =>
      rw [preorder, List.mem_cons, List.mem_append] at h
      rcases h with rfl | h | h
      · exact .refl
      · exact .of_part (by simp [dependencies]) (ihl h)
      · exact .of_part (by simp [dependencies]) (ihr h)
  · intro h
    induction h using Relation.ReflTransGen.head_induction_on with
    | refl => simp [preorder_eq inner]
    | @head r part hpart _ ih =>
      rw [preorder_eq]
      exact List.mem_cons_of_mem r (List.mem_flatMap.mpr ⟨part, hpart, ih⟩)

end Rule

/-! ### Well-formed definitions -/

/-- The rule is a reference to something that is not defined. -/
def Rule.Dangles (rules : List Rule) (r : Rule) : Prop :=
  ∃ name target link, r = .reference name target link ∧ target ∉ rules.map Rule.name

/-- All that is referred to anywhere in the rule is defined. -/
def Rule.RefersWithin (rules : List Rule) (r : Rule) : Prop :=
  ∀ inner, r.Contains inner → ¬ inner.Dangles rules

namespace Definitions

/-- The entry rule, if one is asked for, is defined. -/
def DefinesEntry (rules : List Rule) (options : Options) : Prop :=
  ∀ name ∈ options.entry, name ∈ rules.map Rule.name

/-- There are definitions, no two of the same name, the entry rule and all that is referred to
anywhere are among them, and no definition calls itself at its own position. -/
structure WellFormed (rules : List Rule) (options : Options) : Prop where
  nonempty : rules ≠ []
  distinct : (rules.map Rule.name).Nodup
  entry : DefinesEntry rules options
  defined : ∀ r ∈ rules, r.RefersWithin rules
  acyclic : Acyclic options.lenientDiscard rules

/-- The first thing that keeps the definitions from being well-formed, and the error that says so.
A duplicate is the first definition with the name of an earlier one, and an undefined reference is
the first one in preorder of the first definition that has any. -/
inductive Flaw (rules : List Rule) (options : Options) : GrammarError → Prop where
  | empty (h : rules = []) : Flaw rules options .empty
  | duplicate {before after : List Rule} {r : Rule} (hrules : rules = before ++ r :: after)
      (hbefore : (before.map Rule.name).Nodup) (hr : r.name ∈ before.map Rule.name) :
      Flaw rules options (.duplicateRule r.name 0)
  | entry {name : String} (hne : rules ≠ []) (hdistinct : (rules.map Rule.name).Nodup)
      (hentry : options.entry = some name) (hname : name ∉ rules.map Rule.name) :
      Flaw rules options (.validation (.undefinedEntry name))
  | reference {before after front back : List Rule} {r : Rule} {name target : String}
      {link : Option String} (hdistinct : (rules.map Rule.name).Nodup)
      (hentry : DefinesEntry rules options) (hrules : rules = before ++ r :: after)
      (hbefore : ∀ r' ∈ before, r'.RefersWithin rules)
      (hr : r.preorder = front ++ .reference name target link :: back)
      (hfront : ∀ inner ∈ front, ¬ inner.Dangles rules) (htarget : target ∉ rules.map Rule.name) :
      Flaw rules options (.validation (.undefinedRule target r.name))
  | leftRecursion {cycle : List String} (hne : rules ≠ [])
      (hdistinct : (rules.map Rule.name).Nodup) (hentry : DefinesEntry rules options)
      (hdefined : ∀ r ∈ rules, r.RefersWithin rules)
      (hcycle : leftRecursion? options.lenientDiscard rules = some cycle) :
      Flaw rules options (.validation (.leftRecursion cycle))

/-! ### The checks one by one -/

lemma isSome_find? {rules : List Rule} {name : String} :
    (find? rules name).isSome = true ↔ name ∈ rules.map Rule.name := by
  simp [find?, List.find?_isSome]

lemma find?_eq_none {rules : List Rule} {name : String} :
    find? rules name = none ↔ name ∉ rules.map Rule.name := by
  rw [← isSome_find?, Option.not_isSome_iff_eq_none]

lemma firstDuplicate?_nil {rules : List Rule} :
    firstDuplicate? [] rules = none ↔ (rules.map Rule.name).Nodup := by
  simp [firstDuplicate?_eq_none]

/-- The first duplicate is the first name that occurs before. -/
lemma firstDuplicate?_eq_some {seen : List String} {rules : List Rule} {name : String} :
    firstDuplicate? seen rules = some name ↔ ∃ before r after, rules = before ++ r :: after ∧
      firstDuplicate? seen before = none ∧ (r.name ∈ seen ∨ r.name ∈ before.map Rule.name) ∧
      r.name = name := by
  induction rules generalizing seen with
  | nil => simp [firstDuplicate?]
  | cons first rest ih =>
    rw [firstDuplicate?]
    by_cases hseen : first.name ∈ seen
    · rw [if_pos (by simpa using hseen), Option.some.injEq]
      constructor
      · rintro rfl
        exact ⟨[], first, rest, rfl, rfl, Or.inl hseen, rfl⟩
      · rintro ⟨before, r, after, hrules, hbefore, -, rfl⟩
        cases before with
        | nil => rw [(List.cons.inj hrules).1]
        | cons b bs =>
          obtain ⟨rfl, -⟩ := List.cons.inj hrules
          simp [firstDuplicate?, hseen] at hbefore
    · rw [if_neg (by simpa using hseen), ih]
      constructor
      · rintro ⟨before, r, after, rfl, hbefore, hr, rfl⟩
        refine ⟨first :: before, r, after, rfl, ?_, ?_, rfl⟩
        · rwa [firstDuplicate?, if_neg (by simpa using hseen)]
        · simpa [or_left_comm, or_assoc] using hr
      · rintro ⟨before, r, after, hrules, hbefore, hr, rfl⟩
        cases before with
        | nil =>
          obtain ⟨rfl, -⟩ := List.cons.inj hrules
          simp [hseen] at hr
        | cons b bs =>
          obtain ⟨rfl, rfl⟩ := List.cons.inj hrules
          rw [firstDuplicate?, if_neg (by simpa using hseen)] at hbefore
          refine ⟨bs, r, after, rfl, hbefore, ?_, rfl⟩
          simpa [or_left_comm, or_assoc] using hr

/-- The target of the rule if it is a reference to something that is not defined. -/
def missing? (defined : String → Bool) : Rule → Option String
  | .reference _ target _ => if defined target then none else some target
  | _ => none

variable {defined : String → Bool}

lemma linkReferences_append (rule : String) (front back : List (String × Bool)) :
    (linkReferences defined rule (front ++ back)).2 =
      (linkReferences defined rule front).2.or (linkReferences defined rule back).2 := by
  induction front with
  | nil => rfl
  | cons reference rest ih =>
    rw [List.cons_append, linkReferences, linkReferences]
    split
    · exact ih
    · rfl

/-- Linking stops at the first reference in preorder that cannot be linked. -/
lemma linkReferences_references (caller : String) (r : Rule) :
    (linkReferences defined caller r.references).2 = r.preorder.findSome? (missing? defined) := by
  induction r using Rule.inductionOn with
  | literal | pattern => rfl
  | reference name target link =>
    by_cases htarget : defined target = true <;>
      simp [Rule.references, Rule.preorder, linkReferences, missing?, htarget]
  | concat name parts ih =>
    rw [Rule.references, Rule.preorder, List.findSome?_cons_of_isNone rfl]
    induction parts with
    | nil => rfl
    | cons part rest ih' =>
      rw [Rule.allReferences, linkReferences_append, Rule.preorderOfAll, List.findSome?_append,
        ih part List.mem_cons_self, ih' fun part hpart => ih part (List.mem_cons_of_mem _ hpart)]
  | plus name child ih | star name child ih | optional name child ih | discard name child ih =>
    exact ih
  | alternate name left right ihl ihr =>
    rw [Rule.references, linkReferences_append, ihl, ihr, Rule.preorder,
      List.findSome?_cons_of_isNone rfl, List.findSome?_append]

/-- Linking stops at the first definition with a reference that cannot be linked. -/
lemma linkAll_eq_findSome? (rules : List Rule) :
    (linkAll defined rules).2 = rules.findSome? fun r =>
      (r.preorder.findSome? (missing? defined)).map (.undefinedRule · r.name) := by
  induction rules with
  | nil => rfl
  | cons r rs ih =>
    rw [linkAll, List.findSome?_cons, ← linkReferences_references r.name r]
    rcases hlinked : linkReferences defined r.name r.references with ⟨log, _ | missing⟩
    · exact ih
    · rfl

section

variable {rules : List Rule}

lemma missing?_eq_some {rule : Rule} {target : String} :
    missing? (fun name => (find? rules name).isSome) rule = some target ↔
      ∃ name link, rule = .reference name target link ∧ target ∉ rules.map Rule.name := by
  cases rule with
  | reference name target' link =>
    simp only [missing?, ← isSome_find?, Rule.reference.injEq]
    split
    · rename_i hdefined
      refine ⟨nofun, ?_⟩
      rintro ⟨name, link, ⟨-, rfl, -⟩, htarget⟩
      exact absurd hdefined htarget
    · rename_i htarget
      constructor
      · rintro ⟨⟩
        exact ⟨name, link, ⟨rfl, rfl, rfl⟩, htarget⟩
      · rintro ⟨name, link, ⟨-, rfl, -⟩, -⟩
        rfl
  | _ => simp [missing?]

lemma missing?_eq_none {rule : Rule} :
    missing? (fun name => (find? rules name).isSome) rule = none ↔ ¬ rule.Dangles rules := by
  rw [Option.eq_none_iff_forall_ne_some, Rule.Dangles]
  simp only [ne_eq, missing?_eq_some, not_exists]
  exact ⟨fun h name target link => h target name link, fun h target name link => h name target link⟩

lemma findSome?_missing?_eq_none {r : Rule} :
    r.preorder.findSome? (missing? fun name => (find? rules name).isSome) = none ↔
      r.RefersWithin rules := by
  simp only [List.findSome?_eq_none_iff, missing?_eq_none, Rule.mem_preorder, Rule.RefersWithin]

/-- All references can be linked if and only if none dangles. -/
lemma linkAll_eq_none_iff :
    (linkAll (fun name => (find? rules name).isSome) rules).2 = none ↔
      ∀ r ∈ rules, r.RefersWithin rules := by
  rw [linkAll_eq_findSome?, List.findSome?_eq_none_iff]
  exact forall₂_congr fun r _ => Option.map_eq_none_iff.trans findSome?_missing?_eq_none

/-- The first reference that cannot be linked is the first one that dangles. -/
lemma linkAll_eq_some_iff {e : ValidationError} :
    (linkAll (fun name => (find? rules name).isSome) rules).2 = some e ↔
      ∃ before r after front name target link back, rules = before ++ r :: after ∧
        (∀ r' ∈ before, r'.RefersWithin rules) ∧
        r.preorder = front ++ .reference name target link :: back ∧
        (∀ inner ∈ front, ¬ inner.Dangles rules) ∧ target ∉ rules.map Rule.name ∧
        e = .undefinedRule target r.name := by
  rw [linkAll_eq_findSome?, List.findSome?_eq_some_iff]
  simp only [Option.map_eq_some_iff, Option.map_eq_none_iff, findSome?_missing?_eq_none]
  constructor
  · rintro ⟨before, r, after, hrules, ⟨target, htarget, rfl⟩, hbefore⟩
    obtain ⟨front, inner, back, hr, hinner, hfront⟩ := List.findSome?_eq_some_iff.mp htarget
    obtain ⟨name, link, rfl, hmissing⟩ := missing?_eq_some.mp hinner
    exact ⟨before, r, after, front, name, target, link, back, hrules, hbefore, hr,
      fun inner hmem => missing?_eq_none.mp (hfront inner hmem), hmissing, rfl⟩
  · rintro ⟨before, r, after, front, name, target, link, back, hrules, hbefore, hr, hfront,
      hmissing, rfl⟩
    refine ⟨before, r, after, hrules, ⟨target, ?_, rfl⟩, hbefore⟩
    exact List.findSome?_eq_some_iff.mpr ⟨front, _, back, hr,
      missing?_eq_some.mpr ⟨name, link, rfl, hmissing⟩,
      fun inner hmem => missing?_eq_none.mpr (hfront inner hmem)⟩

end

/-! ### All checks -/

/-- The entry rule is missing if and only if one is asked for and not defined; the first definition
takes its place otherwise. -/
lemma find?_entry_eq_none {first : Rule} {rest : List Rule} {options : Options} :
    find? (first :: rest) (options.entry.getD first.name) = none ↔
      ∃ name, options.entry = some name ∧ name ∉ (first :: rest).map Rule.name := by
  rw [find?_eq_none]
  cases options.entry with
  | none => simp
  | some name => simp

lemma definesEntry_of_find? {first : Rule} {rest : List Rule} {options : Options} {root : Rule}
    (h : find? (first :: rest) (options.entry.getD first.name) = some root) :
    DefinesEntry (first :: rest) options := by
  intro name hentry
  by_contra hname
  rw [find?_entry_eq_none.mpr ⟨name, hentry, hname⟩] at h
  cases h

lemma DefinesEntry.exists_find? {first : Rule} {rest : List Rule} {options : Options}
    (h : DefinesEntry (first :: rest) options) :
    ∃ root, find? (first :: rest) (options.entry.getD first.name) = some root := by
  rw [← Option.ne_none_iff_exists', ne_eq, find?_entry_eq_none]
  rintro ⟨name, hentry, hname⟩
  exact hname (h name hentry)

end Definitions

namespace Grammar

open Definitions (DefinesEntry WellFormed Flaw)

variable {rules : List Rule} {options : Options} {g : Grammar}

/-- Whatever the checks report is the first flaw of the definitions. -/
lemma flaw_of_ofDefinitions {e : GrammarError} (h : (ofDefinitions rules options).1 = .error e) :
    Flaw rules options e := by
  cases rules with
  | nil =>
    obtain rfl := Except.error.inj h
    exact .empty rfl
  | cons first rest =>
    rw [ofDefinitions] at h
    simp only at h
    split at h
    · rename_i name hduplicate
      obtain rfl := Except.error.inj h
      obtain ⟨before, r, after, hrules, hbefore, hr, rfl⟩ :=
        Definitions.firstDuplicate?_eq_some.mp hduplicate
      exact .duplicate hrules (Definitions.firstDuplicate?_nil.mp hbefore)
        (hr.resolve_left List.not_mem_nil)
    · rename_i hduplicate
      have hdistinct := Definitions.firstDuplicate?_nil.mp hduplicate
      split at h
      · rename_i hroot
        obtain rfl := Except.error.inj h
        obtain ⟨name, hentry, hname⟩ := Definitions.find?_entry_eq_none.mp hroot
        rw [hentry]
        exact .entry (List.cons_ne_nil first rest) hdistinct hentry hname
      · rename_i root hroot
        have hentry := Definitions.definesEntry_of_find? hroot
        split at h
        · rename_i log invalid hlinked
          obtain rfl := Except.error.inj h
          obtain ⟨before, r, after, front, name, target, link, back, hrules, hbefore, hr, hfront,
            htarget, rfl⟩ := Definitions.linkAll_eq_some_iff.mp (congrArg Prod.snd hlinked)
          exact .reference hdistinct hentry hrules hbefore hr hfront htarget
        · rename_i log hlinked
          have hdefined := Definitions.linkAll_eq_none_iff.mp (congrArg Prod.snd hlinked)
          split at h
          · rename_i cycle hcycle
            obtain rfl := Except.error.inj h
            exact .leftRecursion (List.cons_ne_nil first rest) hdistinct hentry hdefined hcycle
          · cases h

/-- What the checks come to once the first three of them have passed. -/
lemma ofDefinitions_of_entry (hne : rules ≠ []) (hdistinct : (rules.map Rule.name).Nodup)
    (hentry : DefinesEntry rules options) : ∃ root,
    (ofDefinitions rules options).1 =
      match (Definitions.linkAll (fun name => (Definitions.find? rules name).isSome) rules).2 with
      | some e => .error (.validation e)
      | none =>
        match Definitions.leftRecursion? options.lenientDiscard rules with
        | some cycle => .error (.validation (.leftRecursion cycle))
        | none => .ok { rules := rules.map Rule.link, root, options } := by
  cases rules with
  | nil => exact absurd rfl hne
  | cons first rest =>
    obtain ⟨root, hroot⟩ := hentry.exists_find?
    refine ⟨root.link, ?_⟩
    rw [ofDefinitions]
    simp only [Definitions.firstDuplicate?_nil.mpr hdistinct, hroot]
    rcases Definitions.linkAll _ (first :: rest) with ⟨log, _ | e⟩
    · cases Definitions.leftRecursion? options.lenientDiscard (first :: rest) <;> rfl
    · rfl

/-- Every first flaw is reported. -/
lemma ofDefinitions_of_flaw {e : GrammarError} (h : Flaw rules options e) :
    (ofDefinitions rules options).1 = .error e := by
  cases h with
  | empty h => rw [h, ofDefinitions]
  | @duplicate before after r hrules hbefore hr =>
    have hduplicate : Definitions.firstDuplicate? [] rules = some r.name :=
      Definitions.firstDuplicate?_eq_some.mpr ⟨before, r, after, hrules,
        Definitions.firstDuplicate?_nil.mpr hbefore, Or.inr hr, rfl⟩
    cases rules with
    | nil => simp [Definitions.firstDuplicate?] at hduplicate
    | cons first rest =>
      rw [ofDefinitions]
      simp only [hduplicate]
  | entry hne hdistinct hentry hname =>
    cases rules with
    | nil => exact absurd rfl hne
    | cons first rest =>
      rw [ofDefinitions]
      simp only [Definitions.firstDuplicate?_nil.mpr hdistinct,
        Definitions.find?_entry_eq_none.mpr ⟨_, hentry, hname⟩]
      rw [hentry, Option.getD_some]
  | @reference before after front back r name target link hdistinct hentry hrules hbefore hr hfront
      htarget =>
    have hne : rules ≠ [] := hrules ▸ List.append_ne_nil_of_right_ne_nil before (by simp)
    obtain ⟨root, hresult⟩ := ofDefinitions_of_entry hne hdistinct hentry
    rw [hresult, Definitions.linkAll_eq_some_iff.mpr ⟨before, r, after, front, name, target, link,
      back, hrules, hbefore, hr, hfront, htarget, rfl⟩]
  | leftRecursion hne hdistinct hentry hdefined hcycle =>
    obtain ⟨root, hresult⟩ := ofDefinitions_of_entry hne hdistinct hentry
    rw [hresult, Definitions.linkAll_eq_none_iff.mpr hdefined, hcycle]

/-- Well-formed definitions are accepted, and no others are. -/
lemma exists_ofDefinitions_iff :
    (∃ g, (ofDefinitions rules options).1 = .ok g) ↔ WellFormed rules options := by
  constructor
  · rintro ⟨g, h⟩
    have haccepted := accepted_of_ofDefinitions h
    have hflawless : ∀ e, ¬ Flaw rules options e := by
      intro e he
      cases (ofDefinitions_of_flaw he).symm.trans h
    have hne : rules ≠ [] := fun hempty => hflawless _ (.empty hempty)
    refine ⟨hne, haccepted.distinct, ?_, ?_, ?_⟩
    · intro name hentry
      by_contra hname
      exact hflawless _ (.entry hne haccepted.distinct hentry hname)
    · rintro r hr _ hcontains ⟨name, target, link, rfl, htarget⟩
      have hdefined := haccepted.defined r hr name target link hcontains
      exact htarget (Definitions.isSome_find?.mp hdefined)
    · exact (Definitions.leftRecursion?_eq_none haccepted.distinct).mp haccepted.leftRecursion
  · intro h
    obtain ⟨root, hresult⟩ := ofDefinitions_of_entry h.nonempty h.distinct h.entry
    rw [hresult, Definitions.linkAll_eq_none_iff.mpr h.defined,
      (Definitions.leftRecursion?_eq_none h.distinct).mpr h.acyclic]
    exact ⟨_, rfl⟩

end Grammar

end Peg
