import Peg.Proofs.Grammar.Order
import Peg.Proofs.Match.Correctness

/-!
# Empty matches

The collected names are the least ones that are closed under what is said of a rule once the names
are given. A rule that matches nothing, at whatever position and after whatever failures, has its
name among them. Without patterns nothing is guessed: a rule has its name among them if and only if
it matches the empty input.
-/

namespace Peg

/-! ### The least closed names -/

namespace Definitions

variable {lenient : Bool} {rules : List Rule} {known : List String}

/-- Every rule that may match nothing, given the names, has one of them. -/
def NullClosed (lenient : Bool) (rules : List Rule) (named : String → Bool) : Prop :=
  ∀ r ∈ rules, r.isNullable lenient named = true → named r.name = true

/-- The names are closed, and no other closed names lack one of them. -/
structure LeastNullClosed (lenient : Bool) (rules : List Rule) (names : List String) : Prop where
  closed : NullClosed lenient rules names.contains
  least : ∀ named, NullClosed lenient rules named → ∀ name ∈ names, named name = true

end Definitions

/-- What may match nothing is nullable under all closed names. -/
lemma Rule.MayBeEmpty.isNullable {lenient : Bool} {rules : List Rule} {named : String → Bool}
    {rule : Rule} (h : rule.MayBeEmpty lenient rules)
    (hclosed : Definitions.NullClosed lenient rules named) :
    rule.isNullable lenient named = true := by
  induction h with
  | literal | star | optional => rfl
  | pattern h => exact h
  | reference hr _ ih => exact hclosed _ hr ih
  | concat _ ih => exact Rule.allNullable_eq_true.mpr ih
  | plus _ ih => exact ih
  | left _ ih => rw [Rule.isNullable, ih, Bool.true_or]
  | right _ ih => rw [Rule.isNullable, ih, Bool.or_true]
  | discard _ ih => rw [Rule.isNullable, ih, Bool.or_true]
  | lenientDiscard h => rw [Rule.isNullable, h, Bool.true_or]

namespace Definitions

variable {lenient : Bool} {rules rules' : List Rule} {known : List String}

lemma nullClosed_nullable : NullClosed lenient rules (nullable lenient rules).contains := by
  intro r hr hnullable
  simpa using mem_nullable_of_isNullable hr hnullable

/-- The collected names are those of the rules that may match nothing. -/
lemma mem_nullable {name : String} : name ∈ nullable lenient rules ↔
    ∃ r ∈ rules, r.name = name ∧ r.MayBeEmpty lenient rules := by
  constructor
  · exact ofEmpty_nullable name
  · rintro ⟨r, hr, rfl, hempty⟩
    exact mem_nullable_of_isNullable hr (isNullable_nullable.mpr hempty)

lemma leastNullClosed_nullable : LeastNullClosed lenient rules (nullable lenient rules) where
  closed := nullClosed_nullable
  least named hclosed name hname := by
    obtain ⟨r, hr, rfl, hempty⟩ := mem_nullable.mp hname
    exact hclosed r hr (hempty.isNullable hclosed)

lemma nullable_subset (hsub : rules ⊆ rules') :
    nullable lenient rules ⊆ nullable lenient rules' := by
  intro name hname
  obtain ⟨r, hr, rfl, hempty⟩ := mem_nullable.mp hname
  exact mem_nullable.mpr ⟨r, hsub hr, rfl, hempty.mono hsub⟩

/-- Passes end because there is nothing left to add, not because the fuel is used up: with more of
it the same names are collected. -/
lemma nullableWithin_add (fuel more : Nat) (hnodup : known.Nodup)
    (hknown : known ⊆ rules.map Rule.name) (hfuel : rules.length < fuel + known.length) :
    nullableWithin lenient rules (fuel + more) known = nullableWithin lenient rules fuel known := by
  induction fuel generalizing known with
  | zero =>
    have hle := (hnodup.subperm hknown).length_le
    rw [List.length_map] at hle
    omega
  | succ fuel ih =>
    rw [Nat.succ_add, nullableWithin, nullableWithin]
    by_cases hlength : (nullablePass lenient rules known).length = known.length
    · rw [if_pos hlength, if_pos hlength]
    · rw [if_neg hlength, if_neg hlength]
      have hsuffix : known <:+ nullablePass lenient rules known := suffix_nullablePass
      have hle := hsuffix.length_le
      exact ih (nodup_nullablePass hnodup)
        (nullablePass_subset hknown fun r hr => List.mem_map_of_mem hr) (by omega)

lemma nullableWithin_eq_nullable {fuel : Nat} (hfuel : rules.length < fuel) :
    nullableWithin lenient rules fuel [] = nullable lenient rules := by
  obtain ⟨more, rfl⟩ := Nat.exists_eq_add_of_le (Nat.succ_le_of_lt hfuel)
  exact nullableWithin_add _ more List.nodup_nil (List.nil_subset _) (by simp)

end Definitions

/-! ### Attempts that match nothing -/

namespace Attempt

variable {s : Setup} {a b : Attempt} {P Q : Prop}

/-- Where the attempt matches nothing, whatever the trail, the statement holds. -/
def EmptyOnlyIf (P : Prop) (a : Attempt) : Prop :=
  ∀ pos trail m next, a pos trail = (.ok m, next) → m.length = 0 → P

lemma emptyOnlyIf_terminal {name expected : String} {find? : Nat → Option (List UInt8)}
    (h : ∀ pos, find? pos = some [] → P) : EmptyOnlyIf P (terminal s name expected find?) := by
  intro pos trail m next hmatch hlength
  rw [terminal] at hmatch
  split at hmatch
  · rename_i bytes hbytes
    cases hmatch
    obtain rfl : bytes = [] := List.length_eq_zero_iff.mp hlength
    exact h pos hbytes
  · cases hmatch

namespace EmptyOnlyIf

lemma unlessOverflown (h : a.EmptyOnlyIf P) : a.unlessOverflown.EmptyOnlyIf P := by
  intro pos trail m next hmatch hlength
  rw [Attempt.unlessOverflown] at hmatch
  split at hmatch
  · cases hmatch
  · exact h pos trail m next hmatch hlength

lemma sequenceFrom {f : Rule → Attempt} {P : Rule → Prop} {parts : List Rule}
    (h : ∀ part ∈ parts, (f part).EmptyOnlyIf (P part)) {name : String} {start length : Nat}
    {built : List ParseTree} {trail next : Trail} {m : Match}
    (hmatch : Attempt.sequenceFrom name start (parts.map f) built length trail = (.ok m, next))
    (hlength : m.length = 0) : length = 0 ∧ ∀ part ∈ parts, P part := by
  induction parts generalizing built length trail with
  | nil =>
    cases hmatch
    exact ⟨hlength, by simp⟩
  | cons part rest ih =>
    rw [List.forall_mem_cons] at h
    rw [List.map_cons, Attempt.sequenceFrom] at hmatch
    split at hmatch
    · rename_i first trail' hfirst
      obtain ⟨hzero, hrest⟩ := ih h.2 hmatch
      refine ⟨by omega, List.forall_mem_cons.mpr ⟨?_, hrest⟩⟩
      exact h.1 _ _ _ _ hfirst (by omega)
    · cases hmatch

lemma sequence {f : Rule → Attempt} {P : Rule → Prop} {parts : List Rule}
    (h : ∀ part ∈ parts, (f part).EmptyOnlyIf (P part)) (name : String) :
    (Attempt.sequence name (parts.map f)).EmptyOnlyIf (∀ part ∈ parts, P part) :=
  fun _ _ _ _ hmatch hlength => (sequenceFrom h hmatch hlength).2

lemma orElse (h : a.EmptyOnlyIf P) (h' : b.EmptyOnlyIf Q) :
    (Attempt.orElse a b).EmptyOnlyIf (P ∨ Q) := by
  intro pos trail m next hmatch hlength
  rw [Attempt.orElse] at hmatch
  split at hmatch
  · rename_i ha
    cases hmatch
    exact Or.inl (h _ _ _ _ ha hlength)
  · split at hmatch
    · rename_i hb
      cases hmatch
      exact Or.inr (h' _ _ _ _ hb hlength)
    · cases hmatch

lemma discard (h : a.EmptyOnlyIf P) :
    (Attempt.discard s a).EmptyOnlyIf (s.lenientDiscard = true ∨ P) := by
  intro pos trail m next hmatch hlength
  rw [Attempt.discard] at hmatch
  split at hmatch
  · rename_i ha
    cases hmatch
    exact Or.inr (h _ _ _ _ ha hlength)
  · split at hmatch
    · exact Or.inl ‹_›
    · cases hmatch

end EmptyOnlyIf

lemma le_collect (a : Attempt) (fuel pos : Nat) (built : List ParseTree) (trail : Trail) :
    pos ≤ (collect a fuel pos built trail).1.2 := by
  induction fuel generalizing pos built trail with
  | zero => exact Nat.le_refl pos
  | succ fuel ih =>
    rw [collect]
    split
    · split
      · exact Nat.le_refl pos
      · exact Nat.le_trans (Nat.le_add_right _ _) (ih _ _ _)
    · exact Nat.le_refl pos

lemma le_length_collectFrom {name : String} {start pos : Nat} {built : List ParseTree}
    {trail next : Trail} {m : Match}
    (hmatch : collectFrom s name a start pos built trail = (.ok m, next)) :
    pos - start ≤ m.length := by
  have hle := le_collect a (s.source.size - pos + 1) pos built trail
  rw [collectFrom] at hmatch
  generalize collect a (s.source.size - pos + 1) pos built trail = collected at hle hmatch
  cases hmatch
  exact Nat.sub_le_sub_right hle start

/-- One or more matches are only empty together if the first one is. -/
lemma EmptyOnlyIf.plus (h : a.EmptyOnlyIf P) (name : String) :
    (Attempt.plus s name a).EmptyOnlyIf P := by
  intro pos trail m next hmatch hlength
  rw [Attempt.plus] at hmatch
  split at hmatch
  · rename_i first trail' hfirst
    by_cases hempty : first.length = 0
    · exact h _ _ _ _ hfirst hempty
    · rw [if_neg hempty] at hmatch
      have hle := le_length_collectFrom hmatch
      omega
  · cases hmatch

end Attempt

/-! ### Rules that match nothing -/

/-- A rule that matches nothing is nullable, wherever and in whatever state it does. -/
theorem Rule.attemptWithin_emptyOnlyIf {s : Setup} {graph : RuleGraph} {lenient : Bool}
    {named : String → Bool} (hlenient : s.lenientDiscard = true → lenient = true)
    (hgraph : graph.NullClosed lenient named) (levels : Nat) (rule : Rule) : rule.Analyzable →
      (rule.attemptWithin s graph levels).EmptyOnlyIf (rule.isNullable lenient named = true) := by
  induction levels, rule using Rule.inductionWithin with
  | literal levels name bytes =>
    intro _
    rw [attemptWithin_eq_attempt]
    refine (Attempt.emptyOnlyIf_terminal fun pos hfound => ?_).unlessOverflown
    rw [Source.matchLiteral?, Option.ite_none_right_eq_some] at hfound
    rw [isNullable, Option.some.inj hfound.2]
    rfl
  | pattern levels name p =>
    intro hrule
    rw [attemptWithin_eq_attempt]
    refine (Attempt.emptyOnlyIf_terminal fun pos hfound => ?_).unlessOverflown
    by_contra hnullable
    exact hrule.patterns name p .refl (by simpa [isNullable] using hnullable) s.source pos hfound
  | reference levels name target link ih =>
    intro hrule
    obtain rfl := hrule.links name target link .refl
    rw [attemptWithin_eq_attempt]
    refine Attempt.EmptyOnlyIf.unlessOverflown ?_
    intro pos trail m next hmatch hlength
    cases hkey : graph target with
    | none =>
      have hlink : (some target).bind graph = none := hkey
      rw [bind_enterWithin_eq_none hlink] at hmatch
      cases hmatch
    | some rule =>
      obtain ⟨hanalyzable, hclosed⟩ := hgraph target rule hkey
      cases levels with
      | zero =>
        -- at the limit the reference is not followed
        simp only [Option.bind_some, enterWithin, hkey, Option.map_some] at hmatch
        cases hmatch
      | succ left =>
        simp only [Option.bind_some, enterWithin, hkey, Option.map_some] at hmatch
        have hempty := ih left (Nat.lt_succ_self left) rule hanalyzable
        exact hclosed (hempty pos trail m next hmatch hlength)
  | concat levels name parts ih =>
    intro hrule
    rw [attemptWithin_eq_attempt, isNullable, allNullable_eq_true, attempt, attempts_eq_map,
      ← attemptWithin_eq_attempt]
    apply Attempt.EmptyOnlyIf.unlessOverflown
    exact .sequence (fun part hpart => ih part hpart (hrule.of_part hpart)) name
  | plus levels name child ih =>
    intro hrule
    have hchild := ih (hrule.of_part (by simp [dependencies]))
    rw [attemptWithin_eq_attempt] at hchild ⊢
    exact (hchild.plus name).unlessOverflown
  | star | optional => exact fun _ _ _ _ _ _ _ => rfl
  | alternate levels name left right ihl ihr =>
    intro hrule
    have hleft := ihl (hrule.of_part (by simp [dependencies]))
    have hright := ihr (hrule.of_part (by simp [dependencies]))
    rw [attemptWithin_eq_attempt] at hleft hright ⊢
    rw [isNullable, Bool.or_eq_true]
    exact (hleft.orElse hright).unlessOverflown
  | discard levels name child ih =>
    intro hrule
    have hchild := ih (hrule.of_part (by simp [dependencies]))
    rw [attemptWithin_eq_attempt] at hchild ⊢
    intro pos trail m next hmatch hlength
    rw [isNullable, Bool.or_eq_true]
    exact (hchild.discard.unlessOverflown pos trail m next hmatch hlength).imp_left hlenient

namespace Definitions

variable {lenient : Bool} {rules : List Rule}

/-- If a definition matches nothing in any state then its name has been collected. -/
lemma mem_nullable_of_matchAt (hunlinked : ∀ r ∈ rules, r.Unlinked)
    (hpatterns : ∀ r ∈ rules, ∀ name p, r.Contains (.pattern name p) → p.TellsEmpty) {cx : Context}
    (hlenient : cx.lenientDiscard = true → lenient = true) {r : Rule} (hr : r ∈ rules) {pos : Nat}
    {m : Match} (hmatch : (cx.matchAt (graph rules) r.link pos).1 = .ok m)
    (hlength : m.length = 0) : r.name ∈ nullable lenient rules := by
  have hempty := Rule.attemptWithin_emptyOnlyIf (s := cx.toSetup) hlenient
    (nullClosed_graph hunlinked hpatterns) (cx.maxDepth - cx.depth) r.link
    ((hunlinked r hr).analyzable (hpatterns r hr))
  have hnullable := hempty pos cx.toTrail m _ (Prod.ext hmatch rfl) hlength
  rw [Rule.isNullable_link] at hnullable
  exact mem_nullable_of_isNullable hr hnullable

end Definitions

/-! ### Rules without patterns at the end of the input -/

/-- All references in the rule are linked by name, and no pattern is in it. -/
structure Rule.PatternFree (r : Rule) : Prop where
  links : r.LinkedByName
  noPattern : ∀ name p, ¬ r.Contains (.pattern name p)

lemma Rule.PatternFree.of_part {r part : Rule} (h : r.PatternFree) (hpart : part ∈ r.dependencies) :
    part.PatternFree where
  links name target link hcontains := h.links name target link (.of_part hpart hcontains)
  noPattern name p hcontains := h.noPattern name p (.of_part hpart hcontains)

/-- Each of the names stands for a rule that may match nothing, given the names, and no rule of the
graph has a pattern in it. -/
structure RuleGraph.NullSupported (graph : RuleGraph) (lenient : Bool) (named : String → Bool) :
    Prop where
  supported : ∀ name, named name = true →
    ∃ rule, graph name = some rule ∧ rule.isNullable lenient named = true
  patternFree : ∀ key rule, graph key = some rule → rule.PatternFree

section

variable {source : Source} {lenient : Bool} {graph : RuleGraph} {named : String → Bool}

mutual

/-- A rule that fails where no input is left is not nullable. -/
lemma Derives.isNullable_eq_false {rule : Rule} {pos : Nat} {outcome : Option Match}
    (h : Derives source lenient graph rule pos outcome)
    (hgraph : graph.NullSupported lenient named) (hpos : pos = source.size)
    (hrule : rule.PatternFree) (hfails : outcome = none) :
    rule.isNullable lenient named = false := by
  match h with
  | .noLiteral h =>
    rw [Rule.isNullable, List.isEmpty_eq_false_iff]
    rintro rfl
    exact h List.nil_prefix
  | .noPattern _ => exact absurd .refl (hrule.noPattern _ _)
  | .reference hkey h =>
    obtain ⟨⟩ := hrule.links _ _ _ .refl
    have hfalse := h.isNullable_eq_false hgraph hpos (hgraph.patternFree _ _ hkey) hfails
    rw [Rule.isNullable, Bool.eq_false_iff]
    intro hnamed
    obtain ⟨rule, hsame, htrue⟩ := hgraph.supported _ hnamed
    obtain rfl := Option.some.inj (hkey.symm.trans hsame)
    rw [hfalse] at htrue
    cases htrue
  | .dangling hkey =>
    obtain rfl := hrule.links _ _ _ .refl
    rw [Rule.isNullable, Bool.eq_false_iff]
    intro hnamed
    obtain ⟨rule, hsome, -⟩ := hgraph.supported _ hnamed
    cases hkey.symm.trans hsome
  | .noConcat h =>
    exact h.allNullable_eq_false hgraph hpos (fun part hpart => hrule.of_part hpart) rfl
  | .noPlus h =>
    exact h.isNullable_eq_false hgraph hpos (hrule.of_part (by simp [Rule.dependencies])) rfl
  | .right h hright =>
    have hleft :=
      h.isNullable_eq_false hgraph hpos (hrule.of_part (by simp [Rule.dependencies])) rfl
    have hright :=
      hright.isNullable_eq_false hgraph hpos (hrule.of_part (by simp [Rule.dependencies])) hfails
    rw [Rule.isNullable, hleft, hright, Bool.or_self]
  | .noDiscard h hlenient =>
    have hchild :=
      h.isNullable_eq_false hgraph hpos (hrule.of_part (by simp [Rule.dependencies])) rfl
    rw [Rule.isNullable, hlenient, Bool.false_or]
    exact hlenient ▸ hchild
  | .literal _ | .pattern _ | .concat _ | .plus _ _ _ | .plusEmpty _ _ | .star _ | .optional _
  | .noOptional _ | .left _ | .discard _ | .lenientDiscard _ _ => cases hfails

lemma DerivesAll.allNullable_eq_false {parts : List Rule} {pos : Nat} {outcome : Option Series}
    (h : DerivesAll source lenient graph parts pos outcome)
    (hgraph : graph.NullSupported lenient named) (hpos : pos = source.size)
    (hparts : ∀ part ∈ parts, part.PatternFree) (hfails : outcome = none) :
    Rule.allNullable lenient named parts = false := by
  match h with
  | .noHead h =>
    have hhead := h.isNullable_eq_false hgraph hpos (List.forall_mem_cons.mp hparts).1 rfl
    rw [Rule.allNullable, hhead, Bool.false_and]
  | .noTail h hrest =>
    -- a match at the end of the input is empty, so the rest starts there as well
    have hend := h.end_le (Nat.le_of_eq hpos) _ rfl
    have hothers := hrest.allNullable_eq_false hgraph (by omega)
      (List.forall_mem_cons.mp hparts).2 rfl
    rw [Rule.allNullable, hothers, Bool.and_false]
  | .nil | .cons _ _ => cases hfails

end

end

namespace Definitions

variable {lenient : Bool} {rules : List Rule}

lemma name_mem_nullable (hdistinct : (rules.map Rule.name).Nodup) {r : Rule} (hr : r ∈ rules) :
    r.name ∈ nullable lenient rules ↔ r.MayBeEmpty lenient rules := by
  rw [mem_nullable]
  constructor
  · rintro ⟨r', hr', hname, hempty⟩
    have hfound := find?_of_mem hdistinct hr'
    rw [hname, find?_of_mem hdistinct hr] at hfound
    exact Option.some.inj hfound ▸ hempty
  · exact fun hempty => ⟨r, hr, rfl, hempty⟩

lemma graph_name (hdistinct : (rules.map Rule.name).Nodup) {r : Rule} (hr : r ∈ rules) :
    graph rules r.name = some r.link := by
  rw [graph, find?_of_mem hdistinct hr, Option.map_some]

lemma nullSupported_graph (hdistinct : (rules.map Rule.name).Nodup)
    (hunlinked : ∀ r ∈ rules, r.Unlinked)
    (hpatterns : ∀ r ∈ rules, ∀ name p, ¬ r.Contains (.pattern name p)) :
    (graph rules).NullSupported lenient (nullable lenient rules).contains where
  supported := by
    intro name hnamed
    obtain ⟨r, hr, rfl, hempty⟩ := mem_nullable.mp (List.contains_iff_mem.mp hnamed)
    refine ⟨r.link, graph_name hdistinct hr, ?_⟩
    rw [Rule.isNullable_link]
    exact isNullable_nullable.mpr hempty
  patternFree := by
    intro key rule hkey
    obtain ⟨r, hfound, rfl⟩ := Option.map_eq_some_iff.mp hkey
    have hr := (mem_of_find? hfound).1
    exact ⟨(hunlinked r hr).link, fun name p h => hpatterns r hr name p h.of_link_pattern⟩

end Definitions

/-- A match without an overflow has an outcome that the semantics derives. -/
lemma Context.derives_of_matchAt {cx : Context} {graph : RuleGraph} {rule : Rule} {pos : Nat}
    (hpos : pos ≤ cx.source.size) (hstart : cx.overflow = none)
    (hoverflow : (cx.matchAt graph rule pos).2.overflow = none) :
    Derives cx.source cx.lenientDiscard graph rule pos (cx.matchAt graph rule pos).1.toOption :=
  Rule.traceWithin_sound _ rule pos hpos _ (cx.outcome?_trace graph rule hstart hoverflow)

namespace Grammar

variable {rules : List Rule} {options : Options} {g : Grammar}

/-- On the empty input no more references are nested than there are rules. -/
lemma Accepted.overflow_empty (h : Accepted rules options g)
    (hunlinked : ∀ r ∈ rules, r.Unlinked)
    (hpatterns : ∀ r ∈ rules, ∀ name p, r.Contains (.pattern name p) → p.TellsEmpty)
    (hlimit : rules.length ≤ options.depthLimit) {rule : Rule} (hrule : rule ∈ g.rules) :
    ((g.context (.ofBytes [])).matchAt g.graph rule 0).2.overflow = none := by
  apply Context.overflow_matchAt rfl
  intro v hv
  have hle := (h.descends hunlinked hpatterns hrule hv).2
  have hsize : (Source.ofBytes []).size = 0 := rfl
  rw [hsize, h.rules_eq, List.length_map, Nat.zero_add, Nat.mul_one] at hle
  show (v.path g.graph).length ≤ g.options.depthLimit
  rw [h.options_eq]
  exact Nat.le_trans hle hlimit

/-- A definition without patterns is among the collected ones if and only if it matches the empty
input. -/
lemma Accepted.mem_nullable_iff (h : Accepted rules options g)
    (hunlinked : ∀ r ∈ rules, r.Unlinked)
    (hpatterns : ∀ r ∈ rules, ∀ name p, ¬ r.Contains (.pattern name p))
    (hlimit : rules.length ≤ options.depthLimit) {r : Rule} (hr : r ∈ rules) :
    r.name ∈ Definitions.nullable options.lenientDiscard rules ↔
      ∃ m, ((g.context (.ofBytes [])).matchAt g.graph r.link 0).1 = .ok m := by
  have htells : ∀ r ∈ rules, ∀ name p, r.Contains (.pattern name p) → p.TellsEmpty :=
    fun r hr name p hcontains => absurd hcontains (hpatterns r hr name p)
  have hlenient : (g.context (.ofBytes [])).lenientDiscard = options.lenientDiscard := by
    rw [context, h.options_eq]
  have hoverflow := h.overflow_empty hunlinked htells hlimit (h.link_mem hr)
  have hderives := Context.derives_of_matchAt (Nat.zero_le _) rfl hoverflow
  rw [h.graph_eq_graph, hlenient] at hderives
  rw [h.graph_eq_graph]
  constructor
  · intro hmem
    cases hresult : ((g.context (.ofBytes [])).matchAt (Definitions.graph rules) r.link 0).1 with
    | ok m => exact ⟨m, rfl⟩
    | error e =>
      rw [hresult] at hderives
      have hempty := (Definitions.name_mem_nullable h.distinct hr).mp hmem
      have hgraph : (Definitions.graph rules).NullSupported options.lenientDiscard
          (Definitions.nullable options.lenientDiscard rules).contains :=
        Definitions.nullSupported_graph h.distinct hunlinked hpatterns
      have hfree := hgraph.patternFree r.name r.link (Definitions.graph_name h.distinct hr)
      have hfalse := hderives.isNullable_eq_false hgraph rfl hfree rfl
      rw [Rule.isNullable_link, Definitions.isNullable_nullable.mpr hempty] at hfalse
      cases hfalse
  · rintro ⟨m, hm⟩
    rw [hm] at hderives
    have hend := hderives.end_le (Nat.zero_le _) m rfl
    have hsize : (g.context (.ofBytes [])).source.size = 0 := rfl
    exact Definitions.mem_nullable_of_matchAt hunlinked htells (fun htrue => hlenient ▸ htrue) hr hm
      (by omega)

lemma exists_parseRule_iff {rule : Rule} {source : Source} (hname : g.rule? rule.name = some rule)
    (hoverflow : ((g.context source).matchAt g.graph rule 0).2.overflow = none) :
    (∃ tree, g.parseRule rule.name source = .ok tree) ↔
      ∃ m, ((g.context source).matchAt g.graph rule 0).1 = .ok m := by
  have hrun : (∃ m, g.run rule source = .ok m) ↔
      ∃ m, ((g.context source).matchAt g.graph rule 0).1 = .ok m := by
    simp only [run, hoverflow]
    cases ((g.context source).matchAt g.graph rule 0).1 <;> simp
  rw [← hrun, parseRule, hname]
  simp only
  cases g.run rule source <;> simp

/-- The collected names are the least closed ones, whatever the order of the definitions, and they
are collected once there have been more passes than there are rules. Every definition that matches
nothing is among them, whatever the input, the position and the state of the match; and if there are
no patterns and the limit allows for a reference to each of the rules, just those definitions are
which match the empty input. -/
theorem nullable_exact (rules : List Rule) :
    (∀ lenient,
      Definitions.LeastNullClosed lenient rules (Definitions.nullable lenient rules) ∧
      (∀ fuel > rules.length,
        Definitions.nullableWithin lenient rules fuel [] = Definitions.nullable lenient rules) ∧
      ∀ rules', rules.Perm rules' → ∀ name,
        name ∈ Definitions.nullable lenient rules' ↔ name ∈ Definitions.nullable lenient rules) ∧
    ((∀ r ∈ rules, r.Unlinked) →
      (∀ r ∈ rules, ∀ name p, r.Contains (.pattern name p) → p.TellsEmpty) →
      ∀ (lenient : Bool) (cx : Context), (cx.lenientDiscard = true → lenient = true) →
        ∀ r ∈ rules, ∀ pos m, (cx.matchAt (Definitions.graph rules) r.link pos).1 = .ok m →
          m.length = 0 → r.name ∈ Definitions.nullable lenient rules) ∧
    ((∀ r ∈ rules, r.Unlinked) → (∀ r ∈ rules, ∀ name p, ¬ r.Contains (.pattern name p)) →
      ∀ options g, (ofDefinitions rules options).1 = .ok g → rules.length ≤ options.depthLimit →
        g.graph = Definitions.graph rules ∧
        ∀ r ∈ rules,
          (r.name ∈ Definitions.nullable options.lenientDiscard rules ↔
            ∃ m, ((g.context (.ofBytes [])).matchAt g.graph r.link 0).1 = .ok m) ∧
          (r.name ∈ Definitions.nullable options.lenientDiscard rules ↔
            ∃ tree, g.parseRule r.name (.ofBytes []) = .ok tree)) := by
  refine ⟨fun lenient => ⟨?_, ?_, ?_⟩, ?_, ?_⟩
  · exact Definitions.leastNullClosed_nullable
  · exact fun fuel hfuel => Definitions.nullableWithin_eq_nullable hfuel
  · intro rules' hperm name
    exact ⟨fun hname => Definitions.nullable_subset hperm.symm.subset hname,
      fun hname => Definitions.nullable_subset hperm.subset hname⟩
  · intro hunlinked hpatterns lenient cx hlenient r hr pos m hmatch hlength
    exact Definitions.mem_nullable_of_matchAt hunlinked hpatterns hlenient hr hmatch hlength
  · intro hunlinked hpatterns options g h hlimit
    have haccepted := accepted_of_ofDefinitions h
    refine ⟨haccepted.graph_eq_graph, fun r hr => ?_⟩
    have hiff := haccepted.mem_nullable_iff hunlinked hpatterns hlimit hr
    refine ⟨hiff, hiff.trans ?_⟩
    have hname := haccepted.rule?_name (haccepted.link_mem hr)
    have hoverflow := haccepted.overflow_empty hunlinked
      (fun r hr name p hcontains => absurd hcontains (hpatterns r hr name p)) hlimit
      (haccepted.link_mem hr)
    rw [← exists_parseRule_iff hname hoverflow, Rule.name_link]

/-- Parentheses around a letter that is discarded: they may be empty only if discarding is lenient
and there are none. -/
theorem nullable_exact_parentheses :
    let s : Rule := .alternate "s"
      (.concat "s" [.literal "'('" [40], .reference "s" "s" none, .literal "')'" [41]])
      (.discard "a^" (.reference "a" "a" none))
    let a : Rule := .literal "a" [97]
    let lenient : Options := { lenientDiscard := true }
    (∀ r ∈ [s, a], r.Unlinked) ∧
      (∃ g, (ofDefinitions [s, a] lenient).1 = .ok g ∧
        ∃ tree, g.parseRule s.name (.ofBytes []) = .ok tree) ∧
      ∃ g, (ofDefinitions [s, a] {}).1 = .ok g ∧
        ¬ ∃ tree, g.parseRule s.name (.ofBytes []) = .ok tree := by
  intro s a lenient
  have hreferences : ∀ r ∈ [s, a], ∀ reference ∈ r.references, reference.2 = false := by decide
  have hunlinked : ∀ r ∈ [s, a], r.Unlinked := fun r hr =>
    Rule.unlinked_of_references (hreferences r hr)
  have hpatterns : ∀ r ∈ [s, a], ∀ name p, ¬ r.Contains (.pattern name p) := by
    intro r hr name p hcontains
    rw [← Rule.mem_preorder] at hcontains
    simp only [List.mem_cons, List.not_mem_nil, or_false] at hr
    rcases hr with rfl | rfl <;> simp [s, a, Rule.preorder] at hcontains
  obtain ⟨-, -, hexact⟩ := nullable_exact [s, a]
  have hlenient : ∃ g, (ofDefinitions [s, a] lenient).1 = .ok g := ⟨_, rfl⟩
  have hstrict : ∃ g, (ofDefinitions [s, a] {}).1 = .ok g := ⟨_, rfl⟩
  obtain ⟨g, hg⟩ := hlenient
  obtain ⟨g', hg'⟩ := hstrict
  obtain ⟨-, hmatches⟩ := hexact hunlinked hpatterns lenient g hg (by decide)
  obtain ⟨-, hmatches'⟩ := hexact hunlinked hpatterns {} g' hg' (by decide)
  refine ⟨hunlinked, ⟨g, hg, (hmatches s (by simp)).2.mp (by decide)⟩, g', hg', ?_⟩
  exact fun htree => absurd ((hmatches' s (by simp)).2.mpr htree) (by decide)

end Grammar

end Peg
