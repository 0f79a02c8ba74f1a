import Peg.Proofs.Grammar.Nullability
import Peg.Proofs.Match.Pruning

/-!
# Grammars without discarding

Where discarding is strict, the checks of definitions see through it, and so do matches up to the
trees that they leave. So a grammar with discarding accepts what it accepts without, at the same
length and with the same errors, and its trees have some of the leaves, in the same order.
-/

namespace Peg

/-! ### What the checks look at -/

/-- A map of rules that the checks of definitions do not notice. -/
structure Rule.KeepsChecks (lenient : Bool) (f : Rule → Rule) : Prop where
  name : ∀ r, (f r).name = r.name
  references : ∀ r, (f r).references = r.references
  isNullable : ∀ named r, (f r).isNullable lenient named = r.isNullable lenient named
  leftCalls : ∀ named r, (f r).leftCalls lenient named = r.leftCalls lenient named
  link : ∀ r, (f r).link = f r.link

namespace Definitions

variable {lenient : Bool} {f : Rule → Rule}

lemma firstDuplicate?_map (hf : ∀ r, (f r).name = r.name) (seen : List String) (rules : List Rule) :
    firstDuplicate? seen (rules.map f) = firstDuplicate? seen rules := by
  induction rules generalizing seen with
  | nil => rfl
  | cons r rs ih => rw [List.map_cons, firstDuplicate?, firstDuplicate?, hf, ih]

lemma linkAll_map (hf : Rule.KeepsChecks lenient f) (defined : String → Bool) (rules : List Rule) :
    linkAll defined (rules.map f) = linkAll defined rules := by
  induction rules with
  | nil => rfl
  | cons r rs ih => rw [List.map_cons, linkAll, linkAll, hf.name, hf.references, ih]

lemma position?_map (hf : ∀ r, (f r).name = r.name) (rules : List Rule) :
    position? (rules.map f) = position? rules := by
  funext name
  rw [position?, position?, List.findIdx?_map]
  simp [Function.comp_def, hf]

lemma nullablePass_map (hf : Rule.KeepsChecks lenient f) (rules : List Rule) (known : List String) :
    nullablePass lenient (rules.map f) known = nullablePass lenient rules known := by
  rw [nullablePass, nullablePass, List.foldr_map]
  simp only [hf.name, hf.isNullable]

lemma nullableWithin_map (hf : Rule.KeepsChecks lenient f) (rules : List Rule) (fuel : Nat)
    (known : List String) :
    nullableWithin lenient (rules.map f) fuel known = nullableWithin lenient rules fuel known := by
  induction fuel generalizing known with
  | zero => rfl
  | succ fuel ih => simp only [nullableWithin, nullablePass_map hf, ih]

lemma nullable_map (hf : Rule.KeepsChecks lenient f) (rules : List Rule) :
    nullable lenient (rules.map f) = nullable lenient rules := by
  rw [nullable, nullable, nullableWithin_map hf, List.length_map]

lemma leftRecursion?_map (hf : Rule.KeepsChecks lenient f) (rules : List Rule) :
    leftRecursion? lenient (rules.map f) = leftRecursion? lenient rules := by
  have hgraph : callGraph lenient (rules.map f) = callGraph lenient rules := by
    rw [callGraph, callGraph, nullable_map hf, position?_map hf.name, List.map_map]
    simp only [Function.comp_def, hf.leftCalls]
  rw [leftRecursion?, leftRecursion?, hgraph]
  simp [List.zipIdx_map, List.filter_map, Function.comp_def, hf.name]

end Definitions

namespace Grammar

/-- The grammar with all rules mapped. -/
def mapRules (f : Rule → Rule) (g : Grammar) : Grammar :=
  { g with rules := g.rules.map f, root := f g.root }

/-- Mapped definitions are accepted if the definitions are, and come to the mapped grammar. -/
lemma ofDefinitions_map {options : Options} {f : Rule → Rule}
    (hf : Rule.KeepsChecks options.lenientDiscard f) (rules : List Rule) :
    (ofDefinitions (rules.map f) options).1 = (ofDefinitions rules options).1.map (mapRules f) := by
  cases rules with
  | nil => rfl
  | cons first rest =>
    have hrules : f first :: rest.map f = (first :: rest).map f := rfl
    rw [List.map_cons, ofDefinitions, ofDefinitions]
    simp only [hrules, Definitions.firstDuplicate?_map hf.name, Definitions.find?_map hf.name,
      hf.name, Definitions.linkAll_map hf, Definitions.leftRecursion?_map hf, Option.isSome_map]
    split
    · rfl
    · cases hroot : Definitions.find? (first :: rest) (options.entry.getD first.name) with
      | none => rfl
      | some root =>
        simp only [Option.map_some]
        split
        · rfl
        · split
          · rfl
          · simp [mapRules, Except.map, hf.link, Function.comp_def]

end Grammar

/-! ### The checks without discarding -/

namespace Rule

lemma references_rename (name : String) (r : Rule) : (r.rename name).references = r.references := by
  cases r <;> rfl

lemma isNullable_rename (lenient : Bool) (named : String → Bool) (name : String) (r : Rule) :
    (r.rename name).isNullable lenient named = r.isNullable lenient named := by
  cases r <;> rfl

lemma leftCalls_rename (lenient : Bool) (named : String → Bool) (name : String) (r : Rule) :
    (r.rename name).leftCalls lenient named = r.leftCalls lenient named := by
  cases r <;> rfl

lemma link_rename (name : String) (r : Rule) : (r.rename name).link = r.link.rename name := by
  cases r <;> rfl

mutual

lemma references_undiscard (r : Rule) : r.undiscard.references = r.references := by
  match r with
  | .literal .. | .pattern .. | .reference .. => rfl
  | .concat _ rs => exact allReferences_undiscardAll rs
  | .plus _ child | .star _ child | .optional _ child | .discard _ child =>
    exact references_undiscard child
  | .alternate _ left right =>
    rw [undiscard, references, references, references_undiscard left, references_undiscard right]

lemma allReferences_undiscardAll (rs : List Rule) :
    allReferences (undiscardAll rs) = allReferences rs := by
  match rs with
  | [] => rfl
  | r :: rs =>
    rw [undiscardAll, allReferences, allReferences, references_undiscard r,
      allReferences_undiscardAll rs]

end

mutual

/-- Where discarding is strict, it does not make anything nullable. -/
lemma isNullable_undiscard (named : String → Bool) (r : Rule) :
    r.undiscard.isNullable false named = r.isNullable false named := by
  match r with
  | .literal .. | .pattern .. | .reference .. | .star .. | .optional .. => rfl
  | .concat _ rs => exact allNullable_undiscardAll named rs
  | .plus _ child => exact isNullable_undiscard named child
  | .alternate _ left right =>
    rw [undiscard, isNullable, isNullable, isNullable_undiscard named left,
      isNullable_undiscard named right]
  | .discard _ child => rw [undiscard, isNullable, isNullable_undiscard named child, Bool.false_or]

lemma allNullable_undiscardAll (named : String → Bool) (rs : List Rule) :
    allNullable false named (undiscardAll rs) = allNullable false named rs := by
  match rs with
  | [] => rfl
  | r :: rs =>
    rw [undiscardAll, allNullable, allNullable, isNullable_undiscard named r,
      allNullable_undiscardAll named rs]

end

mutual

lemma leftCalls_undiscard (named : String → Bool) (r : Rule) :
    r.undiscard.leftCalls false named = r.leftCalls false named := by
  match r with
  | .literal .. | .pattern .. | .reference .. => rfl
  | .concat _ rs => exact leftCallsOfAll_undiscardAll named rs
  | .plus _ child | .star _ child | .optional _ child | .discard _ child =>
    exact leftCalls_undiscard named child
  | .alternate _ left right =>
    rw [undiscard, leftCalls, leftCalls, leftCalls_undiscard named left,
      leftCalls_undiscard named right]

lemma leftCallsOfAll_undiscardAll (named : String → Bool) (rs : List Rule) :
    leftCallsOfAll false named (undiscardAll rs) = leftCallsOfAll false named rs := by
  match rs with
  | [] => rfl
  | r :: rs =>
    rw [undiscardAll, leftCallsOfAll, leftCallsOfAll, isNullable_undiscard,
      leftCalls_undiscard named r, leftCallsOfAll_undiscardAll named rs]

end

mutual

lemma link_undiscard (r : Rule) : r.undiscard.link = r.link.undiscard := by
  match r with
  | .literal .. | .pattern .. | .reference .. => rfl
  | .concat _ rs => exact congrArg _ (linkAll_undiscardAll rs)
  | .plus _ child | .star _ child | .optional _ child =>
    exact congrArg _ (link_undiscard child)
  | .alternate _ left right => exact congrArg₂ _ (link_undiscard left) (link_undiscard right)
  | .discard _ child => exact link_undiscard child

lemma linkAll_undiscardAll (rs : List Rule) :
    linkAll (undiscardAll rs) = undiscardAll (linkAll rs) := by
  match rs with
  | [] => rfl
  | r :: rs => exact congrArg₂ _ (link_undiscard r) (linkAll_undiscardAll rs)

end

lemma keepsChecks_undiscarded : KeepsChecks false undiscarded where
  name r := name_rename _ _
  references r := by
    rw [undiscarded, references_rename, references_undiscard]
  isNullable named r := by
    rw [undiscarded, isNullable_rename, isNullable_undiscard]
  leftCalls named r := by
    rw [undiscarded, leftCalls_rename, leftCalls_undiscard]
  link r := by
    rw [undiscarded, undiscarded, link_rename, link_undiscard, name_link]

end Rule

/-! ### Matches without discarding -/

namespace Grammar

lemma graph_mapRules {f : Rule → Rule} (hf : ∀ r, (f r).name = r.name) (g : Grammar)
    (key : String) :
    (g.mapRules f).graph key = (g.graph key).map f :=
  Definitions.find?_map hf g.rules key

lemma context_mapRules (f : Rule → Rule) (g : Grammar) (source : Source) :
    (g.mapRules f).context source = g.context source := rfl

@[simp] lemma leaves_treeOf (rule : Rule) (m : Match) : (treeOf rule m).leaves = m.leaves := by
  cases htree : m.tree <;> simp [treeOf, Match.leaves, htree]

lemma matchAt_of_run {g : Grammar} {rule : Rule} {source : Source} {m : Match}
    (h : g.run rule source = .ok m) :
    ((g.context source).matchAt g.graph rule 0).1 = .ok m := by
  simp only [run] at h
  split at h
  · cases h
  · split at h
    · rename_i m' hm
      obtain ⟨⟩ := h
      exact hm
    · cases h

/-- A run of a definition without discarding comes to the same. -/
lemma run_undiscarded {g : Grammar} (hstrict : g.options.lenientDiscard = false) (rule : Rule)
    (source : Source) :
    ((g.mapRules .undiscarded).run rule.undiscarded source).map Match.length =
      (g.run rule source).map Match.length := by
  obtain ⟨hcontext, hresult⟩ := (g.context source).matchAt_undiscarded hstrict
    (graph_mapRules Rule.keepsChecks_undiscarded.name g) rule 0
  simp only [run, context_mapRules, hcontext]
  split
  · rfl
  · rcases hresult with ⟨m, m', hm, hm', hlength, -⟩ | ⟨e, he, he'⟩
    · rw [hm, hm']
      exact congrArg Except.ok hlength
    · rw [he, he']

/-- The bytes of a match without discarding are all that it consumed. -/
lemma bytes_of_undiscarded {cx : Context} {graph graph' : RuleGraph}
    (hgraph : ∀ key, graph' key = (graph key).map Rule.undiscarded) {rule : Rule} {m : Match}
    (h : (cx.matchAt graph' rule.undiscarded 0).1 = .ok m) :
    m.bytes = cx.source.slice 0 m.length := by
  have htiling := Rule.attemptWithin_tiling (s := cx.toSetup) (cx.maxDepth - cx.depth) _
    (Rule.discardsOnlyIf_undiscarded hgraph rule)
  obtain ⟨intervals, htiles⟩ := htiling 0 (Nat.zero_le _) cx.toTrail m _ (Prod.ext h rfl)
  rw [m.bytes_eq, htiles.flatMap_bytes id, Nat.zero_add]

/-- Where discarding is strict, definitions are accepted if they are without discarding. Then all
rules consume the same, fail with the same errors and overflow alike, and the trees have some of the
leaves, in order, of trees that hold exactly what was consumed. -/
theorem discard_prunes {rules : List Rule} {options : Options}
    (hstrict : options.lenientDiscard = false) :
    ((∃ g, (ofDefinitions rules options).1 = .ok g) ↔
      ∃ g', (ofDefinitions (rules.map Rule.undiscarded) options).1 = .ok g') ∧
    ∀ g g', (ofDefinitions rules options).1 = .ok g →
      (ofDefinitions (rules.map Rule.undiscarded) options).1 = .ok g' →
      (∀ name, g'.rule? name = (g.rule? name).map Rule.undiscarded) ∧
      g'.root = g.root.undiscarded ∧
      ∀ (rule : Rule) (source : Source),
        ((g'.context source).matchAt g'.graph rule.undiscarded 0).1.map Match.length =
          ((g.context source).matchAt g.graph rule 0).1.map Match.length ∧
        ((g'.context source).matchAt g'.graph rule.undiscarded 0).2.toTrail =
          ((g.context source).matchAt g.graph rule 0).2.toTrail ∧
        (g'.run rule.undiscarded source).map Match.length =
          (g.run rule source).map Match.length ∧
        ∀ m m', g.run rule source = .ok m → g'.run rule.undiscarded source = .ok m' →
          (treeOf rule m).leaves.Sublist (treeOf rule.undiscarded m').leaves ∧
          (treeOf rule.undiscarded m').toBytes = source.slice 0 m'.length := by
  have hkeeps : Rule.KeepsChecks options.lenientDiscard Rule.undiscarded :=
    hstrict ▸ Rule.keepsChecks_undiscarded
  have hmap := ofDefinitions_map hkeeps rules
  constructor
  · rw [hmap]
    cases (ofDefinitions rules options).1 with
    | ok g => exact ⟨fun _ => ⟨_, rfl⟩, fun _ => ⟨g, rfl⟩⟩
    | error e =>
      refine ⟨?_, ?_⟩ <;> rintro ⟨_, ⟨⟩⟩
  · intro g g' h h'
    obtain rfl := (accepted_of_ofDefinitions h).options_eq
    rw [hmap, h] at h'
    obtain rfl : g.mapRules .undiscarded = g' := Except.ok.inj h'
    have hgraph := graph_mapRules hkeeps.name g
    refine ⟨hgraph, rfl, fun rule source => ?_⟩
    obtain ⟨hcontext, hresult⟩ := (g.context source).matchAt_undiscarded hstrict hgraph rule 0
    refine ⟨?_, congrArg Context.toTrail hcontext, run_undiscarded hstrict rule source, ?_⟩
    · rcases hresult with ⟨m, m', hm, hm', hlength, -⟩ | ⟨e, he, he'⟩
      · rw [context_mapRules, hm, hm']
        exact congrArg Except.ok hlength
      · rw [context_mapRules, he, he']
    · intro m m' hrun hrun'
      have hm := matchAt_of_run hrun
      have hm' := matchAt_of_run hrun'
      refine ⟨?_, ?_⟩
      · rcases hresult with ⟨_, _, hm₁, hm₁', -, hleaves⟩ | ⟨e, he, -⟩
        · obtain ⟨⟩ := hm.symm.trans hm₁
          obtain ⟨⟩ := hm'.symm.trans hm₁'
          simpa using hleaves
        · cases hm.symm.trans he
      · have hbytes := bytes_of_undiscarded hgraph hm'
        rw [m'.bytes_eq] at hbytes
        rw [ParseTree.toBytes, leaves_treeOf, hbytes]
        rfl

/-- Two letters, with a separator that is discarded by its definition and a blank that is discarded
where it stands. -/
theorem discard_prunes_separator :
    let rules : List Rule := [
      .concat "s" [.literal "a" [97], .reference "c" "c" none,
        .discard "b!" (.optional "b?" (.literal "b" [32])), .literal "a" [97]],
      .discard "c" (.literal "','" [44])]
    let source : Source := .ofBytes [97, 44, 32, 97, 44]
    ∃ g g', (ofDefinitions rules {}).1 = .ok g ∧
      (ofDefinitions (rules.map Rule.undiscarded) {}).1 = .ok g' ∧
      ∃ m m', g.run g.root source = .ok m ∧ g'.run g.root.undiscarded source = .ok m' ∧
        (treeOf g.root m).leaves = [.leaf "a" [97], .leaf "a" [97]] ∧
        (treeOf g.root.undiscarded m').leaves =
          [.leaf "a" [97], .leaf "c" [44], .leaf "b" [32], .leaf "a" [97]] ∧
        (treeOf g.root m).leaves.Sublist (treeOf g.root.undiscarded m').leaves ∧
        (treeOf g.root.undiscarded m').toBytes = [97, 44, 32, 97] := by
  intro rules source
  refine ⟨_, _, rfl, rfl, ?_⟩
  refine ⟨_, _, rfl, rfl, rfl, rfl, ?_⟩
  obtain ⟨-, -, hall⟩ := (@discard_prunes rules {} rfl).2 _ _ rfl rfl
  have hleaves := fun rule => (hall rule source).2.2.2
  exact ⟨And.left (hleaves _ _ _ rfl rfl), And.right (hleaves _ _ _ rfl rfl)⟩

end Grammar

end Peg
