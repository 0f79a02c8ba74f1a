import Peg.Proofs.Rule
import Peg.Proofs.Source
import Peg.Proofs.Tree

/-!
# Leaves and the input

The leaves of the tree that a match leaves are stretches of the input, in order and apart from each
other. Only discarding leaves gaps between them. This holds for every attempt that succeeds, also
where a failure or an overflow on the way was forgotten.
-/

namespace Peg

/-- The leaves of the tree of a match, from left to right. -/
def Match.leaves (m : Match) : List ParseTree := m.tree.toList.flatMap ParseTree.leaves

/-- The bytes of the tree of a match. -/
def Match.bytes (m : Match) : List UInt8 := (m.tree.map ParseTree.toBytes).getD []

lemma Match.bytes_eq (m : Match) : m.bytes = m.leaves.flatMap fun leaf => leaf.bytes?.getD [] := by
  cases htree : m.tree <;> simp [Match.bytes, Match.leaves, htree, ParseTree.toBytes]

/-! ### Tilings -/

/-- The leaves hold the bytes of the intervals, which lie one after the other between two positions
of the input. Where gaps are not allowed, nothing is left out. -/
inductive Tiles (source : Source) (gaps : Prop) :
    Nat → Nat → List ParseTree → List (Nat × Nat) → Prop where
  | done {pos stop : Nat} (hle : pos ≤ stop) (hsize : stop ≤ source.size)
      (hgap : pos = stop ∨ gaps) :
      Tiles source gaps pos stop [] []
  | leaf {pos start next stop : Nat} {label : String} {leaves : List ParseTree}
      {intervals : List (Nat × Nat)} (hle : pos ≤ start) (hgap : pos = start ∨ gaps)
      (hlt : start < next) (hrest : Tiles source gaps next stop leaves intervals) :
      Tiles source gaps pos stop (.leaf label (source.slice start next) :: leaves)
        ((start, next) :: intervals)

namespace Tiles

variable {source : Source} {gaps : Prop} {pos mid stop : Nat} {leaves more : List ParseTree}
  {intervals rest : List (Nat × Nat)}

lemma bounds (h : Tiles source gaps pos stop leaves intervals) :
    pos ≤ stop ∧ stop ≤ source.size := by
  induction h with
  | done hle hsize _ => exact ⟨hle, hsize⟩
  | leaf hle _ hlt _ ih => exact ⟨by omega, ih.2⟩

/-- A tiling may begin earlier, with a gap. -/
lemma widen (h : Tiles source gaps mid stop leaves intervals) (hle : pos ≤ mid)
    (hgap : pos = mid ∨ gaps) : Tiles source gaps pos stop leaves intervals := by
  rcases hgap with rfl | hgaps
  · exact h
  · cases h with
    | done hle' hsize _ => exact .done (by omega) hsize (Or.inr hgaps)
    | leaf hle' _ hlt hrest => exact .leaf (by omega) (Or.inr hgaps) hlt hrest

lemma append (h : Tiles source gaps pos mid leaves intervals)
    (h' : Tiles source gaps mid stop more rest) :
    Tiles source gaps pos stop (leaves ++ more) (intervals ++ rest) := by
  induction h with
  | done hle _ hgap => exact h'.widen hle hgap
  | leaf hle hgap hlt _ ih => exact .leaf hle hgap hlt (ih h')

/-- The intervals are not empty, and lie between the two positions. -/
lemma interval_bounds (h : Tiles source gaps pos stop leaves intervals) :
    ∀ i ∈ intervals, pos ≤ i.1 ∧ i.1 < i.2 ∧ i.2 ≤ stop := by
  induction h with
  | done => simp
  | leaf hle _ hlt hrest ih =>
    rw [List.forall_mem_cons]
    refine ⟨⟨hle, hlt, hrest.bounds.1⟩, fun i hi => ?_⟩
    obtain ⟨hpos, hi⟩ := ih i hi
    exact ⟨by omega, hi⟩

/-- Every interval ends before the next one begins. -/
lemma pairwise (h : Tiles source gaps pos stop leaves intervals) :
    intervals.Pairwise fun i j => i.2 ≤ j.1 := by
  induction h with
  | done => exact List.Pairwise.nil
  | leaf _ _ _ hrest ih =>
    exact List.pairwise_cons.mpr ⟨fun i hi => (hrest.interval_bounds i hi).1, ih⟩

/-- The leaves and the intervals belong together one by one. -/
lemma bytes?_eq (h : Tiles source gaps pos stop leaves intervals) :
    leaves.map ParseTree.bytes? = intervals.map fun i => some (source.slice i.1 i.2) := by
  induction h with
  | done => rfl
  | leaf _ _ _ _ ih => rw [List.map_cons, List.map_cons, ih]; rfl

lemma bytes_ne_nil (h : Tiles source gaps pos stop leaves intervals) :
    ∀ leaf ∈ leaves, ∃ bytes, leaf.bytes? = some bytes ∧ bytes ≠ [] := by
  induction h with
  | done => simp
  | leaf _ _ hlt hrest ih =>
    rw [List.forall_mem_cons]
    refine ⟨⟨_, rfl, ?_⟩, ih⟩
    have hsize := hrest.bounds
    rw [Source.slice_eq_take, ← List.length_pos_iff]
    simp
    omega

/-- Without gaps, every position lies in an interval. -/
lemma covers (h : Tiles source gaps pos stop leaves intervals) (hgaps : ¬ gaps) :
    ∀ p, pos ≤ p → p < stop → ∃ i ∈ intervals, i.1 ≤ p ∧ p < i.2 := by
  induction h with
  | done _ _ hgap =>
    obtain rfl := hgap.resolve_right hgaps
    intro p hp hlt
    omega
  | @leaf _ _ next _ _ _ _ _ hgap _ _ ih =>
    obtain rfl := hgap.resolve_right hgaps
    intro p hp hlt
    by_cases hnext : p < next
    · exact ⟨_, List.mem_cons_self, hp, hnext⟩
    · obtain ⟨i, hi, hin⟩ := ih p (by omega) hlt
      exact ⟨i, List.mem_cons_of_mem _ hi, hin⟩

/-- Without gaps, the bytes of the leaves are those between the two positions. -/
lemma flatMap_bytes (h : Tiles source gaps pos stop leaves intervals) (hgaps : ¬ gaps) :
    (leaves.flatMap fun leaf => leaf.bytes?.getD []) = source.slice pos stop := by
  induction h with
  | done _ _ hgap =>
    obtain rfl := hgap.resolve_right hgaps
    simp [Source.slice_eq_take]
  | leaf _ hgap hlt hrest ih =>
    obtain rfl := hgap.resolve_right hgaps
    rw [List.flatMap_cons, ih]
    exact source.slice_append (by omega) hrest.bounds.1

end Tiles

/-- There are intervals for the leaves. -/
def Tiled (source : Source) (gaps : Prop) (pos stop : Nat) (leaves : List ParseTree) : Prop :=
  ∃ intervals, Tiles source gaps pos stop leaves intervals

namespace Tiled

variable {source : Source} {gaps : Prop} {pos mid stop : Nat} {leaves more : List ParseTree}

lemma stop_le (h : Tiled source gaps pos stop leaves) : stop ≤ source.size := by
  obtain ⟨intervals, h⟩ := h
  exact h.bounds.2

lemma append (h : Tiled source gaps pos mid leaves) (h' : Tiled source gaps mid stop more) :
    Tiled source gaps pos stop (leaves ++ more) := by
  obtain ⟨intervals, h⟩ := h
  obtain ⟨rest, h'⟩ := h'
  exact ⟨intervals ++ rest, h.append h'⟩

lemma nil (hpos : pos ≤ source.size) : Tiled source gaps pos pos [] :=
  ⟨[], .done (Nat.le_refl pos) hpos (Or.inl rfl)⟩

/-- The bytes that a terminal matches are one leaf, unless there are none. -/
lemma terminal (name : String) {bytes : List UInt8} (hpos : pos ≤ source.size)
    (h : bytes <+: source.suffix pos) :
    Tiled source gaps pos (pos + bytes.length)
      (Match.leaves { tree := if bytes.isEmpty then none else some (.leaf name bytes),
                      length := bytes.length }) := by
  have hlength := h.length_le
  rw [Source.length_suffix] at hlength
  cases bytes with
  | nil => exact nil hpos
  | cons b rest =>
    have hslice : source.slice pos (pos + (b :: rest).length) = b :: rest := by
      rw [Source.slice_eq_take, Nat.add_sub_cancel_left, ← List.prefix_iff_eq_take.mp h]
    have htiles : Tiles source gaps pos (pos + (b :: rest).length)
        [.leaf name (source.slice pos (pos + (b :: rest).length))]
        [(pos, pos + (b :: rest).length)] :=
      .leaf (Nat.le_refl pos) (Or.inl rfl) (by simp)
        (.done (Nat.le_refl _) (by omega) (Or.inl rfl))
    rw [hslice] at htiles
    exact ⟨_, htiles⟩

end Tiled

/-! ### Attempts -/

namespace Attempt

/-- Whenever the attempt succeeds, the leaves of the match tile what it consumed. -/
def Tiling (source : Source) (gaps : Prop) (a : Attempt) : Prop :=
  ∀ pos ≤ source.size, ∀ t m after, a pos t = (.ok m, after) →
    Tiled source gaps pos (pos + m.length) m.leaves

variable {s : Setup} {gaps : Prop} {a b : Attempt}

lemma tiling_fail (expected : String) : Tiling s.source gaps (s.fail expected) := by
  intro pos hpos t m after h
  simp [Setup.fail] at h

lemma tiling_overflow : Tiling s.source gaps s.overflow := by
  intro pos hpos t m after h
  simp [Setup.overflow] at h

lemma Tiling.unlessOverflown (ha : a.Tiling s.source gaps) :
    a.unlessOverflown.Tiling s.source gaps := by
  intro pos hpos t m after h
  rw [Attempt.unlessOverflown] at h
  split at h
  · simp at h
  · exact ha pos hpos t m after h

lemma tiling_terminal (name expected : String) {find? : Nat → Option (List UInt8)}
    (hfind : ∀ pos bytes, find? pos = some bytes → bytes <+: s.source.suffix pos) :
    (terminal s name expected find?).Tiling s.source gaps := by
  intro pos hpos t m after h
  rw [terminal] at h
  split at h
  · rename_i bytes hbytes
    obtain ⟨⟨⟩, -⟩ := Prod.mk.inj h
    exact .terminal name hpos (hfind pos bytes hbytes)
  · exact tiling_fail expected pos hpos t m after h

lemma Tiling.optional (ha : a.Tiling s.source gaps) : (optional a).Tiling s.source gaps := by
  intro pos hpos t m after h
  rw [Attempt.optional] at h
  split at h
  · rename_i after' hresult
    obtain ⟨⟨⟩, -⟩ := Prod.mk.inj h
    exact ha pos hpos t _ after' hresult
  · obtain ⟨⟨⟩, -⟩ := Prod.mk.inj h
    exact .nil hpos

lemma Tiling.orElse (ha : a.Tiling s.source gaps) (hb : b.Tiling s.source gaps) :
    (orElse a b).Tiling s.source gaps := by
  intro pos hpos t m after h
  rw [Attempt.orElse] at h
  split at h
  · rename_i after' hresult
    obtain ⟨⟨⟩, -⟩ := Prod.mk.inj h
    exact ha pos hpos t _ after' hresult
  · split at h
    · rename_i after' hresult
      obtain ⟨⟨⟩, -⟩ := Prod.mk.inj h
      exact hb pos hpos _ _ after' hresult
    · simp at h

/-- What is discarded is a gap. -/
lemma Tiling.discard (ha : a.Tiling s.source gaps) (hgaps : gaps) :
    (discard s a).Tiling s.source gaps := by
  intro pos hpos t m after h
  rw [Attempt.discard] at h
  split at h
  · rename_i m' after' hresult
    obtain ⟨⟨⟩, -⟩ := Prod.mk.inj h
    have hstop := (ha pos hpos t m' after' hresult).stop_le
    exact ⟨[], .done (Nat.le_add_right _ _) hstop (Or.inr hgaps)⟩
  · split at h
    · obtain ⟨⟨⟩, -⟩ := Prod.mk.inj h
      exact .nil hpos
    · simp at h

lemma leaves_joinTrees (name : String) (ts : List ParseTree) :
    (joinTrees name ts).toList.flatMap ParseTree.leaves = ts.flatMap ParseTree.leaves := by
  match ts with
  | [] => rfl
  | [t] => rfl
  | t :: u :: ts => simp [joinTrees]

/-- The trees built so far, the last one first, and those of one more match. -/
lemma leaves_append_built (m : Match) (built : List ParseTree) :
    (m.tree.toList ++ built).reverse.flatMap ParseTree.leaves =
      built.reverse.flatMap ParseTree.leaves ++ m.leaves := by
  cases htree : m.tree <;> simp [Match.leaves, htree]

lemma tiled_sequenceFrom {as : List Attempt} (has : ∀ a ∈ as, a.Tiling s.source gaps)
    (name : String) {start : Nat} {built : List ParseTree} {length : Nat}
    (hbuilt : Tiled s.source gaps start (start + length) (built.reverse.flatMap ParseTree.leaves))
    {t : Trail} {m : Match} {after : Trail}
    (h : sequenceFrom name start as built length t = (.ok m, after)) :
    Tiled s.source gaps start (start + m.length) m.leaves := by
  induction as generalizing built length t with
  | nil =>
    rw [sequenceFrom] at h
    obtain ⟨⟨⟩, -⟩ := Prod.mk.inj h
    rw [Match.leaves, leaves_joinTrees]
    exact hbuilt
  | cons a as ih =>
    rw [List.forall_mem_cons] at has
    rw [sequenceFrom] at h
    split at h
    · rename_i m' after' hresult
      have hm := has.1 _ hbuilt.stop_le t m' after' hresult
      refine ih has.2 ?_ h
      rw [leaves_append_built, ← Nat.add_assoc]
      exact hbuilt.append hm
    · simp at h

lemma tiling_sequence {as : List Attempt} (has : ∀ a ∈ as, a.Tiling s.source gaps) (name : String) :
    (sequence name as).Tiling s.source gaps :=
  fun _ hpos _ _ _ h => tiled_sequenceFrom has name (.nil hpos) h

lemma tiled_collect (ha : a.Tiling s.source gaps) {start : Nat} (fuel : Nat) {pos : Nat}
    {built : List ParseTree}
    (hbuilt : Tiled s.source gaps start pos (built.reverse.flatMap ParseTree.leaves)) (t : Trail) :
    Tiled s.source gaps start (collect a fuel pos built t).1.2
      ((collect a fuel pos built t).1.1.reverse.flatMap ParseTree.leaves) := by
  induction fuel generalizing pos built t with
  | zero => exact hbuilt
  | succ fuel ih =>
    rw [collect]
    split
    · rename_i m after hresult
      split
      · exact hbuilt
      · refine ih ?_ after
        rw [leaves_append_built]
        exact hbuilt.append (ha pos hbuilt.stop_le t m after hresult)
    · exact hbuilt

lemma tiled_collectFrom (ha : a.Tiling s.source gaps) (name : String) {start pos : Nat}
    {built : List ParseTree}
    (hbuilt : Tiled s.source gaps start pos (built.reverse.flatMap ParseTree.leaves))
    {t : Trail} {m : Match} {after : Trail}
    (h : collectFrom s name a start pos built t = (.ok m, after)) :
    Tiled s.source gaps start (start + m.length) m.leaves := by
  have hcollect := tiled_collect ha (s.source.size - pos + 1) hbuilt t
  rw [collectFrom] at h
  generalize collect a (s.source.size - pos + 1) pos built t = collected at h hcollect
  obtain ⟨⟨trees, stop⟩, trail⟩ := collected
  obtain ⟨⟨⟩, -⟩ := Prod.mk.inj h
  obtain ⟨intervals, htiles⟩ := hcollect
  refine ⟨intervals, ?_⟩
  rw [Nat.add_sub_cancel' htiles.bounds.1]
  simpa [Match.leaves] using htiles

lemma Tiling.star (ha : a.Tiling s.source gaps) (name : String) :
    (star s name a).Tiling s.source gaps :=
  fun _ hpos _ _ _ h => tiled_collectFrom ha name (.nil hpos) h

lemma Tiling.plus (ha : a.Tiling s.source gaps) (name : String) :
    (plus s name a).Tiling s.source gaps := by
  intro pos hpos t m after h
  rw [Attempt.plus] at h
  split at h
  · rename_i first after' hresult
    have hfirst := ha pos hpos t first after' hresult
    have hleaves : first.tree.toList.reverse.flatMap ParseTree.leaves = first.leaves := by
      cases htree : first.tree <;> simp [Match.leaves, htree]
    split at h
    · rename_i hempty
      obtain ⟨⟨⟩, -⟩ := Prod.mk.inj h
      rw [hempty] at hfirst
      simpa [Match.leaves] using hfirst
    · exact tiled_collectFrom ha name (by rwa [hleaves]) h
  · simp at h

end Attempt

/-! ### Rules -/

namespace Rule

/-- Whether parts and links lead from the rule to the other one. -/
def LeadsTo (graph : RuleGraph) : Rule → Rule → Prop :=
  Relation.ReflTransGen fun rule next => next ∈ rule.dependencies ∨
    ∃ name target key, rule = .reference name target (some key) ∧ graph key = some next

/-- Only where gaps are allowed does the rule lead to a discarded one. -/
def DiscardsOnlyIf (graph : RuleGraph) (gaps : Prop) (rule : Rule) : Prop :=
  ∀ name child, rule.LeadsTo graph (.discard name child) → gaps

variable {s : Setup} {graph : RuleGraph} {gaps : Prop}

lemma DiscardsOnlyIf.of_part {rule part : Rule} (h : rule.DiscardsOnlyIf graph gaps)
    (hpart : part ∈ rule.dependencies) : part.DiscardsOnlyIf graph gaps :=
  fun name child hleads => h name child (.head (Or.inl hpart) hleads)

lemma DiscardsOnlyIf.of_link {name target key : String} {rule : Rule}
    (h : (reference name target (some key)).DiscardsOnlyIf graph gaps)
    (hkey : graph key = some rule) :
    rule.DiscardsOnlyIf graph gaps :=
  fun name' child hleads => h name' child (.head (Or.inr ⟨name, target, key, rfl, hkey⟩) hleads)

/-- The leaves of a match tile what it consumed, with gaps only where a rule is discarded. -/
theorem attemptWithin_tiling (levels : Nat) (rule : Rule) :
    rule.DiscardsOnlyIf graph gaps → (rule.attemptWithin s graph levels).Tiling s.source gaps := by
  induction levels, rule using Rule.inductionWithin with
  | literal levels name bytes =>
    intro _
    rw [attemptWithin_eq_attempt]
    exact (Attempt.tiling_terminal _ _ fun _ _ => Source.isPrefix_of_matchLiteral?).unlessOverflown
  | pattern levels name p =>
    intro _
    rw [attemptWithin_eq_attempt]
    exact (Attempt.tiling_terminal _ _ fun _ _ => Source.isPrefix_of_matchPattern?).unlessOverflown
  | reference levels name target link ih =>
    intro hgaps
    rw [attemptWithin_eq_attempt]
    refine Attempt.Tiling.unlessOverflown ?_
    intro pos hpos t m after h
    cases hlink : link.bind (enterWithin s graph levels) with
    | none =>
      rw [hlink] at h
      exact Attempt.tiling_fail _ pos hpos t m after h
    | some a =>
      rw [hlink] at h
      obtain ⟨key, rfl, hkey⟩ := Option.bind_eq_some_iff.mp hlink
      cases levels with
      | zero =>
        obtain ⟨rule, -, rfl⟩ := Option.map_eq_some_iff.mp hkey
        exact Attempt.tiling_overflow pos hpos t m after h
      | succ left =>
        obtain ⟨rule, hrule, rfl⟩ := Option.map_eq_some_iff.mp hkey
        exact ih left (Nat.lt_succ_self left) rule (hgaps.of_link hrule) pos hpos t m after h
  | concat levels name parts ih =>
    intro hgaps
    rw [attemptWithin_eq_attempt]
    refine Attempt.Tiling.unlessOverflown (Attempt.tiling_sequence ?_ name)
    rw [attempts_eq_map, ← attemptWithin_eq_attempt, List.forall_mem_map]
    exact fun part hpart => ih part hpart (hgaps.of_part hpart)
  | plus levels name child ih =>
    intro hgaps
    have hchild := ih (hgaps.of_part (by simp [dependencies]))
    rw [attemptWithin_eq_attempt] at hchild ⊢
    exact (hchild.plus name).unlessOverflown
  | star levels name child ih =>
    intro hgaps
    have hchild := ih (hgaps.of_part (by simp [dependencies]))
    rw [attemptWithin_eq_attempt] at hchild ⊢
    exact (hchild.star name).unlessOverflown
  | optional levels name child ih =>
    intro hgaps
    have hchild := ih (hgaps.of_part (by simp [dependencies]))
    rw [attemptWithin_eq_attempt] at hchild ⊢
    exact hchild.optional.unlessOverflown
  | alternate levels name left right ihl ihr =>
    intro hgaps
    have hleft := ihl (hgaps.of_part (by simp [dependencies]))
    have hright := ihr (hgaps.of_part (by simp [dependencies]))
    rw [attemptWithin_eq_attempt] at hleft hright ⊢
    exact (hleft.orElse hright).unlessOverflown
  | discard levels name child ih =>
    intro hgaps
    have hchild := ih (hgaps.of_part (by simp [dependencies]))
    rw [attemptWithin_eq_attempt] at hchild ⊢
    exact (hchild.discard (hgaps name child .refl)).unlessOverflown

end Rule

/-- The leaves of a match are stretches of the input inside of what was consumed: not empty, in
order and apart from each other. If nothing is discarded, then there are no gaps, and the tree
holds exactly the bytes that were consumed. -/
theorem Context.leaves_of_matchAt (cx : Context) (graph : RuleGraph) (rule : Rule) {pos : Nat}
    (hpos : pos ≤ cx.source.size) {m : Match} (h : (cx.matchAt graph rule pos).1 = .ok m) :
    pos + m.length ≤ cx.source.size ∧
    (∀ leaf ∈ m.leaves, ∃ bytes, leaf.bytes? = some bytes ∧ bytes ≠ []) ∧
    ∃ intervals : List (Nat × Nat),
      intervals.Pairwise (fun i j => i.2 ≤ j.1) ∧
      (∀ i ∈ intervals, pos ≤ i.1 ∧ i.1 < i.2 ∧ i.2 ≤ pos + m.length) ∧
      m.leaves.map ParseTree.bytes? = intervals.map (fun i => some (cx.source.slice i.1 i.2)) ∧
      ((∀ name child, ¬ rule.LeadsTo graph (.discard name child)) →
        (∀ p, pos ≤ p → p < pos + m.length → ∃ i ∈ intervals, i.1 ≤ p ∧ p < i.2) ∧
          m.bytes = cx.source.slice pos (pos + m.length)) := by
  have htiling := Rule.attemptWithin_tiling (cx.maxDepth - cx.depth) rule (s := cx.toSetup)
    (fun name child hleads => ⟨name, child, hleads⟩ :
      rule.DiscardsOnlyIf graph (∃ name child, rule.LeadsTo graph (.discard name child)))
  obtain ⟨intervals, htiles⟩ := htiling pos hpos cx.toTrail m _ (Prod.ext h rfl)
  refine ⟨htiles.bounds.2, htiles.bytes_ne_nil, intervals, htiles.pairwise,
    htiles.interval_bounds, htiles.bytes?_eq, fun hnone => ?_⟩
  have hgaps : ¬ ∃ name child, rule.LeadsTo graph (.discard name child) := by
    rintro ⟨name, child, hleads⟩
    exact hnone name child hleads
  exact ⟨htiles.covers hgaps, m.bytes_eq.trans (htiles.flatMap_bytes hgaps)⟩

/-- A repetition of a letter, with another letter behind it. -/
theorem Context.leaves_of_matchAt_letters :
    let cx : Context := { source := .ofBytes [97, 97, 98] }
    let graph : RuleGraph := fun _ => none
    let rule : Rule := .star "'a'*" (.literal "'a'" [97])
    ∃ m, (0 ≤ cx.source.size ∧ (cx.matchAt graph rule 0).1 = .ok m) ∧
      (∀ name child, ¬ rule.LeadsTo graph (.discard name child)) ∧ m.bytes = [97, 97] := by
  intro cx graph rule
  have hnone : ∀ name child,
      ¬ (Rule.star "'a'*" (.literal "'a'" [97])).LeadsTo graph (.discard name child) := by
    intro name child hleads
    rcases Relation.ReflTransGen.cases_head hleads with heq | ⟨part, hpart, hleads⟩
    · cases heq
    rcases hpart with hpart | ⟨_, _, _, heq, -⟩
    · obtain rfl := List.mem_singleton.mp hpart
      rcases Relation.ReflTransGen.cases_head hleads with heq | ⟨part, hpart, -⟩
      · cases heq
      · rcases hpart with hpart | ⟨_, _, _, heq, -⟩
        · cases hpart
        · cases heq
    · cases heq
  obtain ⟨-, -, intervals, -, -, -, hcovers⟩ :=
    cx.leaves_of_matchAt graph rule (Nat.zero_le _) rfl
  exact ⟨_, ⟨Nat.zero_le _, rfl⟩, hnone, (hcovers hnone).2.trans rfl⟩

end Peg
