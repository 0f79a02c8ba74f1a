import Peg.Proofs.Match.Leaves
import Peg.Proofs.Match.Simulation

/-!
# Discarding prunes the tree

Where discarding is strict, a rule does what it does without discarding anything: it consumes the
same, fails with the same errors and leaves the same trail. Only the trees are different. They have
fewer leaves, and come without the nodes that would have nothing to hold together.
-/

namespace Peg

/-! ### Rules without discarding -/

namespace Rule

mutual

/-- The rule with all rules in it that are discarded in the place of their discarding. -/
def undiscard : Rule → Rule
  | .literal n b => .literal n b
  | .pattern n p => .pattern n p
  | .reference n target link => .reference n target link
  | .concat n rs => .concat n (undiscardAll rs)
  | .plus n r => .plus n r.undiscard
  | .star n r => .star n r.undiscard
  | .optional n r => .optional n r.undiscard
  | .alternate n r s => .alternate n r.undiscard s.undiscard
  | .discard _ r => r.undiscard

def undiscardAll : List Rule → List Rule
  | [] => []
  | r :: rs => r.undiscard :: undiscardAll rs

end

/-- The definition without discarding; it has the name that it had. -/
def undiscarded (r : Rule) : Rule := r.undiscard.rename r.name

@[simp] lemma undiscardAll_eq_map (rs : List Rule) : undiscardAll rs = rs.map undiscard := by
  induction rs with
  | nil => rfl
  | cons r rs ih => simp [undiscardAll, ih]

lemma mapsParts_undiscard : MapsParts undiscard := by
  constructor <;> simp [undiscard]

/-- Only a rule that is discarded itself does not keep its name. -/
lemma undiscarded_eq (r : Rule) :
    r.undiscarded = r.undiscard ∨ ∃ name child, r = .discard name child := by
  cases r with
  | discard name child => exact Or.inr ⟨name, child, rfl⟩
  | _ => exact Or.inl rfl

lemma undiscard_ne_discard (r : Rule) (name : String) (child : Rule) :
    r.undiscard ≠ .discard name child := by
  induction r using Rule.inductionOn with
  | discard n inner ih => exact ih
  | _ => simp [undiscard]

lemma undiscarded_ne_discard (r : Rule) (name : String) (child : Rule) :
    r.undiscarded ≠ .discard name child := by
  rw [undiscarded]
  cases hr : r.undiscard with
  | discard n inner => exact absurd hr (undiscard_ne_discard r n inner)
  | _ => simp [rename]

lemma exists_undiscard_of_part {r part : Rule} (h : part ∈ r.undiscard.dependencies) :
    ∃ p : Rule, p.undiscard = part := by
  induction r using Rule.inductionOn with
  | literal | pattern | reference => simp [undiscard, dependencies] at h
  | concat name parts =>
    rw [undiscard, undiscardAll_eq_map] at h
    obtain ⟨p, -, rfl⟩ := List.mem_map.mp h
    exact ⟨p, rfl⟩
  | plus name child | star name child | optional name child =>
    obtain rfl := List.mem_singleton.mp h
    exact ⟨child, rfl⟩
  | alternate name left right =>
    have hor : part = left.undiscard ∨ part = right.undiscard := by
      simpa [undiscard, dependencies] using h
    rcases hor with rfl | rfl
    · exact ⟨left, rfl⟩
    · exact ⟨right, rfl⟩
  | discard name child ih => exact ih h

/-- In a graph of rules without discarding, none of them leads to a discarded one. -/
lemma discardsOnlyIf_undiscarded {graph graph' : RuleGraph}
    (hgraph : ∀ key, graph' key = (graph key).map undiscarded) (r : Rule) :
    r.undiscarded.DiscardsOnlyIf graph' False := by
  intro name child hleads
  have hkept : ∀ {rule}, r.undiscarded.LeadsTo graph' rule →
      ∃ p : Rule, p.undiscard = rule ∨ p.undiscarded = rule := by
    intro rule hleads
    induction hleads with
    | refl => exact ⟨r, Or.inr rfl⟩
    | @tail _ next _ hstep ih =>
      obtain ⟨p, hp⟩ := ih
      rcases hstep with hpart | ⟨_, _, key, -, hkey⟩
      · have hpart : next ∈ p.undiscard.dependencies := by
          rcases hp with rfl | rfl
          · exact hpart
          · rwa [undiscarded, dependencies_rename] at hpart
        obtain ⟨q, hq⟩ := exists_undiscard_of_part hpart
        exact ⟨q, Or.inl hq⟩
      · rw [hgraph, Option.map_eq_some_iff] at hkey
        obtain ⟨q, -, hq⟩ := hkey
        exact ⟨q, Or.inr hq⟩
  obtain ⟨p, hp | hp⟩ := hkept hleads
  · exact undiscard_ne_discard p name child hp
  · exact undiscarded_ne_discard p name child hp

end Rule

/-! ### Attempts with fewer leaves -/

/-- The first trees have some of the leaves of the second ones. -/
def Likeness.pruned : Likeness where
  labels l l' := l = l'
  trees ts ts' := (ts.flatMap ParseTree.leaves).Sublist (ts'.flatMap ParseTree.leaves)
  nil := .slnil
  append h h' := by
    rw [List.flatMap_append, List.flatMap_append]
    exact h.append h'
  leaf _ h := by
    obtain rfl := h
    exact List.Sublist.refl _
  node h h' := by simpa using h'
  join h h' := by rwa [Attempt.leaves_joinTrees, Attempt.leaves_joinTrees]

namespace Attempt

variable {like : Likeness} {n : Nat} {s : Setup} {a b c : Attempt}

lemma unlessOverflown_unlessOverflown (a : Attempt) :
    a.unlessOverflown.unlessOverflown = a.unlessOverflown := by
  funext pos t
  cases ht : t.overflow <;> simp [unlessOverflown, ht]

lemma unlessOverflown_attempt (s : Setup) (enter : String → Option Attempt) (r : Rule) :
    (r.attempt s enter).unlessOverflown = r.attempt s enter := by
  cases r <;> exact unlessOverflown_unlessOverflown _

namespace Alike

/-- If trees do not matter, then every attempt does like itself. -/
lemma any_refl (a : Attempt) : Alike .any 0 a a := by
  intro pos t
  rw [Trail.shift_zero, Nat.add_zero]
  obtain ⟨result, next⟩ := a pos t
  cases result with
  | ok m => simpa using @Outcome.Alike.success .any 0 m m next rfl trivial
  | error e => simpa using @Outcome.Alike.failure .any 0 e next

lemma trans_any (h : Alike like n a b) (h' : Alike .any 0 b c) : Alike .any n a c := by
  intro pos t
  rcases h.cases pos t with ⟨m, m', next, ha, hb, hlength, -⟩ | ⟨e, next, ha, hb⟩
  · rcases h'.cases (pos + n) (t.shift n) with
      ⟨m₁, m₂, last, hb', hc, hlength', -⟩ | ⟨e', last, hb', -⟩
    · obtain ⟨⟨⟩, ⟨⟩⟩ := Prod.mk.inj (hb.symm.trans hb')
      rw [Trail.shift_zero, Trail.shift_zero, Nat.add_zero] at hc
      rw [ha, hc]
      exact .success (hlength'.trans hlength) trivial
    · cases hb.symm.trans hb'
  · rcases h'.cases (pos + n) (t.shift n) with
      ⟨m₁, m₂, last, hb', -, -, -⟩ | ⟨e', last, hb', hc⟩
    · cases hb.symm.trans hb'
    · obtain ⟨⟨⟩, ⟨⟩⟩ := Prod.mk.inj (hb.symm.trans hb')
      rw [Trail.shift_zero, Trail.shift_zero, Nat.add_zero] at hc
      rw [ha, hc]
      exact .failure

/-- An attempt that leaves no trees prunes all of them. -/
lemma pruned_of_treeless (h : Alike .any n a b)
    (ha : ∀ pos t m next, a pos t = (.ok m, next) → m.tree = none) : Alike .pruned n a b := by
  intro pos t
  rcases h.cases pos t with ⟨m, m', next, hm, hm', hlength, -⟩ | ⟨e, next, he, he'⟩
  · have htree := ha pos t m next hm
    rw [hm, hm']
    refine .success hlength ?_
    rw [htree]
    exact List.nil_sublist _
  · rw [he, he']
    exact .failure

/-- Where discarding is strict, it makes no difference to anything but trees. -/
lemma discard_any (hstrict : s.lenientDiscard = false) (h : Alike like n a b) :
    Alike .any n (Attempt.discard s a) b := by
  intro pos t
  rw [Attempt.discard, hstrict]
  rcases h.cases pos t with ⟨m, m', next, ha, hb, hlength, -⟩ | ⟨e, next, ha, hb⟩
  · rw [ha, hb]
    exact .success hlength trivial
  · rw [ha, hb]
    exact .failure

end Alike

end Attempt

/-! ### Rules with fewer leaves -/

namespace Rule

variable {s : Setup} {graph graph' : RuleGraph}

/-- Under another name a rule does the same, with other labels. -/
lemma attempt_rename (s : Setup) (enter : String → Option Attempt) (name : String) (r : Rule) :
    Attempt.Alike .any 0 (r.attempt s enter) ((r.rename name).attempt s enter) := by
  have hs := s.mirrors_refl
  cases r with
  | literal n bytes =>
    exact (Attempt.Alike.terminal hs trivial _ fun _ => rfl).unlessOverflown
  | pattern n p => exact (Attempt.Alike.terminal hs trivial _ fun _ => rfl).unlessOverflown
  | concat n parts =>
    rw [rename, attempt, attempt, attempts_eq_map]
    exact (Attempt.Alike.sequence trivial fun _ _ => .any_refl _).unlessOverflown
  | plus n child => exact ((Attempt.Alike.any_refl _).plus hs trivial).unlessOverflown
  | star n child => exact ((Attempt.Alike.any_refl _).star hs trivial).unlessOverflown
  | reference | optional | alternate | discard => exact .any_refl _

lemma tree_of_discard {levels : Nat} {name : String} {child : Rule} {pos : Nat} {t next : Trail}
    {m : Match} (h : attemptWithin s graph levels (.discard name child) pos t = (.ok m, next)) :
    m.tree = none := by
  rw [attemptWithin_eq_attempt, attempt, Attempt.unlessOverflown] at h
  split at h
  · cases h
  rw [Attempt.discard] at h
  split at h
  · obtain ⟨⟨⟩, -⟩ := Prod.mk.inj h
    rfl
  split at h
  · obtain ⟨⟨⟩, -⟩ := Prod.mk.inj h
    rfl
  · cases h

/-- What holds of a rule without discarding holds of the definition: it differs in its name only if
the definition is discarded itself, and then no tree is left that would show it. -/
lemma undiscarded_of_undiscard {levels : Nat} {rule : Rule}
    (h : Attempt.Alike .pruned 0 (rule.attemptWithin s graph levels)
      (rule.undiscard.attemptWithin s graph' levels)) :
    Attempt.Alike .pruned 0 (rule.attemptWithin s graph levels)
      (rule.undiscarded.attemptWithin s graph' levels) := by
  rcases rule.undiscarded_eq with heq | ⟨name, child, rfl⟩
  · rwa [heq]
  · refine Attempt.Alike.pruned_of_treeless ?_ fun _ _ _ _ => tree_of_discard
    rw [attemptWithin_eq_attempt _ graph'] at h ⊢
    exact h.trans_any (attempt_rename s _ name child.undiscard)

/-- Where discarding is strict, a rule does what it does without discarding anything, with some of
the leaves. -/
theorem attemptWithin_undiscard (hstrict : s.lenientDiscard = false)
    (hgraph : ∀ key, graph' key = (graph key).map undiscarded) (levels : Nat) (rule : Rule) :
    Attempt.Alike .pruned 0 (rule.attemptWithin s graph levels)
      (rule.undiscard.attemptWithin s graph' levels) := by
  refine attemptWithin_alike (f := undiscard) s.mirrors_refl (fun _ => rfl) mapsParts_undiscard
    hgraph ?_ (fun _ _ => undiscarded_of_undiscard) levels rule
  intro levels name child hchild
  refine Attempt.Alike.pruned_of_treeless ?_ fun _ _ _ _ => tree_of_discard
  have hdiscard := (hchild.discard_any hstrict).unlessOverflown
  rw [attemptWithin_eq_attempt, attemptWithin_eq_attempt, Attempt.unlessOverflown_attempt]
    at hdiscard
  rw [attemptWithin_eq_attempt, attemptWithin_eq_attempt]
  exact hdiscard

end Rule

/-- A match of a definition without discarding comes to the same, but has all the leaves. -/
theorem Context.matchAt_undiscarded (cx : Context) (hstrict : cx.lenientDiscard = false)
    {graph graph' : RuleGraph} (hgraph : ∀ key, graph' key = (graph key).map Rule.undiscarded)
    (rule : Rule) (pos : Nat) :
    (cx.matchAt graph' rule.undiscarded pos).2 = (cx.matchAt graph rule pos).2 ∧
      ((∃ m m', (cx.matchAt graph rule pos).1 = .ok m ∧
          (cx.matchAt graph' rule.undiscarded pos).1 = .ok m' ∧ m'.length = m.length ∧
          m.leaves.Sublist m'.leaves) ∨
        ∃ e, (cx.matchAt graph rule pos).1 = .error e ∧
          (cx.matchAt graph' rule.undiscarded pos).1 = .error e) := by
  have halike := Rule.undiscarded_of_undiscard
    (Rule.attemptWithin_undiscard hstrict hgraph (cx.maxDepth - cx.depth) rule)
  rw [matchAt, matchAt]
  rcases halike.cases pos cx.toTrail with
    ⟨m, m', t, hm, hm', hlength, hleaves⟩ | ⟨e, t, he, he'⟩
  · rw [Nat.add_zero, Trail.shift_zero, Trail.shift_zero] at hm'
    rw [hm, hm']
    exact ⟨rfl, Or.inl ⟨m, m', rfl, rfl, hlength, hleaves⟩⟩
  · rw [Nat.add_zero, Trail.shift_zero, Trail.shift_zero, MatchError.shift_zero, id] at he'
    rw [he, he']
    exact ⟨rfl, Or.inr ⟨e, rfl, rfl⟩⟩

end Peg
