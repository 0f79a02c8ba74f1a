import Peg.Proofs.Match.Comparison

/-!
# Attempts that do alike

Two attempts do alike if the second one, so many bytes further on, does what the first one does:
it succeeds with a match of the same length, or it fails with the same error so many bytes further
on, and either way it leaves the same trail. How much the trees of the matches have to do with each
other is up to a `Likeness`. What is combined from attempts that do alike does alike.
-/

namespace Peg

/-! ### Errors and trails further on -/

/-- The error so many bytes further on. -/
def MatchError.shift (n : Nat) (e : MatchError) : MatchError :=
  { e with position := e.position + n }

/-- The trail with its errors so many bytes further on. -/
def Trail.shift (n : Nat) (t : Trail) : Trail where
  furthest := t.furthest.map (.shift n)
  overflow := t.overflow.map (.shift n)

@[simp] lemma MatchError.shift_zero : MatchError.shift 0 = id := rfl

@[simp] lemma Trail.shift_zero (t : Trail) : t.shift 0 = t := by
  simp [Trail.shift]

lemma MatchError.shift_furthest (n : Nat) (a b : MatchError) :
    (a.furthest b).shift n = (a.shift n).furthest (b.shift n) := by
  simp only [furthest, shift, Nat.add_lt_add_iff_right]
  split
  · rfl
  · split <;> rfl

/-- The setups do the same, the second one so many bytes further on. -/
structure Setup.Mirrors (n : Nat) (s s' : Setup) : Prop extends s.Agrees n s' where
  width : s'.width = s.width
  maxDepth : s'.maxDepth = s.maxDepth

namespace Setup

variable {n : Nat} {s s' : Setup}

lemma mirrors_refl (s : Setup) : s.Mirrors 0 s where
  toAgrees := agrees_of_source_eq rfl rfl
  width := rfl
  maxDepth := rfl

lemma Mirrors.errorAt (h : s.Mirrors n s') (pos : Nat) (expected : String) :
    s'.errorAt (pos + n) expected = (s.errorAt pos expected).shift n := by
  simp only [Setup.errorAt, MatchError.shift, h.neighborhood, h.width]

end Setup

/-! ### Trees -/

/-- What the trees of two matches have to do with each other: a relation between labels and one
between rows of trees that is kept when trees are built. -/
structure Likeness where
  labels : String → String → Prop
  trees : List ParseTree → List ParseTree → Prop
  nil : trees [] []
  append {ts ts' us us' : List ParseTree} (h : trees ts ts') (h' : trees us us') :
    trees (ts ++ us) (ts' ++ us')
  leaf {l l' : String} (bytes : List UInt8) (h : labels l l') :
    trees [.leaf l bytes] [.leaf l' bytes]
  node {l l' : String} {ts ts' : List ParseTree} (h : labels l l') (h' : trees ts ts') :
    trees [.node l ts] [.node l' ts']
  join {l l' : String} {ts ts' : List ParseTree} (h : labels l l') (h' : trees ts ts') :
    trees (Attempt.joinTrees l ts).toList (Attempt.joinTrees l' ts').toList

/-- The trees are the same. -/
def Likeness.same : Likeness where
  labels l l' := l = l'
  trees ts ts' := ts = ts'
  nil := rfl
  append h h' := by rw [h, h']
  leaf _ h := by rw [h]
  node h h' := by rw [h, h']
  join h h' := by rw [h, h']

/-- The trees do not matter. -/
def Likeness.any : Likeness where
  labels _ _ := True
  trees _ _ := True
  nil := trivial
  append _ _ := trivial
  leaf _ _ := trivial
  node _ _ := trivial
  join _ _ := trivial

/-! ### Outcomes and attempts -/

/-- The outcomes are alike, the second one so many bytes further on. -/
inductive Outcome.Alike (like : Likeness) (n : Nat) : Outcome → Outcome → Prop where
  | success {m m' : Match} {t : Trail} (hlength : m'.length = m.length)
      (htrees : like.trees m.tree.toList m'.tree.toList) :
      Alike like n (.ok m, t) (.ok m', t.shift n)
  | failure {e : MatchError} {t : Trail} :
      Alike like n (.error e, t) (.error (e.shift n), t.shift n)

namespace Attempt

/-- The attempts do alike, the second one so many bytes further on. -/
def Alike (like : Likeness) (n : Nat) (a a' : Attempt) : Prop :=
  ∀ pos t, Outcome.Alike like n (a pos t) (a' (pos + n) (t.shift n))

variable {like : Likeness} {n : Nat} {s s' : Setup} {a a' b b' : Attempt} {name name' : String}

lemma alike_fail (hs : s.Mirrors n s') (expected : String) :
    Alike like n (s.fail expected) (s'.fail expected) := by
  intro pos t
  have hfail : s'.fail expected (pos + n) (t.shift n) =
      (.error ((s.errorAt pos expected).shift n), (s.fail expected pos t).2.shift n) := by
    cases hfurthest : t.furthest with
    | none => simp [Setup.fail, Trail.shift, hs.errorAt, hfurthest]
    | some e => simp [Setup.fail, Trail.shift, hs.errorAt, hfurthest, MatchError.shift_furthest]
  rw [hfail]
  exact .failure

lemma alike_overflow (hs : s.Mirrors n s') : Alike like n s.overflow s'.overflow := by
  intro pos t
  simp only [Setup.overflow, hs.errorAt, hs.maxDepth]
  exact .failure

namespace Alike

/-- What the two attempts come to. -/
lemma cases (h : Alike like n a a') (pos : Nat) (t : Trail) :
    (∃ m m' next, a pos t = (.ok m, next) ∧ a' (pos + n) (t.shift n) = (.ok m', next.shift n) ∧
      m'.length = m.length ∧ like.trees m.tree.toList m'.tree.toList) ∨
    ∃ e next, a pos t = (.error e, next) ∧
      a' (pos + n) (t.shift n) = (.error (e.shift n), next.shift n) := by
  have houtcome := h pos t
  generalize a pos t = outcome at houtcome ⊢
  generalize a' (pos + n) (t.shift n) = outcome' at houtcome ⊢
  cases houtcome with
  | success hlength htrees => exact Or.inl ⟨_, _, _, rfl, rfl, hlength, htrees⟩
  | failure => exact Or.inr ⟨_, _, rfl, rfl⟩

lemma unlessOverflown (h : Alike like n a a') :
    Alike like n a.unlessOverflown a'.unlessOverflown := by
  intro pos t
  rw [Attempt.unlessOverflown, Attempt.unlessOverflown]
  cases ht : t.overflow with
  | none => simpa [Trail.shift, ht] using h pos t
  | some e => simpa [Trail.shift, ht] using @Outcome.Alike.failure like n e t

lemma terminal (hs : s.Mirrors n s') (hname : like.labels name name') (expected : String)
    {find? find?' : Nat → Option (List UInt8)} (hfind : ∀ pos, find?' (pos + n) = find? pos) :
    Alike like n (terminal s name expected find?) (Attempt.terminal s' name' expected find?') := by
  intro pos t
  rw [Attempt.terminal, Attempt.terminal, hfind]
  cases find? pos with
  | none => exact alike_fail hs expected pos t
  | some bytes =>
    refine .success rfl ?_
    cases bytes with
    | nil => exact like.nil
    | cons b bytes => exact like.leaf (b :: bytes) hname

lemma optional (h : Alike like n a a') : Alike like n (optional a) (Attempt.optional a') := by
  intro pos t
  rw [Attempt.optional, Attempt.optional]
  rcases h.cases pos t with ⟨m, m', next, ha, ha', hlength, htrees⟩ | ⟨e, next, ha, ha'⟩
  · rw [ha, ha']
    exact .success hlength htrees
  · rw [ha, ha']
    exact .success rfl like.nil

lemma orElse (h : Alike like n a a') (hb : Alike like n b b') :
    Alike like n (orElse a b) (Attempt.orElse a' b') := by
  intro pos t
  rw [Attempt.orElse, Attempt.orElse]
  rcases h.cases pos t with ⟨m, m', next, ha, ha', hlength, htrees⟩ | ⟨e, next, ha, ha'⟩
  · rw [ha, ha']
    exact .success hlength htrees
  · rw [ha, ha']
    rcases hb.cases pos next with ⟨m, m', last, hb, hb', hlength, htrees⟩ | ⟨e', last, hb, hb'⟩
    · simp only [hb, hb']
      exact .success hlength htrees
    · simp only [hb, hb', ← MatchError.shift_furthest]
      exact .failure

lemma discard (hs : s.Mirrors n s') (h : Alike like n a a') :
    Alike like n (discard s a) (Attempt.discard s' a') := by
  intro pos t
  rw [Attempt.discard, Attempt.discard, hs.lenientDiscard]
  rcases h.cases pos t with ⟨m, m', next, ha, ha', hlength, htrees⟩ | ⟨e, next, ha, ha'⟩
  · rw [ha, ha']
    exact .success hlength like.nil
  · rw [ha, ha']
    cases s.lenientDiscard with
    | true => exact .success rfl like.nil
    | false => exact .failure

/-! ### Rows of attempts -/

/-- Nothing has been built so far. -/
lemma nothing_built : like.trees ([] : List ParseTree).reverse ([] : List ParseTree).reverse :=
  like.nil

/-- The trees built so far, the last one first, and those of one more match. -/
lemma reverse_append_built (m : Match) (built : List ParseTree) :
    (m.tree.toList ++ built).reverse = built.reverse ++ m.tree.toList := by
  cases htree : m.tree <;> simp

lemma sequenceFrom (hname : like.labels name name') {parts : List Rule} {f f' : Rule → Attempt}
    (h : ∀ part ∈ parts, Alike like n (f part) (f' part)) (start : Nat)
    {built built' : List ParseTree} (hbuilt : like.trees built.reverse built'.reverse)
    (length : Nat) (t : Trail) :
    Outcome.Alike like n (sequenceFrom name start (parts.map f) built length t)
      (Attempt.sequenceFrom name' (start + n) (parts.map f') built' length (t.shift n)) := by
  induction parts generalizing built built' length t with
  | nil => exact .success rfl (like.join hname hbuilt)
  | cons part rest ih =>
    rw [List.forall_mem_cons] at h
    rw [List.map_cons, List.map_cons, Attempt.sequenceFrom, Attempt.sequenceFrom,
      Nat.add_right_comm]
    rcases h.1.cases (start + length) t with
      ⟨m, m', next, ha, ha', hlength, htrees⟩ | ⟨e, next, ha, ha'⟩
    · rw [ha, ha']
      simp only [hlength]
      refine ih h.2 ?_ (length + m.length) next
      rw [reverse_append_built, reverse_append_built]
      exact like.append hbuilt htrees
    · rw [ha, ha']
      exact .failure

lemma sequence (hname : like.labels name name') {parts : List Rule} {f f' : Rule → Attempt}
    (h : ∀ part ∈ parts, Alike like n (f part) (f' part)) :
    Alike like n (sequence name (parts.map f)) (Attempt.sequence name' (parts.map f')) :=
  fun pos t => sequenceFrom hname h pos nothing_built 0 t

/-! ### Repetitions -/

lemma collect (h : Alike like n a a') (fuel pos : Nat) {built built' : List ParseTree}
    (hbuilt : like.trees built.reverse built'.reverse) (t : Trail) :
    ∃ trees trees' stop next, collect a fuel pos built t = ((trees, stop), next) ∧
      Attempt.collect a' fuel (pos + n) built' (t.shift n) =
        ((trees', stop + n), next.shift n) ∧
      like.trees trees.reverse trees'.reverse := by
  induction fuel generalizing pos built built' t with
  | zero => exact ⟨built, built', pos, t, rfl, rfl, hbuilt⟩
  | succ fuel ih =>
    rw [Attempt.collect, Attempt.collect]
    rcases h.cases pos t with ⟨m, m', next, ha, ha', hlength, htrees⟩ | ⟨e, next, ha, ha'⟩
    · rw [ha, ha']
      simp only [hlength]
      split
      · exact ⟨built, built', pos, next, rfl, rfl, hbuilt⟩
      · rw [Nat.add_right_comm]
        refine ih (pos + m.length) ?_ next
        rw [reverse_append_built, reverse_append_built]
        exact like.append hbuilt htrees
    · rw [ha, ha']
      exact ⟨built, built', pos, next, rfl, rfl, hbuilt⟩

lemma collectFrom (hs : s.Mirrors n s') (hname : like.labels name name') (h : Alike like n a a')
    (start pos : Nat) {built built' : List ParseTree}
    (hbuilt : like.trees built.reverse built'.reverse) (t : Trail) :
    Outcome.Alike like n (collectFrom s name a start pos built t)
      (Attempt.collectFrom s' name' a' (start + n) (pos + n) built' (t.shift n)) := by
  obtain ⟨trees, trees', stop, next, hcollect, hcollect', htrees⟩ :=
    h.collect (s.source.size - pos + 1) pos hbuilt t
  rw [Attempt.collectFrom, Attempt.collectFrom, hs.size, Nat.add_sub_add_right, hcollect, hcollect']
  exact .success (Nat.add_sub_add_right stop n start) (like.node hname htrees)

lemma star (hs : s.Mirrors n s') (hname : like.labels name name') (h : Alike like n a a') :
    Alike like n (star s name a) (Attempt.star s' name' a') :=
  fun pos t => h.collectFrom hs hname pos pos nothing_built t

lemma plus (hs : s.Mirrors n s') (hname : like.labels name name') (h : Alike like n a a') :
    Alike like n (plus s name a) (Attempt.plus s' name' a') := by
  intro pos t
  rw [Attempt.plus, Attempt.plus]
  rcases h.cases pos t with ⟨m, m', next, ha, ha', hlength, htrees⟩ | ⟨e, next, ha, ha'⟩
  · rw [ha, ha']
    simp only [hlength]
    split
    · exact .success rfl (like.node hname htrees)
    · rw [Nat.add_right_comm]
      refine h.collectFrom hs hname pos (pos + m.length) ?_ next
      have hreverse : ∀ m : Match, m.tree.toList.reverse = m.tree.toList := fun m => by
        simpa using reverse_append_built m []
      rwa [hreverse, hreverse]
  · rw [ha, ha']
    exact .failure

end Alike

end Attempt

/-! ### Rules -/

namespace Rule

/-- A map of rules that keeps the kind of a rule and its name, and maps the parts. What it does to a
discarded rule is open. -/
structure MapsParts (f : Rule → Rule) : Prop where
  literal : ∀ name bytes, f (.literal name bytes) = .literal name bytes
  pattern : ∀ name p, f (.pattern name p) = .pattern name p
  reference : ∀ name target link, f (.reference name target link) = .reference name target link
  concat : ∀ name parts, f (.concat name parts) = .concat name (parts.map f)
  plus : ∀ name child, f (.plus name child) = .plus name (f child)
  star : ∀ name child, f (.star name child) = .star name (f child)
  optional : ∀ name child, f (.optional name child) = .optional name (f child)
  alternate : ∀ name left right, f (.alternate name left right) = .alternate name (f left) (f right)

lemma mapsParts_id : MapsParts id := by
  constructor <;> simp

variable {like : Likeness} {n : Nat} {s s' : Setup} {graph graph' : RuleGraph} {f g : Rule → Rule}

/-- A reference does alike if the rules that it may stand for do within fewer levels. -/
lemma attemptWithin_reference_alike (hs : s.Mirrors n s')
    (hgraph : ∀ key, graph' key = (graph key).map g) {levels : Nat}
    (h : ∀ left < levels, ∀ rule, Attempt.Alike like n (attemptWithin s graph left rule)
      (attemptWithin s' graph' left (g rule))) (name target : String) (link : Option String) :
    Attempt.Alike like n (attemptWithin s graph levels (.reference name target link))
      (attemptWithin s' graph' levels (.reference name target link)) := by
  rw [attemptWithin_eq_attempt, attemptWithin_eq_attempt]
  refine Attempt.Alike.unlessOverflown fun pos t => ?_
  rcases link_cases graph link with ⟨key, rule, rfl, hkey⟩ | hlink
  · have hkey' : graph' key = some (g rule) := by rw [hgraph, hkey, Option.map_some]
    cases levels with
    | zero => simpa [enterWithin, hkey, hkey'] using Attempt.alike_overflow hs pos t
    | succ left =>
      simpa [enterWithin, hkey, hkey'] using h left (Nat.lt_succ_self left) rule pos t
  · have hlink' : link.bind graph' = none := by
      rw [show graph' = Option.map g ∘ graph from funext hgraph, ← Option.map_bind, hlink,
        Option.map_none]
    rw [bind_enterWithin_eq_none hlink, bind_enterWithin_eq_none hlink']
    exact Attempt.alike_fail hs _ pos t

/-- Mapped rules do alike in a graph of mapped rules. What is open is what the map does to discarded
rules, and how the rules of the graph are mapped. -/
theorem attemptWithin_alike (hs : s.Mirrors n s') (hlabels : ∀ l, like.labels l l)
    (hf : MapsParts f) (hgraph : ∀ key, graph' key = (graph key).map g)
    (hdiscard : ∀ levels name child,
      Attempt.Alike like n (attemptWithin s graph levels child)
        (attemptWithin s' graph' levels (f child)) →
      Attempt.Alike like n (attemptWithin s graph levels (.discard name child))
        (attemptWithin s' graph' levels (f (.discard name child))))
    (hg : ∀ levels rule,
      Attempt.Alike like n (attemptWithin s graph levels rule)
        (attemptWithin s' graph' levels (f rule)) →
      Attempt.Alike like n (attemptWithin s graph levels rule)
        (attemptWithin s' graph' levels (g rule)))
    (levels : Nat) (rule : Rule) :
    Attempt.Alike like n (attemptWithin s graph levels rule)
      (attemptWithin s' graph' levels (f rule)) := by
  induction levels, rule using Rule.inductionWithin with
  | literal levels name bytes =>
    rw [hf.literal, attemptWithin_eq_attempt, attemptWithin_eq_attempt]
    exact (Attempt.Alike.terminal hs (hlabels name) _ (hs.literal bytes)).unlessOverflown
  | pattern levels name p =>
    rw [hf.pattern, attemptWithin_eq_attempt, attemptWithin_eq_attempt]
    exact (Attempt.Alike.terminal hs (hlabels name) _ (hs.pattern p)).unlessOverflown
  | reference levels name target link ih =>
    rw [hf.reference]
    exact attemptWithin_reference_alike hs hgraph
      (fun left hlt rule => hg left rule (ih left hlt rule)) name target link
  | concat levels name parts ih =>
    simp only [attemptWithin_eq_attempt] at ih
    rw [hf.concat, attemptWithin_eq_attempt, attemptWithin_eq_attempt, attempt, attempt,
      attempts_eq_map, attempts_eq_map, List.map_map]
    exact (Attempt.Alike.sequence (hlabels name) ih).unlessOverflown
  | plus levels name child ih =>
    rw [attemptWithin_eq_attempt, attemptWithin_eq_attempt] at ih
    rw [hf.plus, attemptWithin_eq_attempt, attemptWithin_eq_attempt]
    exact (ih.plus hs (hlabels name)).unlessOverflown
  | star levels name child ih =>
    rw [attemptWithin_eq_attempt, attemptWithin_eq_attempt] at ih
    rw [hf.star, attemptWithin_eq_attempt, attemptWithin_eq_attempt]
    exact (ih.star hs (hlabels name)).unlessOverflown
  | optional levels name child ih =>
    rw [attemptWithin_eq_attempt, attemptWithin_eq_attempt] at ih
    rw [hf.optional, attemptWithin_eq_attempt, attemptWithin_eq_attempt]
    exact ih.optional.unlessOverflown
  | alternate levels name left right ihl ihr =>
    rw [attemptWithin_eq_attempt, attemptWithin_eq_attempt] at ihl ihr
    rw [hf.alternate, attemptWithin_eq_attempt, attemptWithin_eq_attempt]
    exact (ihl.orElse ihr).unlessOverflown
  | discard levels name child ih => exact hdiscard levels name child ih

end Rule

end Peg
