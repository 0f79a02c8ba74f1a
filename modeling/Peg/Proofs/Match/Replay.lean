import Peg.Proofs.Match.Trace

/-!
# Attempts replay traces

An attempt does what its trace says, whatever the trail before it: `Rule.attemptWithin_replays`. It
has the verdict of the trace, and it leaves the failed visits of the trace in the trail, one after
the other. After an overflow the attempt may still come to anything, but it leaves no more behind.
-/

namespace Peg

/-! ### Failed visits -/

/-- What the rule was to find at its position, if it finds something by itself. -/
def Visit.expectation (v : Visit) : String :=
  match v.rule with
  | .reference _ target _ => s!"resolved rule `{target}`"
  | rule => rule.expectation

lemma Visit.expectation_of_isTerminal {v : Visit} (h : v.rule.isTerminal = true) :
    v.expectation = v.rule.expectation := by
  obtain ⟨rule, pos, chain⟩ := v
  cases rule with
  | literal | pattern => rfl
  | _ => simp [Rule.isTerminal] at h

/-- Whether a literal or a pattern finds nothing at its position, or a reference leads nowhere. -/
def Visit.fails (source : Source) (graph : RuleGraph) (v : Visit) : Bool :=
  match v.rule with
  | .literal _ bytes => (source.matchLiteral? bytes v.pos).isNone
  | .pattern _ p => (source.matchPattern? p v.pos).isNone
  | .reference _ _ link => (link.bind graph).isNone
  | _ => false

/-- The visits that fail by themselves, in order. -/
def Trace.failed {α : Type} (source : Source) (graph : RuleGraph) (t : Trace α) : List Visit :=
  t.visits.filter (Visit.fails source graph)

/-- The trail with one more failure. -/
def Trail.record (t : Trail) (e : MatchError) : Trail :=
  { t with furthest := some ((t.furthest.map (·.furthest e)).getD e) }

/-- The trail after failed visits. -/
def Trail.after (s : Setup) (t : Trail) (failed : List Visit) : Trail :=
  failed.foldl (fun t v => t.record (s.errorAt v.pos v.expectation)) t

variable {s : Setup} {graph : RuleGraph}

lemma Trail.after_append (t : Trail) (before rest : List Visit) :
    t.after s (before ++ rest) = (t.after s before).after s rest := List.foldl_append

@[simp] lemma Trail.overflow_after (t : Trail) (failed : List Visit) :
    (t.after s failed).overflow = t.overflow := by
  induction failed generalizing t with
  | nil => rfl
  | cons v rest ih => exact ih _

namespace Trace

variable {α : Type} {t : Trace α}

@[simp] lemma failed_failure (e : MatchError) :
    (failure e : Trace α).failed s.source graph = [] := rfl

/-- The chain of a visit does not count for its failure. -/
@[simp] lemma after_failed_inside (trail : Trail) (key : String) (pos : Nat) :
    trail.after s ((t.inside key pos).failed s.source graph) =
      trail.after s (t.failed s.source graph) := by
  simp only [failed, inside, Trail.after, List.filter_map, List.foldl_map]
  rfl

end Trace

/-! ### Replaying -/

/-- Whether the outcome of an attempt, from a trail, is what the trace says. -/
inductive Trace.Replays (s : Setup) (graph : RuleGraph) (tr : Trace Match) (t : Trail) :
    Outcome → Prop where
  | success {m : Match} (h : tr.verdict = .success m) :
      Replays s graph tr t (.ok m, t.after s (tr.failed s.source graph))
  | failure {e : MatchError} (h : tr.verdict = .failure e) :
      Replays s graph tr t (.error e, t.after s (tr.failed s.source graph))
  | overflow {e : MatchError} {result : Except MatchError Match} (h : tr.verdict = .overflow e) :
      Replays s graph tr t
        (result, { t.after s (tr.failed s.source graph) with overflow := some e })

lemma Trace.replays_success (m : Match) (t : Trail) :
    (Trace.success m).Replays s graph t (.ok m, t) := .success rfl

lemma Trace.replays_failure (e : MatchError) (t : Trail) :
    (Trace.failure e).Replays s graph t (.error e, t) := .failure rfl

lemma Trace.Replays.of_success {tr : Trace Match} {t : Trail} {outcome : Outcome} {m : Match}
    (h : tr.Replays s graph t outcome) (hverdict : tr.verdict = .success m) :
    outcome = (.ok m, t.after s (tr.failed s.source graph)) := by
  cases h with
  | success h =>
    obtain ⟨⟩ := hverdict.symm.trans h
    rfl
  | failure h | overflow h => cases hverdict.symm.trans h

lemma Trace.Replays.of_failure {tr : Trace Match} {t : Trail} {outcome : Outcome} {e : MatchError}
    (h : tr.Replays s graph t outcome) (hverdict : tr.verdict = .failure e) :
    outcome = (.error e, t.after s (tr.failed s.source graph)) := by
  cases h with
  | failure h =>
    obtain ⟨⟩ := hverdict.symm.trans h
    rfl
  | success h | overflow h => cases hverdict.symm.trans h

lemma Trace.Replays.of_overflow {tr : Trace Match} {t : Trail} {outcome : Outcome} {e : MatchError}
    (h : tr.Replays s graph t outcome) (hverdict : tr.verdict = .overflow e) :
    outcome.2 = { t.after s (tr.failed s.source graph) with overflow := some e } := by
  cases h with
  | overflow h =>
    obtain ⟨⟩ := hverdict.symm.trans h
    rfl
  | success h | failure h => cases hverdict.symm.trans h

/-- An outcome replays any trace with the same verdict that leaves the same trail. -/
lemma Trace.Replays.congr {tr tr' : Trace Match} {t t' : Trail} {outcome : Outcome}
    (h : tr.Replays s graph t outcome) (hverdict : tr'.verdict = tr.verdict)
    (htrail : t'.after s (tr'.failed s.source graph) = t.after s (tr.failed s.source graph)) :
    tr'.Replays s graph t' outcome := by
  cases h with
  | success h => exact htrail ▸ .success (hverdict.trans h)
  | failure h => exact htrail ▸ .failure (hverdict.trans h)
  | overflow h => exact htrail ▸ .overflow (hverdict.trans h)

lemma Trace.Replays.visiting {tr : Trace Match} {t : Trail} {outcome : Outcome} {rule : Rule}
    {pos : Nat} (h : tr.Replays s graph t outcome)
    (hfails : Visit.fails s.source graph { rule, pos } = false) :
    (tr.visiting rule pos).Replays s graph t outcome :=
  h.congr rfl (by simp [Trace.failed, Trace.visiting, hfails])

lemma Trace.Replays.inside {tr : Trace Match} {t : Trail} {outcome : Outcome}
    (h : tr.Replays s graph t outcome) (key : String) (pos : Nat) :
    (tr.inside key pos).Replays s graph t outcome :=
  h.congr rfl (Trace.after_failed_inside t key pos)

/-- To fail by oneself is to replay the trace of a single visit that fails. -/
lemma Trace.replays_fail {rule : Rule} {pos : Nat} {t : Trail}
    (hfails : Visit.fails s.source graph { rule, pos } = true) :
    ((Trace.failure (s.errorAt pos (Visit.expectation { rule, pos }))).visiting rule pos).Replays
      s graph t (s.fail (Visit.expectation { rule, pos }) pos t) := by
  have hfailed : ((Trace.failure (s.errorAt pos (Visit.expectation { rule, pos })) :
      Trace Match).visiting rule pos).failed s.source graph = [{ rule, pos }] := by
    simp [Trace.failed, Trace.visiting, Trace.failure, hfails]
  have htrail : s.fail (Visit.expectation { rule, pos }) pos t =
      (.error (s.errorAt pos (Visit.expectation { rule, pos })), t.after s [{ rule, pos }]) := rfl
  rw [htrail, ← hfailed]
  exact .failure rfl

namespace Attempt

/-- An attempt that does what the traces say unless references were nested too deeply before, and
then does nothing. -/
structure Follows (s : Setup) (graph : RuleGraph) (a : Attempt) (f : Nat → Trace Match) : Prop where
  replays : ∀ pos t, t.overflow = none → (f pos).Replays s graph t (a pos t)
  halts : ∀ pos t e, t.overflow = some e → a pos t = (.error e, t)

variable {a b : Attempt} {f g : Nat → Trace Match}

/-- With the check in front of it, an attempt does nothing after an overflow. -/
lemma Follows.unlessOverflown
    (h : ∀ pos t, t.overflow = none → (f pos).Replays s graph t (a pos t)) :
    Follows s graph a.unlessOverflown f where
  replays pos t ht := by
    rw [Attempt.unlessOverflown, ht]
    exact h pos t ht
  halts pos t e ht := by rw [Attempt.unlessOverflown, ht]

/-- What an attempt comes to, by the verdict of the trace. -/
lemma Follows.cases (h : Follows s graph a f) (pos : Nat) {t : Trail} (ht : t.overflow = none) :
    (∃ m, (f pos).verdict = .success m ∧
      a pos t = (.ok m, t.after s ((f pos).failed s.source graph))) ∨
    (∃ e, (f pos).verdict = .failure e ∧
      a pos t = (.error e, t.after s ((f pos).failed s.source graph))) ∨
    ∃ e result, (f pos).verdict = .overflow e ∧
      a pos t = (result,
        { t.after s ((f pos).failed s.source graph) with overflow := some e }) := by
  have hr := h.replays pos t ht
  generalize a pos t = outcome at hr ⊢
  cases hr with
  | success h => exact Or.inl ⟨_, h, rfl⟩
  | failure h => exact Or.inr (Or.inl ⟨_, h, rfl⟩)
  | overflow h => exact Or.inr (Or.inr ⟨_, _, h, rfl⟩)

/-- To go on after an attempt is to go on after its trace, if nothing more is left behind after an
overflow. -/
lemma Follows.andThen (h : Follows s graph a f) {pos : Nat} {t : Trail} (ht : t.overflow = none)
    {f' : Match → Trace Match} {g' : MatchError → Trace Match}
    (k : Match → Trail → Outcome) (k' : MatchError → Trail → Outcome)
    (hk : ∀ m t, t.overflow = none → (f' m).Replays s graph t (k m t))
    (hk' : ∀ e t, t.overflow = none → (g' e).Replays s graph t (k' e t))
    (hend : ∀ m t e, t.overflow = some e → (k m t).2 = t)
    (hend' : ∀ e' t e, t.overflow = some e → (k' e' t).2 = t) :
    ((f pos).andThen f' g').Replays s graph t
      (match a pos t with
      | (.ok m, t) => k m t
      | (.error e, t) => k' e t) := by
  rcases h.cases pos ht with ⟨m, hm, ha⟩ | ⟨e, he, ha⟩ | ⟨e, result, he, ha⟩
  · rw [ha, Trace.andThen_of_success hm]
    exact (hk m _ (by simpa using ht)).congr rfl (by simp [Trace.failed, Trail.after_append])
  · rw [ha, Trace.andThen_of_failure he]
    exact (hk' e _ (by simpa using ht)).congr rfl (by simp [Trace.failed, Trail.after_append])
  · rw [ha, Trace.andThen_of_overflow he]
    have hover : ∀ outcome : Outcome,
        outcome.2 = { t.after s ((f pos).failed s.source graph) with overflow := some e } →
        Trace.Replays s graph { verdict := .overflow e, visits := (f pos).visits } t outcome := by
      rintro ⟨result, _⟩ rfl
      exact .overflow rfl
    cases result with
    | ok m => exact hover _ (hend m _ e rfl)
    | error e' => exact hover _ (hend' e' _ e rfl)

lemma terminal_replays {name : String} {find? : Nat → Option (List UInt8)} {rule : Rule} {pos : Nat}
    {t : Trail}
    (hfails : Visit.fails s.source graph { rule, pos } = (find? pos).isNone)
    (hrule : Visit.expectation { rule, pos } = rule.expectation) :
    ((Trace.terminal name (s.errorAt pos rule.expectation) (find? pos)).visiting rule pos).Replays
      s graph t (terminal s name rule.expectation find? pos t) := by
  cases hfind : find? pos with
  | some bytes =>
    rw [hfind] at hfails
    refine Trace.Replays.visiting ?_ hfails
    rw [terminal, hfind]
    exact .success rfl
  | none =>
    rw [hfind] at hfails
    rw [terminal, hfind, ← hrule]
    exact Trace.replays_fail hfails

lemma optional_replays (h : Follows s graph a f) (pos : Nat) (t : Trail) (ht : t.overflow = none) :
    (f pos).optional.Replays s graph t (optional a pos t) :=
  h.andThen ht (fun m t => (.ok m, t)) (fun _ t => (.ok {}, t))
    (fun m t _ => Trace.replays_success m t) (fun _ t _ => Trace.replays_success {} t)
    (fun _ _ _ _ => rfl) (fun _ _ _ _ => rfl)

lemma discard_replays (h : Follows s graph a f) (pos : Nat) (t : Trail) (ht : t.overflow = none) :
    ((f pos).discard s).Replays s graph t (discard s a pos t) := by
  refine h.andThen ht (fun m t => (.ok { length := m.length }, t))
    (fun e t => if s.lenientDiscard then (.ok {}, t) else (.error e, t))
    (fun m t _ => Trace.replays_success _ t) ?_ (fun _ _ _ _ => rfl) ?_
  · intro e t _
    split
    · exact Trace.replays_success _ t
    · exact Trace.replays_failure e t
  · intro e' t e _
    split <;> rfl

lemma orElse_replays (ha : Follows s graph a f) (hb : Follows s graph b g) (pos : Nat) (t : Trail)
    (ht : t.overflow = none) :
    ((f pos).orElse (g pos)).Replays s graph t (orElse a b pos t) := by
  refine ha.andThen ht (fun m t => (.ok m, t))
    (fun e t => match b pos t with
      | (.ok m, t) => (.ok m, t)
      | (.error e', t) => (.error (e.furthest e'), t))
    (fun m t _ => Trace.replays_success m t) ?_ (fun _ _ _ _ => rfl) ?_
  · intro e t ht
    exact hb.andThen ht (fun m t => (.ok m, t)) (fun e' t => (.error (e.furthest e'), t))
      (fun m t _ => Trace.replays_success m t) (fun _ t _ => Trace.replays_failure _ t)
      (fun _ _ _ _ => rfl) (fun _ _ _ _ => rfl)
  · intro e' t e ht
    rw [hb.halts pos t e ht]

/-! ### sequences -/

lemma snd_sequenceFrom_of_overflow {parts : List Rule} {a : Rule → Attempt}
    {f : Rule → Nat → Trace Match} (h : ∀ part ∈ parts, Follows s graph (a part) (f part))
    (name : String) (start : Nat) (built : List ParseTree) (length : Nat) {t : Trail}
    {e : MatchError} (ht : t.overflow = some e) :
    (sequenceFrom name start (parts.map a) built length t).2 = t := by
  cases parts with
  | nil => rfl
  | cons part rest =>
    rw [List.map_cons, sequenceFrom, (h part List.mem_cons_self).halts _ t e ht]

lemma sequenceFrom_replays {parts : List Rule} {a : Rule → Attempt}
    {f : Rule → Nat → Trace Match} (h : ∀ part ∈ parts, Follows s graph (a part) (f part))
    (name : String) (start : Nat) (built : List ParseTree) (length : Nat) {t : Trail}
    (ht : t.overflow = none) :
    ((Trace.sequence (parts.map f) (start + length)).map fun r =>
      { tree := joinTrees name (built.reverse ++ r.trees), length := length + r.length }).Replays
        s graph t (sequenceFrom name start (parts.map a) built length t) := by
  induction parts generalizing built length t with
  | nil => simpa [Trace.sequence, sequenceFrom] using Trace.replays_success _ t
  | cons part rest ih =>
    rw [List.forall_mem_cons] at h
    obtain ⟨hpart, hrest⟩ := h
    rw [List.map_cons, List.map_cons, Trace.sequence, Trace.map_andThen]
    refine hpart.andThen ht
      (fun m t =>
        sequenceFrom name start (rest.map a) (m.tree.toList ++ built) (length + m.length) t)
      (fun e t => (.error e, t)) ?_ (fun e t _ => Trace.replays_failure e t) ?_
      (fun _ _ _ _ => rfl)
    · intro m t ht
      rw [Trace.map_map]
      have hm := ih hrest (m.tree.toList ++ built) (length + m.length) ht
      cases htree : m.tree <;> simpa [Match.before, htree, Nat.add_assoc] using hm
    · intro m t e ht
      exact snd_sequenceFrom_of_overflow hrest name start _ _ ht

/-- An attempt puts the trees of a sequence together as the semantics does. -/
lemma joined_eq (name : String) (r : Series) :
    Match.joined name r = { tree := joinTrees name r.trees, length := r.length } := by
  match r with
  | ⟨[], _⟩ => rfl
  | ⟨[_], _⟩ => rfl
  | ⟨_ :: _ :: _, _⟩ => rfl

lemma sequence_replays {parts : List Rule} {a : Rule → Attempt} {f : Rule → Nat → Trace Match}
    (h : ∀ part ∈ parts, Follows s graph (a part) (f part)) (name : String) (pos : Nat)
    (t : Trail) (ht : t.overflow = none) :
    ((Trace.sequence (parts.map f) pos).map (.joined name)).Replays s graph t
      (sequence name (parts.map a) pos t) := by
  have hjoined : Match.joined name = fun r =>
      { tree := joinTrees name (([] : List ParseTree).reverse ++ r.trees)
        length := 0 + r.length } := by
    funext r
    rw [joined_eq, List.reverse_nil, List.nil_append, Nat.zero_add]
  rw [hjoined]
  exact sequenceFrom_replays h name pos [] 0 ht

/-! ### Repetitions -/

/-- The match of a repetition from `start` to `stop`. -/
def repetition (name : String) (start : Nat) : (List ParseTree × Nat) × Trail → Outcome
  | ((built, stop), t) =>
    (.ok { tree := some (.node name built.reverse), length := stop - start }, t)

lemma snd_collect_of_overflow (h : Follows s graph a f) (fuel pos : Nat) (built : List ParseTree)
    {t : Trail} {e : MatchError} (ht : t.overflow = some e) :
    (collect a fuel pos built t).2 = t := by
  cases fuel with
  | zero => rfl
  | succ fuel => rw [collect, h.halts pos t e ht]

lemma collect_replays (h : Follows s graph a f) (name : String) {start : Nat} (fuel : Nat)
    {pos : Nat} (hpos : start ≤ pos) (built : List ParseTree) {t : Trail} (ht : t.overflow = none) :
    ((Trace.collect f fuel pos).map fun r =>
      { tree := some (.node name (built.reverse ++ r.trees)), length := pos - start + r.length
        }).Replays s graph t (repetition name start (collect a fuel pos built t)) := by
  induction fuel generalizing pos built t with
  | zero => simpa [Trace.collect, collect, repetition] using Trace.replays_success _ t
  | succ fuel ih =>
    have hround : repetition name start (collect a (fuel + 1) pos built t) =
        match a pos t with
        | (.ok m, t) => repetition name start (if m.length = 0 then ((built, pos), t)
            else collect a fuel (pos + m.length) (m.tree.toList ++ built) t)
        | (.error _, t) => repetition name start ((built, pos), t) := by
      rw [collect]
      rcases a pos t with ⟨_ | m, t⟩ <;> rfl
    rw [hround, Trace.collect, Trace.map_andThen]
    refine h.andThen ht
      (fun m t => repetition name start (if m.length = 0 then ((built, pos), t)
        else collect a fuel (pos + m.length) (m.tree.toList ++ built) t))
      (fun _ t => repetition name start ((built, pos), t)) ?_ ?_ ?_ (fun _ _ _ _ => rfl)
    · intro m t ht
      split
      · simpa [repetition] using Trace.replays_success _ t
      · rw [Trace.map_map]
        have hm := ih (Nat.le_add_right_of_le (k := m.length) hpos) (m.tree.toList ++ built) ht
        have hlength : pos + m.length - start = pos - start + m.length := by omega
        cases htree : m.tree <;>
          simpa [Match.before, htree, hlength, Nat.add_assoc] using hm
    · intro e t ht
      simpa [repetition] using Trace.replays_success _ t
    · intro m t e ht
      split
      · rfl
      · exact snd_collect_of_overflow h _ _ _ ht

lemma collectFrom_replays (h : Follows s graph a f) (name : String) {start pos : Nat}
    (hpos : start ≤ pos) (built : List ParseTree) {t : Trail} (ht : t.overflow = none) :
    ((Trace.collect f (s.source.size - pos + 1) pos).map fun r =>
      { tree := some (.node name (built.reverse ++ r.trees)), length := pos - start + r.length
        }).Replays s graph t (collectFrom s name a start pos built t) :=
  collect_replays h name _ hpos built ht

lemma snd_collectFrom_of_overflow (h : Follows s graph a f) (name : String) (start pos : Nat)
    (built : List ParseTree) {t : Trail} {e : MatchError} (ht : t.overflow = some e) :
    (collectFrom s name a start pos built t).2 = t :=
  snd_collect_of_overflow h (s.source.size - pos + 1) pos built ht

lemma star_replays (h : Follows s graph a f) (name : String) (pos : Nat) (t : Trail)
    (ht : t.overflow = none) :
    (Trace.star s name f pos).Replays s graph t (star s name a pos t) := by
  have hrepeated : Match.repeated name = fun r =>
      { tree := some (.node name (([] : List ParseTree).reverse ++ r.trees)),
        length := pos - pos + r.length } := by
    funext r
    simp [Match.repeated]
  rw [Trace.star, hrepeated]
  exact collectFrom_replays h name (Nat.le_refl pos) [] ht

lemma plus_replays (h : Follows s graph a f) (name : String) (pos : Nat) (t : Trail)
    (ht : t.overflow = none) :
    (Trace.plus s name f pos).Replays s graph t (plus s name a pos t) := by
  refine h.andThen ht
    (fun m t =>
      if m.length = 0 then (.ok { tree := some (.node name m.tree.toList), length := 0 }, t)
      else collectFrom s name a pos (pos + m.length) m.tree.toList t)
    (fun e t => (.error e, t)) ?_ (fun e t _ => Trace.replays_failure e t) ?_ (fun _ _ _ _ => rfl)
  · intro m t ht
    split
    · simpa [Match.repeated, Match.before, *] using Trace.replays_success _ t
    · have hm := collectFrom_replays h name (Nat.le_add_right pos m.length) m.tree.toList ht
      cases htree : m.tree <;> simpa [Match.repeated.eq_def, Match.before, htree] using hm
  · intro m t e ht
    split
    · rfl
    · exact snd_collectFrom_of_overflow h name _ _ _ ht

end Attempt

/-! ### Rules -/

namespace Rule

/-- What an attempt of a rule does is what the trace of the rule says. -/
theorem attemptWithin_replays (levels : Nat) (rule : Rule) :
    Attempt.Follows s graph (rule.attemptWithin s graph levels)
      (rule.traceWithin s graph levels) := by
  induction levels, rule using Rule.inductionWithin with
  | literal levels name bytes =>
    rw [attemptWithin_eq_attempt]
    refine .unlessOverflown fun pos t ht => ?_
    rw [traceWithin_literal]
    exact Attempt.terminal_replays rfl rfl
  | pattern levels name p =>
    rw [attemptWithin_eq_attempt]
    refine .unlessOverflown fun pos t ht => ?_
    rw [traceWithin_pattern]
    exact Attempt.terminal_replays rfl rfl
  | reference levels name target link ih =>
    rw [attemptWithin_eq_attempt]
    refine .unlessOverflown fun pos t ht => ?_
    rw [traceWithin_reference]
    rcases link_cases graph link with ⟨key, rule, rfl, hkey⟩ | hlink
    · have hfails : Visit.fails s.source graph
          { rule := .reference name target (some key), pos } = false := by
        simp [Visit.fails, hkey]
      rw [Trace.reference_eq_inside hkey]
      refine Trace.Replays.visiting (Trace.Replays.inside ?_ key pos) hfails
      cases levels with
      | zero =>
        simp only [Option.bind_some, enterWithin, hkey, Option.map_some]
        exact .overflow rfl
      | succ left =>
        simp only [Option.bind_some, enterWithin, hkey, Option.map_some]
        exact (ih left (Nat.lt_succ_self left) rule).replays pos t ht
    · have hfails :
          Visit.fails s.source graph { rule := .reference name target link, pos } = true := by
        simp [Visit.fails, hlink]
      rw [Trace.reference_eq_failure hlink, bind_enterWithin_eq_none hlink]
      exact Trace.replays_fail hfails
  | concat levels name parts ih =>
    rw [attemptWithin_eq_attempt]
    refine .unlessOverflown fun pos t ht => ?_
    rw [traceWithin_concat, attempts_eq_map, ← attemptWithin_eq_attempt]
    exact (Attempt.sequence_replays ih name pos t ht).visiting rfl
  | plus levels name child ih =>
    rw [attemptWithin_eq_attempt]
    refine .unlessOverflown fun pos t ht => ?_
    rw [traceWithin_plus, ← attemptWithin_eq_attempt]
    exact (Attempt.plus_replays ih name pos t ht).visiting rfl
  | star levels name child ih =>
    rw [attemptWithin_eq_attempt]
    refine .unlessOverflown fun pos t ht => ?_
    rw [traceWithin_star, ← attemptWithin_eq_attempt]
    exact (Attempt.star_replays ih name pos t ht).visiting rfl
  | optional levels name child ih =>
    rw [attemptWithin_eq_attempt]
    refine .unlessOverflown fun pos t ht => ?_
    rw [traceWithin_optional, ← attemptWithin_eq_attempt]
    exact (Attempt.optional_replays ih pos t ht).visiting rfl
  | alternate levels name left right ihl ihr =>
    rw [attemptWithin_eq_attempt]
    refine .unlessOverflown fun pos t ht => ?_
    rw [traceWithin_alternate, ← attemptWithin_eq_attempt]
    exact (Attempt.orElse_replays ihl ihr pos t ht).visiting rfl
  | discard levels name child ih =>
    rw [attemptWithin_eq_attempt]
    refine .unlessOverflown fun pos t ht => ?_
    rw [traceWithin_discard, ← attemptWithin_eq_attempt]
    exact (Attempt.discard_replays ih pos t ht).visiting rfl

end Rule

/-- A match comes to what its trace says. -/
lemma Context.matchAt_replays (cx : Context) (graph : RuleGraph) (rule : Rule) (pos : Nat)
    (hoverflow : cx.overflow = none) :
    (cx.trace graph rule pos).Replays cx.toSetup graph cx.toTrail
      ((cx.matchAt graph rule pos).1, (cx.matchAt graph rule pos).2.toTrail) :=
  (rule.attemptWithin_replays (cx.maxDepth - cx.depth)).replays pos cx.toTrail hoverflow

end Peg
