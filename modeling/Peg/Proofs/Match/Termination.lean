import Peg.Proofs.Match.Replay
import Peg.Proofs.Source

/-!
# Matching ends

`Runs s graph depth rule pos t outcome loops` says how matching goes on step by step, without any
bound that the definitions of the engine put in by hand: the depth of references counts up, as the
context counts it, and a repetition goes on until its child fails or matches nothing. It also says
how often every repetition on the way tries its child. A run is finite, so matching ends where it
has a run.

Every rule has one at every position, also in graphs where references lead back to themselves or
to nowhere: a reference uses up depth, everything else goes into the parts of a rule, and a
repetition goes on only when bytes were consumed, of which there are only so many.
-/

namespace Peg

/-- A repetition that was gone through: where it started, and how often it tried its child. -/
structure Repetition where
  start : Nat
  attempts : Nat

section

variable (s : Setup) (graph : RuleGraph)

mutual

/-- How a rule is matched inside of `depth` references, and the repetitions gone through. -/
inductive Runs : Nat → Rule → Nat → Trail → Outcome → List Repetition → Prop where
  | overflown {depth : Nat} {rule : Rule} {pos : Nat} {t : Trail} {e : MatchError}
      (h : t.overflow = some e) : Runs depth rule pos t (.error e, t) []
  | literal {depth : Nat} {name : String} {bytes : List UInt8} {pos : Nat} {t : Trail}
      (ht : t.overflow = none) :
      Runs depth (.literal name bytes) pos t (Attempt.terminal s name
        (Rule.literal name bytes).expectation (s.source.matchLiteral? bytes) pos t) []
  | pattern {depth : Nat} {name : String} {p : Pattern} {pos : Nat} {t : Trail}
      (ht : t.overflow = none) :
      Runs depth (.pattern name p) pos t (Attempt.terminal s name
        (Rule.pattern name p).expectation (s.source.matchPattern? p) pos t) []
  | follow {depth : Nat} {name target key : String} {rule : Rule} {pos : Nat} {t : Trail}
      {outcome : Outcome} {loops : List Repetition} (ht : t.overflow = none)
      (hkey : graph key = some rule) (hdepth : depth < s.maxDepth)
      (hrule : Runs (depth + 1) rule pos t outcome loops) :
      Runs depth (.reference name target (some key)) pos t outcome loops
  | tooDeep {depth : Nat} {name target key : String} {rule : Rule} {pos : Nat} {t : Trail}
      (ht : t.overflow = none) (hkey : graph key = some rule) (hdepth : s.maxDepth ≤ depth) :
      Runs depth (.reference name target (some key)) pos t (s.overflow pos t) []
  | dangling {depth : Nat} {name target : String} {link : Option String} {pos : Nat} {t : Trail}
      (ht : t.overflow = none) (hlink : link.bind graph = none) :
      Runs depth (.reference name target link) pos t
        (s.fail s!"resolved rule `{target}`" pos t) []
  | concat {depth : Nat} {name : String} {parts : List Rule} {pos : Nat} {t : Trail}
      {outcome : Outcome} {loops : List Repetition} (ht : t.overflow = none)
      (h : RunsAll depth name pos parts [] 0 t outcome loops) :
      Runs depth (.concat name parts) pos t outcome loops
  | plus {depth : Nat} {name : String} {child : Rule} {pos stop n : Nat} {t t₁ t₂ : Trail}
      {m : Match} {trees : List ParseTree} {loops loops' : List Repetition} (ht : t.overflow = none)
      (h : Runs depth child pos t (.ok m, t₁) loops) (hpos : 0 < m.length)
      (hrest : RunsLoop depth child (pos + m.length) m.tree.toList t₁ trees stop t₂ n loops') :
      Runs depth (.plus name child) pos t
        (.ok { tree := some (.node name trees.reverse), length := stop - pos }, t₂)
        ({ start := pos, attempts := n + 1 } :: (loops ++ loops'))
  | plusEmpty {depth : Nat} {name : String} {child : Rule} {pos : Nat} {t t₁ : Trail} {m : Match}
      {loops : List Repetition} (ht : t.overflow = none)
      (h : Runs depth child pos t (.ok m, t₁) loops) (hempty : m.length = 0) :
      Runs depth (.plus name child) pos t
        (.ok { tree := some (.node name m.tree.toList), length := 0 }, t₁)
        ({ start := pos, attempts := 1 } :: loops)
  | noPlus {depth : Nat} {name : String} {child : Rule} {pos : Nat} {t t₁ : Trail} {e : MatchError}
      {loops : List Repetition} (ht : t.overflow = none)
      (h : Runs depth child pos t (.error e, t₁) loops) :
      Runs depth (.plus name child) pos t (.error e, t₁) ({ start := pos, attempts := 1 } :: loops)
  | star {depth : Nat} {name : String} {child : Rule} {pos stop n : Nat} {t t₁ : Trail}
      {trees : List ParseTree} {loops : List Repetition} (ht : t.overflow = none)
      (h : RunsLoop depth child pos [] t trees stop t₁ n loops) :
      Runs depth (.star name child) pos t
        (.ok { tree := some (.node name trees.reverse), length := stop - pos }, t₁)
        ({ start := pos, attempts := n } :: loops)
  | optional {depth : Nat} {name : String} {child : Rule} {pos : Nat} {t t₁ : Trail} {m : Match}
      {loops : List Repetition} (ht : t.overflow = none)
      (h : Runs depth child pos t (.ok m, t₁) loops) :
      Runs depth (.optional name child) pos t (.ok m, t₁) loops
  | noOptional {depth : Nat} {name : String} {child : Rule} {pos : Nat} {t t₁ : Trail}
      {e : MatchError} {loops : List Repetition} (ht : t.overflow = none)
      (h : Runs depth child pos t (.error e, t₁) loops) :
      Runs depth (.optional name child) pos t (.ok {}, t₁) loops
  | left {depth : Nat} {name : String} {left right : Rule} {pos : Nat} {t t₁ : Trail} {m : Match}
      {loops : List Repetition} (ht : t.overflow = none)
      (h : Runs depth left pos t (.ok m, t₁) loops) :
      Runs depth (.alternate name left right) pos t (.ok m, t₁) loops
  | right {depth : Nat} {name : String} {left right : Rule} {pos : Nat} {t t₁ t₂ : Trail}
      {e : MatchError} {m : Match} {loops loops' : List Repetition} (ht : t.overflow = none)
      (h : Runs depth left pos t (.error e, t₁) loops)
      (hright : Runs depth right pos t₁ (.ok m, t₂) loops') :
      Runs depth (.alternate name left right) pos t (.ok m, t₂) (loops ++ loops')
  | neither {depth : Nat} {name : String} {left right : Rule} {pos : Nat} {t t₁ t₂ : Trail}
      {e e' : MatchError} {loops loops' : List Repetition} (ht : t.overflow = none)
      (h : Runs depth left pos t (.error e, t₁) loops)
      (hright : Runs depth right pos t₁ (.error e', t₂) loops') :
      Runs depth (.alternate name left right) pos t (.error (e.furthest e'), t₂) (loops ++ loops')
  | discard {depth : Nat} {name : String} {child : Rule} {pos : Nat} {t t₁ : Trail} {m : Match}
      {loops : List Repetition} (ht : t.overflow = none)
      (h : Runs depth child pos t (.ok m, t₁) loops) :
      Runs depth (.discard name child) pos t (.ok { length := m.length }, t₁) loops
  | lenientDiscard {depth : Nat} {name : String} {child : Rule} {pos : Nat} {t t₁ : Trail}
      {e : MatchError} {loops : List Repetition} (ht : t.overflow = none)
      (h : Runs depth child pos t (.error e, t₁) loops) (hlenient : s.lenientDiscard = true) :
      Runs depth (.discard name child) pos t (.ok {}, t₁) loops
  | noDiscard {depth : Nat} {name : String} {child : Rule} {pos : Nat} {t t₁ : Trail}
      {e : MatchError} {loops : List Repetition} (ht : t.overflow = none)
      (h : Runs depth child pos t (.error e, t₁) loops) (hlenient : s.lenientDiscard = false) :
      Runs depth (.discard name child) pos t (.error e, t₁) loops

/-- How the parts of a sequence that are left are matched, when `length` bytes and the trees
`built`, the last one first, come from those before. -/
inductive RunsAll : Nat → String → Nat → List Rule → List ParseTree → Nat → Trail → Outcome →
    List Repetition → Prop where
  | done {depth : Nat} {name : String} {start length : Nat} {built : List ParseTree} {t : Trail} :
      RunsAll depth name start [] built length t
        (.ok { tree := Attempt.joinTrees name built.reverse, length }, t) []
  | next {depth : Nat} {name : String} {start length : Nat} {part : Rule} {rest : List Rule}
      {built : List ParseTree} {t t₁ : Trail} {m : Match} {outcome : Outcome}
      {loops loops' : List Repetition} (h : Runs depth part (start + length) t (.ok m, t₁) loops)
      (hrest : RunsAll depth name start rest (m.tree.toList ++ built) (length + m.length) t₁ outcome
        loops') :
      RunsAll depth name start (part :: rest) built length t outcome (loops ++ loops')
  | stop {depth : Nat} {name : String} {start length : Nat} {part : Rule} {rest : List Rule}
      {built : List ParseTree} {t t₁ : Trail} {e : MatchError} {loops : List Repetition}
      (h : Runs depth part (start + length) t (.error e, t₁) loops) :
      RunsAll depth name start (part :: rest) built length t (.error e, t₁) loops

/-- How a repetition goes on from a position: the trees it ends with, the last one first, where it
stops, the trail, and how often it tries its child. -/
inductive RunsLoop : Nat → Rule → Nat → List ParseTree → Trail → List ParseTree → Nat → Trail →
    Nat → List Repetition → Prop where
  | fail {depth : Nat} {child : Rule} {pos : Nat} {built : List ParseTree} {t t₁ : Trail}
      {e : MatchError} {loops : List Repetition} (h : Runs depth child pos t (.error e, t₁) loops) :
      RunsLoop depth child pos built t built pos t₁ 1 loops
  | empty {depth : Nat} {child : Rule} {pos : Nat} {built : List ParseTree} {t t₁ : Trail}
      {m : Match} {loops : List Repetition} (h : Runs depth child pos t (.ok m, t₁) loops)
      (hempty : m.length = 0) : RunsLoop depth child pos built t built pos t₁ 1 loops
  | more {depth : Nat} {child : Rule} {pos stop n : Nat} {built trees : List ParseTree}
      {t t₁ t₂ : Trail} {m : Match} {loops loops' : List Repetition}
      (h : Runs depth child pos t (.ok m, t₁) loops) (hpos : 0 < m.length)
      (hrest : RunsLoop depth child (pos + m.length) (m.tree.toList ++ built) t₁ trees stop t₂ n
        loops') :
      RunsLoop depth child pos built t trees stop t₂ (n + 1) (loops ++ loops')

end

end

variable {s : Setup} {graph : RuleGraph}

/-! ### Matches end inside of the input or where they started -/

lemma Attempt.end_le_of_terminal {name expected : String} {find? : Nat → Option (List UInt8)}
    {pos : Nat} {t t' : Trail} {m : Match} (h : terminal s name expected find? pos t = (.ok m, t'))
    (hfind : ∀ bytes, find? pos = some bytes → bytes <+: s.source.suffix pos) :
    pos + m.length ≤ max pos s.source.size := by
  unfold terminal at h
  split at h
  · next bytes hbytes =>
    obtain ⟨⟨⟩, -⟩ := Prod.mk.inj h
    have hle := (hfind bytes hbytes).length_le
    rw [Source.length_suffix] at hle
    show pos + bytes.length ≤ _
    omega
  · cases h

mutual

lemma Runs.end_le {depth : Nat} {rule : Rule} {pos : Nat} {t t' : Trail} {outcome : Outcome}
    {loops : List Repetition} {m : Match} (h : Runs s graph depth rule pos t outcome loops)
    (hm : outcome = (.ok m, t')) : pos + m.length ≤ max pos s.source.size := by
  match h with
  | .literal _ => exact Attempt.end_le_of_terminal hm fun _ => Source.isPrefix_of_matchLiteral?
  | .pattern _ => exact Attempt.end_le_of_terminal hm fun _ => Source.isPrefix_of_matchPattern?
  | .follow _ _ _ hrule => exact hrule.end_le hm
  | .concat _ h => exact h.end_le hm
  | .plus _ h _ hrest =>
    obtain ⟨⟨⟩, -⟩ := Prod.mk.inj hm
    have hfirst := h.end_le rfl
    have hstop := hrest.stop_le
    simp only
    omega
  | .star _ h =>
    obtain ⟨⟨⟩, -⟩ := Prod.mk.inj hm
    have hstop := h.stop_le
    simp only
    omega
  | .optional _ h => exact h.end_le hm
  | .left _ h => exact h.end_le hm
  | .right _ _ hright => exact hright.end_le hm
  | .discard _ h =>
    obtain ⟨⟨⟩, -⟩ := Prod.mk.inj hm
    have hchild := h.end_le rfl
    exact hchild
  | .plusEmpty _ _ _ | .noOptional _ _ | .lenientDiscard _ _ _ =>
    obtain ⟨⟨⟩, -⟩ := Prod.mk.inj hm
    exact Nat.le_max_left _ _
  | .overflown _ | .tooDeep _ _ _ | .dangling _ _ | .noPlus _ _ | .neither _ _ _
  | .noDiscard _ _ _ => cases hm

lemma RunsAll.end_le {depth : Nat} {name : String} {start length : Nat} {parts : List Rule}
    {built : List ParseTree} {t t' : Trail} {outcome : Outcome} {loops : List Repetition}
    {m : Match} (h : RunsAll s graph depth name start parts built length t outcome loops)
    (hm : outcome = (.ok m, t')) : start + m.length ≤ max (start + length) s.source.size := by
  match h with
  | .done =>
    obtain ⟨⟨⟩, -⟩ := Prod.mk.inj hm
    exact Nat.le_max_left _ _
  | .next h hrest =>
    have hpart := h.end_le rfl
    have hend := hrest.end_le hm
    omega
  | .stop _ => cases hm

lemma RunsLoop.stop_le {depth : Nat} {child : Rule} {pos stop n : Nat}
    {built trees : List ParseTree} {t t' : Trail} {loops : List Repetition}
    (h : RunsLoop s graph depth child pos built t trees stop t' n loops) :
    pos ≤ stop ∧ stop ≤ max pos s.source.size := by
  match h with
  | .fail _ | .empty _ _ => exact ⟨Nat.le_refl _, Nat.le_max_left _ _⟩
  | .more h _ hrest =>
    have hround := h.end_le rfl
    have hstop := hrest.stop_le
    omega

end

/-! ### How often a repetition tries its child -/

/-- The child is tried once for every byte left, and once more. -/
lemma RunsLoop.attempts_le {depth : Nat} {child : Rule} {pos stop n : Nat}
    {built trees : List ParseTree} {t t' : Trail} {loops : List Repetition}
    (h : RunsLoop s graph depth child pos built t trees stop t' n loops) :
    n ≤ (s.source.size - pos) + 1 := by
  match h with
  | .fail _ | .empty _ _ => exact Nat.le_add_left 1 _
  | .more h hpos hrest =>
    have hround := h.end_le rfl
    have hle := hrest.attempts_le
    omega

/-- The repetition tries its child no more than once for every byte left, and twice more. -/
def Repetition.WithinBytes (size : Nat) (loop : Repetition) : Prop :=
  loop.attempts ≤ (size - loop.start) + 2

mutual

/-- All repetitions of a run, also those inside of others, are bounded by the bytes left. -/
theorem Runs.withinBytes {depth : Nat} {rule : Rule} {pos : Nat} {t : Trail} {outcome : Outcome}
    {loops : List Repetition} (h : Runs s graph depth rule pos t outcome loops) :
    ∀ loop ∈ loops, loop.WithinBytes s.source.size := by
  match h with
  | .overflown _ | .literal _ | .pattern _ | .tooDeep _ _ _ | .dangling _ _ =>
    exact List.forall_mem_nil _
  | .follow _ _ _ hrule => exact hrule.withinBytes
  | .concat _ h => exact h.withinBytes
  | .plus _ h hpos hrest =>
    refine List.forall_mem_cons.mpr ⟨?_, ?_⟩
    · have hfirst := h.end_le rfl
      have hle := hrest.attempts_le
      show _ + 1 ≤ _
      simp only
      omega
    · exact List.forall_mem_append.mpr ⟨h.withinBytes, hrest.withinBytes⟩
  | .plusEmpty _ h _ | .noPlus _ h =>
    exact List.forall_mem_cons.mpr ⟨by simp [Repetition.WithinBytes], h.withinBytes⟩
  | .star _ h =>
    exact List.forall_mem_cons.mpr ⟨Nat.le_succ_of_le h.attempts_le, h.withinBytes⟩
  | .optional _ h | .noOptional _ h | .left _ h | .discard _ h => exact h.withinBytes
  | .lenientDiscard _ h _ | .noDiscard _ h _ => exact h.withinBytes
  | .right _ h hright | .neither _ h hright =>
    exact List.forall_mem_append.mpr ⟨h.withinBytes, hright.withinBytes⟩

lemma RunsAll.withinBytes {depth : Nat} {name : String} {start length : Nat} {parts : List Rule}
    {built : List ParseTree} {t : Trail} {outcome : Outcome} {loops : List Repetition}
    (h : RunsAll s graph depth name start parts built length t outcome loops) :
    ∀ loop ∈ loops, loop.WithinBytes s.source.size := by
  match h with
  | .done => exact List.forall_mem_nil _
  | .next h hrest => exact List.forall_mem_append.mpr ⟨h.withinBytes, hrest.withinBytes⟩
  | .stop h => exact h.withinBytes

lemma RunsLoop.withinBytes {depth : Nat} {child : Rule} {pos stop n : Nat}
    {built trees : List ParseTree} {t t' : Trail} {loops : List Repetition}
    (h : RunsLoop s graph depth child pos built t trees stop t' n loops) :
    ∀ loop ∈ loops, loop.WithinBytes s.source.size := by
  match h with
  | .fail h => exact h.withinBytes
  | .empty h _ => exact h.withinBytes
  | .more h _ hrest => exact List.forall_mem_append.mpr ⟨h.withinBytes, hrest.withinBytes⟩

end

/-! ### A run ends with what the engine computes -/

lemma Attempt.unlessOverflown_of_none {t : Trail} (ht : t.overflow = none) (a : Attempt)
    (pos : Nat) : a.unlessOverflown pos t = a pos t := by
  rw [unlessOverflown, ht]

namespace Rule

variable {t : Trail} (ht : t.overflow = none) (levels pos : Nat)

include ht

/-- A linked reference is its rule with one level less, or an overflow where no level is left. -/
lemma attemptWithin_of_link {key : String} {rule : Rule} (hkey : graph key = some rule)
    (name target : String) :
    (reference name target (some key)).attemptWithin s graph levels pos t =
      match levels with
      | 0 => s.overflow pos t
      | left + 1 => rule.attemptWithin s graph left pos t := by
  rw [attemptWithin_eq_attempt, attempt, Attempt.unlessOverflown_of_none ht]
  cases levels with
  | zero => simp [enterWithin, hkey]
  | succ left => simp [enterWithin, hkey]

lemma attemptWithin_concat (name : String) (parts : List Rule) :
    (concat name parts).attemptWithin s graph levels pos t =
      Attempt.sequence name (parts.map (attemptWithin s graph levels)) pos t := by
  rw [attemptWithin_eq_attempt, attempt, Attempt.unlessOverflown_of_none ht, attempts_eq_map]

lemma attemptWithin_plus (name : String) (child : Rule) :
    (plus name child).attemptWithin s graph levels pos t =
      Attempt.plus s name (child.attemptWithin s graph levels) pos t := by
  simp only [attemptWithin_eq_attempt, attempt, Attempt.unlessOverflown_of_none ht]

lemma attemptWithin_star (name : String) (child : Rule) :
    (star name child).attemptWithin s graph levels pos t =
      Attempt.star s name (child.attemptWithin s graph levels) pos t := by
  simp only [attemptWithin_eq_attempt, attempt, Attempt.unlessOverflown_of_none ht]

lemma attemptWithin_optional (name : String) (child : Rule) :
    (optional name child).attemptWithin s graph levels pos t =
      Attempt.optional (child.attemptWithin s graph levels) pos t := by
  simp only [attemptWithin_eq_attempt, attempt, Attempt.unlessOverflown_of_none ht]

lemma attemptWithin_alternate (name : String) (left right : Rule) :
    (alternate name left right).attemptWithin s graph levels pos t =
      Attempt.orElse (left.attemptWithin s graph levels) (right.attemptWithin s graph levels)
        pos t := by
  simp only [attemptWithin_eq_attempt, attempt, Attempt.unlessOverflown_of_none ht]

lemma attemptWithin_discard (name : String) (child : Rule) :
    (discard name child).attemptWithin s graph levels pos t =
      Attempt.discard s (child.attemptWithin s graph levels) pos t := by
  simp only [attemptWithin_eq_attempt, attempt, Attempt.unlessOverflown_of_none ht]

end Rule

mutual

/-- Whatever run a rule has, it ends with what the engine computes. -/
theorem Runs.eq_attemptWithin {depth : Nat} {rule : Rule} {pos : Nat} {t : Trail}
    {outcome : Outcome} {loops : List Repetition}
    (h : Runs s graph depth rule pos t outcome loops) :
    rule.attemptWithin s graph (s.maxDepth - depth) pos t = outcome := by
  match h with
  | .overflown h => exact (Rule.attemptWithin_replays _ _).halts pos t _ h
  | .literal ht | .pattern ht =>
    rw [Rule.attemptWithin_eq_attempt, Rule.attempt, Attempt.unlessOverflown_of_none ht]
  | .follow ht hkey hdepth hrule =>
    rw [Rule.attemptWithin_of_link ht _ _ hkey,
      show s.maxDepth - depth = s.maxDepth - (depth + 1) + 1 by omega]
    exact hrule.eq_attemptWithin
  | .tooDeep ht hkey hdepth =>
    rw [Rule.attemptWithin_of_link ht _ _ hkey, Nat.sub_eq_zero_of_le hdepth]
  | .dangling ht hlink =>
    rw [Rule.attemptWithin_eq_attempt, Rule.attempt, Attempt.unlessOverflown_of_none ht,
      Rule.bind_enterWithin_eq_none hlink]
  | .concat ht h =>
    rw [Rule.attemptWithin_concat ht]
    exact h.eq_sequenceFrom
  | .plus ht h hpos hrest =>
    rw [Rule.attemptWithin_plus ht, Attempt.plus, h.eq_attemptWithin]
    simp only [Nat.ne_of_gt hpos, if_false, Attempt.collectFrom]
    rw [hrest.eq_collect (Nat.lt_succ_self _)]
  | .plusEmpty ht h hempty =>
    rw [Rule.attemptWithin_plus ht, Attempt.plus, h.eq_attemptWithin]
    simp only [hempty, if_true]
  | .noPlus ht h => rw [Rule.attemptWithin_plus ht, Attempt.plus, h.eq_attemptWithin]
  | .star ht h =>
    rw [Rule.attemptWithin_star ht, Attempt.star, Attempt.collectFrom,
      h.eq_collect (Nat.lt_succ_self _)]
  | .optional ht h | .noOptional ht h =>
    rw [Rule.attemptWithin_optional ht, Attempt.optional, h.eq_attemptWithin]
  | .left ht h => rw [Rule.attemptWithin_alternate ht, Attempt.orElse, h.eq_attemptWithin]
  | .right ht h hright | .neither ht h hright =>
    rw [Rule.attemptWithin_alternate ht, Attempt.orElse, h.eq_attemptWithin]
    simp only [hright.eq_attemptWithin]
  | .discard ht h => rw [Rule.attemptWithin_discard ht, Attempt.discard, h.eq_attemptWithin]
  | .lenientDiscard ht h hlenient | .noDiscard ht h hlenient =>
    rw [Rule.attemptWithin_discard ht, Attempt.discard, h.eq_attemptWithin]
    simp [hlenient]

lemma RunsAll.eq_sequenceFrom {depth : Nat} {name : String} {start length : Nat}
    {parts : List Rule} {built : List ParseTree} {t : Trail} {outcome : Outcome}
    {loops : List Repetition}
    (h : RunsAll s graph depth name start parts built length t outcome loops) :
    Attempt.sequenceFrom name start
      (parts.map (Rule.attemptWithin s graph (s.maxDepth - depth))) built length t = outcome := by
  match h with
  | .done => rfl
  | .next h hrest =>
    rw [List.map_cons, Attempt.sequenceFrom, h.eq_attemptWithin]
    exact hrest.eq_sequenceFrom
  | .stop h => rw [List.map_cons, Attempt.sequenceFrom, h.eq_attemptWithin]

/-- One round more than there are bytes left is enough: every round but the last consumes one. -/
lemma RunsLoop.eq_collect {depth : Nat} {child : Rule} {pos stop n : Nat}
    {built trees : List ParseTree} {t t' : Trail} {loops : List Repetition}
    (h : RunsLoop s graph depth child pos built t trees stop t' n loops) {fuel : Nat}
    (hfuel : s.source.size - pos < fuel) :
    Attempt.collect (child.attemptWithin s graph (s.maxDepth - depth)) fuel pos built t =
      ((trees, stop), t') := by
  obtain ⟨fuel, rfl⟩ := Nat.exists_eq_add_one_of_ne_zero (Nat.ne_zero_of_lt hfuel)
  match h with
  | .fail h => rw [Attempt.collect, h.eq_attemptWithin]
  | .empty h hempty =>
    rw [Attempt.collect, h.eq_attemptWithin]
    simp only [hempty, if_true]
  | .more h hpos hrest =>
    have hround := h.end_le rfl
    rw [Attempt.collect, h.eq_attemptWithin]
    simp only [Nat.ne_of_gt hpos, if_false]
    exact hrest.eq_collect (by omega)

end

/-! ### Every rule has a run -/

/-- A rule has a run from every position and trail. -/
def Rule.Halts (s : Setup) (graph : RuleGraph) (depth : Nat) (rule : Rule) : Prop :=
  ∀ pos t, ∃ outcome loops, Runs s graph depth rule pos t outcome loops

lemma exists_runsAll {depth : Nat} {parts : List Rule}
    (h : ∀ part ∈ parts, part.Halts s graph depth) (name : String) (start : Nat)
    (built : List ParseTree) (length : Nat) (t : Trail) :
    ∃ outcome loops, RunsAll s graph depth name start parts built length t outcome loops := by
  induction parts generalizing built length t with
  | nil => exact ⟨_, _, .done⟩
  | cons part rest ih =>
    rw [List.forall_mem_cons] at h
    obtain ⟨hpart, hrest⟩ := h
    obtain ⟨⟨_ | m, t₁⟩, loops, hruns⟩ := hpart (start + length) t
    · exact ⟨_, _, .stop hruns⟩
    · obtain ⟨outcome, loops', hnext⟩ := ih hrest (m.tree.toList ++ built) (length + m.length) t₁
      exact ⟨_, _, .next hruns hnext⟩

/-- A repetition comes to an end, since there are fewer bytes left after every round. -/
lemma exists_runsLoop {depth : Nat} {child : Rule} (h : child.Halts s graph depth) (pos : Nat)
    (built : List ParseTree) (t : Trail) :
    ∃ trees stop t' n loops, RunsLoop s graph depth child pos built t trees stop t' n loops := by
  induction hleft : s.source.size - pos using Nat.strongRecOn generalizing pos built t with
  | ind left ih =>
    obtain ⟨⟨_ | m, t₁⟩, loops, hruns⟩ := h pos t
    · exact ⟨_, _, _, _, _, .fail hruns⟩
    · rcases Nat.eq_zero_or_pos m.length with hempty | hpos
      · exact ⟨_, _, _, _, _, .empty hruns hempty⟩
      · have hround := hruns.end_le rfl
        obtain ⟨trees, stop, t₂, n, loops', hrest⟩ :=
          ih _ (by omega) (pos + m.length) (m.tree.toList ++ built) t₁ rfl
        exact ⟨_, _, _, _, _, .more hruns hpos hrest⟩

/-- A rule has a run unless references were nested too deeply before, and then it does nothing. -/
lemma Rule.halts_of_overflow_eq_none {depth : Nat} {rule : Rule}
    (h : ∀ pos t, t.overflow = none →
      ∃ outcome loops, Runs s graph depth rule pos t outcome loops) :
    rule.Halts s graph depth := by
  intro pos t
  cases ht : t.overflow with
  | none => exact h pos t ht
  | some e => exact ⟨_, _, .overflown ht⟩

/-- Every rule has a run: by induction on the levels of references left, and on the rule. -/
theorem Rule.halts (depth : Nat) (rule : Rule) : rule.Halts s graph depth := by
  generalize hlevels : s.maxDepth - depth = levels
  induction levels, rule using Rule.inductionWithin generalizing depth with
  | literal levels name bytes =>
    refine halts_of_overflow_eq_none fun pos t ht => ?_
    exact ⟨_, _, .literal ht⟩
  | pattern levels name p =>
    refine halts_of_overflow_eq_none fun pos t ht => ?_
    exact ⟨_, _, .pattern ht⟩
  | reference levels name target link ih =>
    refine halts_of_overflow_eq_none fun pos t ht => ?_
    rcases link_cases graph link with ⟨key, rule, rfl, hkey⟩ | hlink
    · by_cases hdepth : depth < s.maxDepth
      · obtain ⟨outcome, loops, h⟩ := ih (levels - 1) (by omega) rule (depth + 1) (by omega) pos t
        exact ⟨_, _, .follow ht hkey hdepth h⟩
      · exact ⟨_, _, .tooDeep ht hkey (Nat.le_of_not_lt hdepth)⟩
    · exact ⟨_, _, .dangling ht hlink⟩
  | concat levels name parts ih =>
    refine halts_of_overflow_eq_none fun pos t ht => ?_
    have hparts : ∀ part ∈ parts, part.Halts s graph depth := fun part hpart =>
      ih part hpart depth hlevels
    obtain ⟨outcome, loops, h⟩ := exists_runsAll hparts name pos [] 0 t
    exact ⟨_, _, .concat ht h⟩
  | plus levels name child ih =>
    refine halts_of_overflow_eq_none fun pos t ht => ?_
    have hchild := ih depth hlevels
    obtain ⟨⟨_ | m, t₁⟩, loops, h⟩ := hchild pos t
    · exact ⟨_, _, .noPlus ht h⟩
    · rcases Nat.eq_zero_or_pos m.length with hempty | hpos
      · exact ⟨_, _, .plusEmpty ht h hempty⟩
      · obtain ⟨trees, stop, t₂, n, loops', hrest⟩ :=
          exists_runsLoop hchild (pos + m.length) m.tree.toList t₁
        exact ⟨_, _, .plus ht h hpos hrest⟩
  | star levels name child ih =>
    refine halts_of_overflow_eq_none fun pos t ht => ?_
    obtain ⟨trees, stop, t₁, n, loops, h⟩ := exists_runsLoop (ih depth hlevels) pos [] t
    exact ⟨_, _, .star ht h⟩
  | optional levels name child ih =>
    refine halts_of_overflow_eq_none fun pos t ht => ?_
    obtain ⟨⟨_ | m, t₁⟩, loops, h⟩ := ih depth hlevels pos t
    · exact ⟨_, _, .noOptional ht h⟩
    · exact ⟨_, _, .optional ht h⟩
  | alternate levels name left right ihl ihr =>
    refine halts_of_overflow_eq_none fun pos t ht => ?_
    obtain ⟨⟨_ | m, t₁⟩, loops, h⟩ := ihl depth hlevels pos t
    · obtain ⟨⟨_ | m, t₂⟩, loops', hright⟩ := ihr depth hlevels pos t₁
      · exact ⟨_, _, .neither ht h hright⟩
      · exact ⟨_, _, .right ht h hright⟩
    · exact ⟨_, _, .left ht h⟩
  | discard levels name child ih =>
    refine halts_of_overflow_eq_none fun pos t ht => ?_
    obtain ⟨⟨_ | m, t₁⟩, loops, h⟩ := ih depth hlevels pos t
    · cases hlenient : s.lenientDiscard with
      | false => exact ⟨_, _, .noDiscard ht h hlenient⟩
      | true => exact ⟨_, _, .lenientDiscard ht h hlenient⟩
    · exact ⟨_, _, .discard ht h⟩

/-! ### Matching a rule of any graph -/

/-- Matching ends on every graph of rules, also where rules refer to themselves or to no rule, and
at every position, also past the end: the rule has a run, every run of it ends with what the match
comes to, and a repetition on the way tries its child at most twice more than there are bytes from
its start on. -/
theorem Context.matchAt_terminates (cx : Context) (graph : RuleGraph) (rule : Rule) (pos : Nat) :
    (∃ outcome loops, Runs cx.toSetup graph cx.depth rule pos cx.toTrail outcome loops) ∧
    ∀ outcome loops, Runs cx.toSetup graph cx.depth rule pos cx.toTrail outcome loops →
      outcome = ((cx.matchAt graph rule pos).1, (cx.matchAt graph rule pos).2.toTrail) ∧
      ∀ loop ∈ loops, loop.attempts ≤ (cx.source.size - loop.start) + 2 := by
  constructor
  · exact rule.halts cx.depth pos cx.toTrail
  · intro outcome loops h
    constructor
    · rw [← h.eq_attemptWithin]
      rfl
    · exact h.withinBytes

/-- A repetition of itself goes down to the limit, and is empty there. -/
example :
    let self := Rule.star "r" (.reference "r" "r" (some "r"))
    let cx : Context := { source := .ofBytes [97], maxDepth := 2 }
    (cx.matchAt (fun _ => some self) self 0).1.toOption =
      some { tree := some (.node "r" []), length := 0 } := by
  rfl

end Peg
