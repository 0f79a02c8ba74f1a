import Mathlib.Data.List.Forall2
import Peg.Proofs.Match.Trace
import Peg.Proofs.Source

/-!
# Positions

Matching is done once more, with a record of what it does with positions: where rules are tried,
which lengths are added to which positions, and the positions of the errors that are built. The
outcome is the same, and whatever is in the record lies between the position where matching began
and the end of the input, or is that position if it lies behind the end.

`Recording.Bounded` is kept up by every way to put attempts together: a match ends inside of the
input or where it began, so what is tried behind it is tried within the same bounds.
-/

namespace Peg

/-! ### Recordings -/

/-- What matching does with positions. -/
inductive Event where
  /-- A rule is tried at a position. -/
  | tried (rule : Rule) (pos : Nat)
  /-- A length is added to a position. -/
  | advanced (pos length : Nat)
  /-- A length is added to the length of what was matched before. -/
  | counted (length more : Nat)
  /-- A position is taken from a later one. -/
  | measured (start stop : Nat)
  /-- An error is built. -/
  | built (e : MatchError)

/-- An outcome, and what was done with positions on the way to it. -/
structure Record where
  outcome : Outcome
  events : List Event := []

/-- A way to match at a position, given the trail so far, that keeps a record. -/
abbrev Recording := Nat → Trail → Record

namespace Recording

def fail (s : Setup) (expected : String) : Recording := fun pos t =>
  { outcome := s.fail expected pos t, events := [.built (s.errorAt pos expected)] }

def overflow (s : Setup) : Recording := fun pos t =>
  { outcome := s.overflow pos t
    events := [.built (s.errorAt pos s!"nesting depth within {s.maxDepth}")] }

/-- Tries the rule, which fails at once if references have been nested too deeply before. -/
def trying (rule : Rule) (r : Recording) : Recording := fun pos t =>
  match t.overflow with
  | some e => { outcome := (.error e, t), events := [.tried rule pos] }
  | none => { outcome := (r pos t).outcome, events := .tried rule pos :: (r pos t).events }

def terminal (s : Setup) (name expected : String) (find? : Nat → Option (List UInt8)) :
    Recording := fun pos t =>
  match find? pos with
  | some bytes =>
    let tree := if bytes.isEmpty then none else some (.leaf name bytes)
    { outcome := (.ok { tree, length := bytes.length }, t) }
  | none => fail s expected pos t

def sequenceFrom (name : String) (start : Nat) :
    List Recording → List ParseTree → Nat → Trail → Record
  | [], built, length, t =>
    { outcome := (.ok { tree := Attempt.joinTrees name built.reverse, length }, t) }
  | r :: rest, built, length, t =>
    let first := r (start + length) t
    match first.outcome with
    | (.ok m, t) =>
      let more := sequenceFrom name start rest (m.tree.toList ++ built) (length + m.length) t
      { outcome := more.outcome
        events := .advanced start length :: first.events ++
          .counted length m.length :: more.events }
    | (.error e, t) =>
      { outcome := (.error e, t)
        events := .advanced start length :: first.events }

def sequence (name : String) (rs : List Recording) : Recording := fun pos t =>
  sequenceFrom name pos rs [] 0 t

def collect (r : Recording) :
    Nat → Nat → List ParseTree → Trail → ((List ParseTree × Nat) × Trail) × List Event
  | 0, pos, built, t => (((built, pos), t), [])
  | fuel + 1, pos, built, t =>
    let round := r pos t
    match round.outcome with
    | (.ok m, t) =>
      if m.length = 0 then (((built, pos), t), round.events)
      else
        let (result, events) := collect r fuel (pos + m.length) (m.tree.toList ++ built) t
        (result, round.events ++ .advanced pos m.length :: events)
    | (.error _, t) => (((built, pos), t), round.events)

def collectFrom (s : Setup) (name : String) (r : Recording) (start pos : Nat)
    (built : List ParseTree) (t : Trail) : Record :=
  let (((built, stop), t), events) := collect r (s.source.size - pos + 1) pos built t
  { outcome := (.ok { tree := some (.node name built.reverse), length := stop - start }, t)
    events := events ++ [.measured start stop] }

def star (s : Setup) (name : String) (r : Recording) : Recording := fun pos t =>
  collectFrom s name r pos pos [] t

def plus (s : Setup) (name : String) (r : Recording) : Recording := fun pos t =>
  let first := r pos t
  match first.outcome with
  | (.ok m, t) =>
    if m.length = 0 then
      { outcome := (.ok { tree := some (.node name m.tree.toList), length := 0 }, t)
        events := first.events ++ [.advanced pos m.length] }
    else
      let rest := collectFrom s name r pos (pos + m.length) m.tree.toList t
      { outcome := rest.outcome, events := first.events ++ .advanced pos m.length :: rest.events }
  | (.error e, t) => { outcome := (.error e, t), events := first.events }

def optional (r : Recording) : Recording := fun pos t =>
  let run := r pos t
  match run.outcome with
  | (.ok m, t) => { outcome := (.ok m, t), events := run.events }
  | (.error _, t) => { outcome := (.ok {}, t), events := run.events }

def orElse (r r' : Recording) : Recording := fun pos t =>
  let first := r pos t
  match first.outcome with
  | (.ok m, t) => { outcome := (.ok m, t), events := first.events }
  | (.error e, t) =>
    let second := r' pos t
    match second.outcome with
    | (.ok m, t) => { outcome := (.ok m, t), events := first.events ++ second.events }
    | (.error e', t) =>
      { outcome := (.error (e.furthest e'), t)
        events := first.events ++ second.events ++ [.built (e.furthest e')] }

def discard (s : Setup) (r : Recording) : Recording := fun pos t =>
  let run := r pos t
  match run.outcome with
  | (.ok m, t) => { outcome := (.ok { length := m.length }, t), events := run.events }
  | (.error e, t) =>
    if s.lenientDiscard then { outcome := (.ok {}, t), events := run.events }
    else { outcome := (.error e, t), events := run.events }

end Recording

mutual

/-- The recording of a rule, where `enter` gives those of linked references. -/
def Rule.recording (s : Setup) (enter : String → Option Recording) : Rule → Recording
  | .literal name bytes =>
    .trying (.literal name bytes) <| .terminal s name (Rule.literal name bytes).expectation
      (s.source.matchLiteral? bytes)
  | .pattern name p =>
    .trying (.pattern name p) <| .terminal s name (Rule.pattern name p).expectation
      (s.source.matchPattern? p)
  | .reference name target link =>
    .trying (.reference name target link) fun pos t =>
      match link.bind enter with
      | some r => r pos t
      | none => Recording.fail s s!"resolved rule `{target}`" pos t
  | .concat name parts =>
    .trying (.concat name parts) <| .sequence name (Rule.recordings s enter parts)
  | .plus name child => .trying (.plus name child) <| .plus s name (child.recording s enter)
  | .star name child => .trying (.star name child) <| .star s name (child.recording s enter)
  | .optional name child => .trying (.optional name child) <| .optional (child.recording s enter)
  | .alternate name left right =>
    .trying (.alternate name left right) <|
      .orElse (left.recording s enter) (right.recording s enter)
  | .discard name child => .trying (.discard name child) <| .discard s (child.recording s enter)

/-- The recordings of some rules. -/
def Rule.recordings (s : Setup) (enter : String → Option Recording) : List Rule → List Recording
  | [] => []
  | r :: rs => r.recording s enter :: Rule.recordings s enter rs

end

/-- The recording of a rule of a graph, with so many levels of references left. -/
def Rule.recordingWithin (s : Setup) (graph : RuleGraph) : Nat → Rule → Recording
  | 0, rule => rule.recording s fun key => (graph key).map fun _ => Recording.overflow s
  | left + 1, rule =>
    rule.recording s fun key => (graph key).map (Rule.recordingWithin s graph left)

/-- The record of a match of a rule of the graph at a position. -/
def Context.record (cx : Context) (graph : RuleGraph) (rule : Rule) (pos : Nat) : Record :=
  rule.recordingWithin cx.toSetup graph (cx.maxDepth - cx.depth) pos cx.toTrail

/-! ### Bounds -/

variable {low low' high : Nat} {s : Setup} {t t' t'' : Trail}

/-- The position of the error lies within the bounds. -/
def MatchError.Within (low high : Nat) (e : MatchError) : Prop :=
  low ≤ e.position ∧ e.position ≤ high

def Event.Within (low high : Nat) : Event → Prop
  | .tried _ pos => low ≤ pos ∧ pos ≤ high
  | .advanced pos length => low ≤ pos ∧ pos + length ≤ high
  | .counted length more => length + more ≤ high
  | .measured start stop => low ≤ start ∧ start ≤ stop ∧ stop ≤ high
  | .built e => e.Within low high

/-- The largest number that comes up. -/
def Event.reached : Event → Nat
  | .tried _ pos => pos
  | .advanced pos length => pos + length
  | .counted length more => length + more
  | .measured _ stop => stop
  | .built e => e.position

/-- The errors of the trail are those of the one before it, or lie within the bounds. -/
structure Trail.Grows (low high : Nat) (t t' : Trail) : Prop where
  furthest : t'.furthest = t.furthest ∨ ∃ e, t'.furthest = some e ∧ e.Within low high
  overflow : t'.overflow = t.overflow ∨ ∃ e, t'.overflow = some e ∧ e.Within low high

/-- What happens on the way from a start to an outcome lies within the bounds. -/
structure Record.Within (low high start : Nat) (t : Trail) (run : Record) : Prop where
  end_le : ∀ m t', run.outcome = (.ok m, t') → start + m.length ≤ high
  error : ∀ e t', run.outcome = (.error e, t') → t.overflow = some e ∨ e.Within low high
  grows : t.Grows low high run.outcome.2
  events : ∀ event ∈ run.events, event.Within low high

lemma MatchError.Within.widen {e : MatchError} (h : e.Within low high) (hle : low' ≤ low) :
    e.Within low' high :=
  ⟨Nat.le_trans hle h.1, h.2⟩

lemma Event.Within.widen {event : Event} (h : event.Within low high) (hle : low' ≤ low) :
    event.Within low' high := by
  cases event with
  | counted => exact h
  | built e => exact MatchError.Within.widen h hle
  | tried | advanced | measured => exact ⟨Nat.le_trans hle h.1, h.2⟩

lemma Event.Within.reached_le {event : Event} (h : event.Within low high) :
    event.reached ≤ high := by
  cases event with
  | counted => exact h
  | tried | advanced | built => exact h.2
  | measured => exact h.2.2

/-- The merged error is the one before it, or lies within the bounds. -/
lemma MatchError.furthest_within {e e' : MatchError} (h : e'.Within low high) :
    e.furthest e' = e ∨ (e.furthest e').Within low high := by
  rw [MatchError.furthest]
  split
  · exact Or.inr h
  · split
    · exact Or.inl rfl
    · refine Or.inr ⟨?_, ?_⟩
      · have := h.1
        show low ≤ e.position
        omega
      · have := h.2
        show e.position ≤ high
        omega

namespace Trail.Grows

lemma refl (t : Trail) : t.Grows low high t := ⟨Or.inl rfl, Or.inl rfl⟩

lemma trans (h : t.Grows low high t') (h' : t'.Grows low high t'') : t.Grows low high t'' where
  furthest := by
    rcases h'.furthest with heq | hnew
    · rw [heq]
      exact h.furthest
    · exact Or.inr hnew
  overflow := by
    rcases h'.overflow with heq | hnew
    · rw [heq]
      exact h.overflow
    · exact Or.inr hnew

lemma widen (h : t.Grows low high t') (hle : low' ≤ low) : t.Grows low' high t' where
  furthest := h.furthest.imp_right fun ⟨e, he, hwithin⟩ => ⟨e, he, hwithin.widen hle⟩
  overflow := h.overflow.imp_right fun ⟨e, he, hwithin⟩ => ⟨e, he, hwithin.widen hle⟩

/-- An error that is an overflow of the trail is one of the trail before it, or lies within the
bounds. -/
lemma error {e : MatchError} (h : t.Grows low high t')
    (he : t'.overflow = some e ∨ e.Within low high) :
    t.overflow = some e ∨ e.Within low high := by
  rcases he with he | he
  · rcases h.overflow with heq | ⟨e', he', hwithin⟩
    · exact Or.inl (heq ▸ he)
    · cases he.symm.trans he'
      exact Or.inr hwithin
  · exact Or.inr he

end Trail.Grows

namespace Record.Within

variable {start : Nat} {run : Record} {events : List Event}

lemma widen (h : run.Within low high start t) (hle : low' ≤ low) :
    run.Within low' high start t where
  end_le := h.end_le
  error e t' he := (h.error e t' he).imp_right fun hwithin => hwithin.widen hle
  grows := h.grows.widen hle
  events event hevent := (h.events event hevent).widen hle

lemma of_ok {m : Match} (hgrows : t.Grows low high t') (hend : start + m.length ≤ high)
    (hevents : ∀ event ∈ events, event.Within low high) :
    Within low high start t { outcome := (.ok m, t'), events } where
  end_le := by
    rintro _ _ ⟨⟩
    exact hend
  error := by rintro _ _ ⟨⟩
  grows := hgrows
  events := hevents

lemma of_error {e : MatchError} (hgrows : t.Grows low high t')
    (he : t.overflow = some e ∨ e.Within low high)
    (hevents : ∀ event ∈ events, event.Within low high) :
    Within low high start t { outcome := (.error e, t'), events } where
  end_le := by rintro _ _ ⟨⟩
  error := by
    rintro _ _ ⟨⟩
    exact he
  grows := hgrows
  events := hevents

/-- What happens before lies within the bounds as well. -/
lemma after (h : run.Within low high start t') (hgrows : t.Grows low high t')
    (hevents : ∀ event ∈ events, event.Within low high) :
    Within low high start t { outcome := run.outcome, events := events ++ run.events } where
  end_le := h.end_le
  error e t'' he := hgrows.error (h.error e t'' he)
  grows := hgrows.trans h.grows
  events := List.forall_mem_append.mpr ⟨hevents, h.events⟩

end Record.Within

/-! ### Attempts within their bounds -/

namespace Recording

variable {r r' : Recording} {a a' : Attempt} {pos : Nat}

/-- The recording has the outcome of the attempt, and all that happens lies between the position and
the end of the input, or at the position if that is behind the end. -/
structure BoundedAt (s : Setup) (r : Recording) (a : Attempt) (pos : Nat) (t : Trail) : Prop where
  outcome_eq : (r pos t).outcome = a pos t
  within : (r pos t).Within pos (max pos s.source.size) pos t

def Bounded (s : Setup) (r : Recording) (a : Attempt) : Prop := ∀ pos t, BoundedAt s r a pos t

/-- What an attempt comes to that is made within the bounds of another one. -/
lemma Bounded.cases (h : Bounded s r a) (hle : low ≤ pos) (hpos : pos ≤ max low s.source.size)
    (t : Trail) :
    (∀ event ∈ (r pos t).events, event.Within low (max low s.source.size)) ∧
      ((∃ m t', (r pos t).outcome = (.ok m, t') ∧ a pos t = (.ok m, t') ∧
        pos + m.length ≤ max low s.source.size ∧ t.Grows low (max low s.source.size) t') ∨
      ∃ e t', (r pos t).outcome = (.error e, t') ∧ a pos t = (.error e, t') ∧
        (t.overflow = some e ∨ e.Within low (max low s.source.size)) ∧
          t.Grows low (max low s.source.size) t') := by
  have hmax : max pos s.source.size = max low s.source.size := by omega
  obtain ⟨heq, hwithin⟩ := h pos t
  rw [hmax] at hwithin
  have hwide := hwithin.widen hle
  refine ⟨hwide.events, ?_⟩
  cases hrun : (r pos t).outcome with
  | mk result t' =>
    have hgrows := hwide.grows
    rw [hrun] at heq hgrows
    cases result with
    | ok m => exact Or.inl ⟨m, t', rfl, heq.symm, hwide.end_le m t' hrun, hgrows⟩
    | error e => exact Or.inr ⟨e, t', rfl, heq.symm, hwide.error e t' hrun, hgrows⟩

lemma forall_mem_built {e : MatchError} (h : e.Within low high) :
    ∀ event ∈ [Event.built e], event.Within low high :=
  List.forall_mem_singleton.mpr h

lemma within_errorAt (s : Setup) (pos : Nat) (expected : String) :
    (s.errorAt pos expected).Within pos (max pos s.source.size) :=
  ⟨Nat.le_refl _, Nat.le_max_left _ _⟩

lemma bounded_fail (s : Setup) (expected : String) :
    Bounded s (fail s expected) (s.fail expected) := by
  intro pos t
  have he := within_errorAt s pos expected
  refine ⟨rfl, Record.Within.of_error ⟨?_, Or.inl rfl⟩ (Or.inr he) (forall_mem_built he)⟩
  cases hfurthest : t.furthest with
  | none => exact Or.inr ⟨_, rfl, he⟩
  | some e =>
    rcases e.furthest_within he with heq | hwithin
    · exact Or.inl (congrArg some heq)
    · exact Or.inr ⟨_, rfl, hwithin⟩

lemma bounded_overflow (s : Setup) : Bounded s (overflow s) s.overflow := by
  intro pos t
  have he := within_errorAt s pos s!"nesting depth within {s.maxDepth}"
  exact ⟨rfl, Record.Within.of_error ⟨Or.inl rfl, Or.inr ⟨_, rfl, he⟩⟩ (Or.inr he)
    (forall_mem_built he)⟩

lemma Bounded.trying (rule : Rule) (h : ∀ pos t, t.overflow = none → BoundedAt s r a pos t) :
    Bounded s (trying rule r) a.unlessOverflown := by
  intro pos t
  have htried : ∀ event ∈ [Event.tried rule pos], event.Within pos (max pos s.source.size) :=
    List.forall_mem_singleton.mpr ⟨Nat.le_refl _, Nat.le_max_left _ _⟩
  cases ht : t.overflow with
  | some e =>
    constructor
    · simp only [Recording.trying, Attempt.unlessOverflown, ht]
    · simp only [Recording.trying, ht]
      exact .of_error (.refl t) (Or.inl ht) htried
  | none =>
    obtain ⟨heq, hwithin⟩ := h pos t ht
    constructor
    · simp only [Recording.trying, Attempt.unlessOverflown, ht, heq]
    · simp only [Recording.trying, ht]
      exact hwithin.after (.refl t) htried

lemma bounded_terminal (name expected : String) {find? : Nat → Option (List UInt8)}
    (hfind : ∀ pos bytes, find? pos = some bytes → bytes <+: s.source.suffix pos) :
    Bounded s (terminal s name expected find?) (Attempt.terminal s name expected find?) := by
  intro pos t
  cases hbytes : find? pos with
  | none =>
    obtain ⟨heq, hwithin⟩ := bounded_fail s expected pos t
    constructor
    · simp only [terminal, Attempt.terminal, hbytes, heq]
    · simp only [terminal, hbytes]
      exact hwithin
  | some bytes =>
    have hle := (hfind pos bytes hbytes).length_le
    rw [Source.length_suffix] at hle
    constructor
    · simp only [terminal, Attempt.terminal, hbytes]
    · simp only [terminal, hbytes]
      apply Record.Within.of_ok (.refl t)
      · show pos + bytes.length ≤ _
        omega
      · exact List.forall_mem_nil _

/-! ### Sequences -/

lemma boundedAt_sequenceFrom {rs : List Recording} {attempts : List Attempt}
    (h : List.Forall₂ (Bounded s) rs attempts) (name : String) (start : Nat)
    (built : List ParseTree) (length : Nat) (t : Trail)
    (hlength : start + length ≤ max start s.source.size) :
    (sequenceFrom name start rs built length t).outcome =
        Attempt.sequenceFrom name start attempts built length t ∧
      (sequenceFrom name start rs built length t).Within start (max start s.source.size) start
        t := by
  induction h generalizing built length t with
  | nil => exact ⟨rfl, .of_ok (.refl t) hlength (List.forall_mem_nil _)⟩
  | @cons r a rs attempts hr _ ih =>
    have hadvanced : Event.Within start (max start s.source.size) (.advanced start length) :=
      ⟨Nat.le_refl start, hlength⟩
    obtain ⟨hevents, ⟨m, t', hrun, ha, hend, hgrows⟩ | ⟨e, t', hrun, ha, he, hgrows⟩⟩ :=
      hr.cases (Nat.le_add_right start length) hlength t
    · obtain ⟨heq, hwithin⟩ := ih (m.tree.toList ++ built) (length + m.length) t' (by omega)
      have hcounted : Event.Within start (max start s.source.size)
          (.counted length m.length) := by
        show length + m.length ≤ _
        omega
      constructor
      · simp only [sequenceFrom, Attempt.sequenceFrom, hrun, ha, heq]
      · simp only [sequenceFrom, hrun]
        have hbefore := List.forall_mem_append.mpr
          ⟨List.forall_mem_cons.mpr ⟨hadvanced, hevents⟩, List.forall_mem_singleton.mpr hcounted⟩
        simpa using hwithin.after hgrows hbefore
    · constructor
      · simp only [sequenceFrom, Attempt.sequenceFrom, hrun, ha]
      · simp only [sequenceFrom, hrun]
        exact .of_error hgrows he (List.forall_mem_cons.mpr ⟨hadvanced, hevents⟩)

lemma bounded_sequence {rs : List Recording} {attempts : List Attempt}
    (h : List.Forall₂ (Bounded s) rs attempts) (name : String) :
    Bounded s (sequence name rs) (Attempt.sequence name attempts) := by
  intro pos t
  obtain ⟨heq, hwithin⟩ := boundedAt_sequenceFrom h name pos [] 0 t (Nat.le_max_left _ _)
  exact ⟨heq, hwithin⟩

/-! ### Repetitions -/

/-- What the rounds of a repetition come to that began at a position. -/
lemma Bounded.collect (h : Bounded s r a) {start : Nat} (fuel pos : Nat) (built : List ParseTree)
    (t : Trail) (hle : start ≤ pos) (hpos : pos ≤ max start s.source.size) :
    ∃ trees stop t' events, Recording.collect r fuel pos built t = (((trees, stop), t'), events) ∧
      Attempt.collect a fuel pos built t = ((trees, stop), t') ∧ pos ≤ stop ∧
        stop ≤ max start s.source.size ∧ t.Grows start (max start s.source.size) t' ∧
          ∀ event ∈ events, event.Within start (max start s.source.size) := by
  induction fuel generalizing pos built t with
  | zero =>
    exact ⟨built, pos, t, [], rfl, rfl, Nat.le_refl pos, hpos, .refl t, List.forall_mem_nil _⟩
  | succ fuel ih =>
    obtain ⟨hevents, ⟨m, t', hrun, ha, hend, hgrows⟩ | ⟨e, t', hrun, ha, he, hgrows⟩⟩ :=
      h.cases hle hpos t
    · by_cases hempty : m.length = 0
      · refine ⟨built, pos, t', _, ?_, ?_, Nat.le_refl pos, hpos, hgrows, hevents⟩
        · simp only [Recording.collect, hrun, hempty, if_true]
        · simp only [Attempt.collect, ha, hempty, if_true]
      · obtain ⟨trees, stop, t'', events, heq, ha', hstop, hmax, hgrows', hevents'⟩ :=
          ih (pos + m.length) (m.tree.toList ++ built) t' (by omega) hend
        refine ⟨trees, stop, t'', (r pos t).events ++ .advanced pos m.length :: events, ?_, ?_,
          by omega, hmax, hgrows.trans hgrows', ?_⟩
        · simp only [Recording.collect, hrun, hempty, if_false, heq]
        · simp only [Attempt.collect, ha, hempty, if_false, ha']
        · exact List.forall_mem_append.mpr
            ⟨hevents, List.forall_mem_cons.mpr ⟨⟨hle, hend⟩, hevents'⟩⟩
    · refine ⟨built, pos, t', _, ?_, ?_, Nat.le_refl pos, hpos, hgrows, hevents⟩
      · simp only [Recording.collect, hrun]
      · simp only [Attempt.collect, ha]

lemma Bounded.collectFrom (h : Bounded s r a) (name : String) {start : Nat} (pos : Nat)
    (built : List ParseTree) (t : Trail) (hle : start ≤ pos)
    (hpos : pos ≤ max start s.source.size) :
    (Recording.collectFrom s name r start pos built t).outcome =
        Attempt.collectFrom s name a start pos built t ∧
      (Recording.collectFrom s name r start pos built t).Within start (max start s.source.size)
        start t := by
  obtain ⟨trees, stop, t', events, heq, ha, hstop, hmax, hgrows, hevents⟩ :=
    h.collect (s.source.size - pos + 1) pos built t hle hpos
  constructor
  · simp only [Recording.collectFrom, Attempt.collectFrom, heq, ha]
  · simp only [Recording.collectFrom, heq]
    apply Record.Within.of_ok hgrows
    · show start + (stop - start) ≤ _
      omega
    · exact List.forall_mem_append.mpr
        ⟨hevents, List.forall_mem_singleton.mpr ⟨Nat.le_refl start, by omega, hmax⟩⟩

lemma Bounded.star (h : Bounded s r a) (name : String) :
    Bounded s (Recording.star s name r) (Attempt.star s name a) := by
  intro pos t
  obtain ⟨heq, hwithin⟩ := h.collectFrom name pos [] t (Nat.le_refl pos) (Nat.le_max_left _ _)
  exact ⟨heq, hwithin⟩

lemma Bounded.plus (h : Bounded s r a) (name : String) :
    Bounded s (Recording.plus s name r) (Attempt.plus s name a) := by
  intro pos t
  obtain ⟨hevents, ⟨m, t', hrun, ha, hend, hgrows⟩ | ⟨e, t', hrun, ha, he, hgrows⟩⟩ :=
    h.cases (Nat.le_refl pos) (Nat.le_max_left _ _) t
  · have hadvanced : ∀ event ∈ [Event.advanced pos m.length],
        event.Within pos (max pos s.source.size) :=
      List.forall_mem_singleton.mpr ⟨Nat.le_refl pos, hend⟩
    have hbefore := List.forall_mem_append.mpr ⟨hevents, hadvanced⟩
    by_cases hempty : m.length = 0
    · constructor
      · simp only [Recording.plus, Attempt.plus, hrun, ha, hempty, if_true]
      · simp only [Recording.plus, hrun, hempty, if_true]
        rw [hempty] at hbefore
        exact .of_ok hgrows (Nat.le_max_left _ _) hbefore
    · obtain ⟨heq, hwithin⟩ :=
        h.collectFrom name (pos + m.length) m.tree.toList t' (Nat.le_add_right _ _) hend
      constructor
      · simp only [Recording.plus, Attempt.plus, hrun, ha, hempty, if_false, heq]
      · simp only [Recording.plus, hrun, hempty, if_false]
        simpa using hwithin.after hgrows hbefore
  · constructor
    · simp only [Recording.plus, Attempt.plus, hrun, ha]
    · simp only [Recording.plus, hrun]
      exact .of_error hgrows he hevents

/-! ### Options, choices and discarding -/

lemma Bounded.optional (h : Bounded s r a) :
    Bounded s (Recording.optional r) (Attempt.optional a) := by
  intro pos t
  obtain ⟨hevents, ⟨m, t', hrun, ha, hend, hgrows⟩ | ⟨e, t', hrun, ha, he, hgrows⟩⟩ :=
    h.cases (Nat.le_refl pos) (Nat.le_max_left _ _) t
  · constructor
    · simp only [Recording.optional, Attempt.optional, hrun, ha]
    · simp only [Recording.optional, hrun]
      exact .of_ok hgrows hend hevents
  · constructor
    · simp only [Recording.optional, Attempt.optional, hrun, ha]
    · simp only [Recording.optional, hrun]
      exact .of_ok hgrows (Nat.le_max_left _ _) hevents

lemma Bounded.discard (h : Bounded s r a) :
    Bounded s (Recording.discard s r) (Attempt.discard s a) := by
  intro pos t
  obtain ⟨hevents, ⟨m, t', hrun, ha, hend, hgrows⟩ | ⟨e, t', hrun, ha, he, hgrows⟩⟩ :=
    h.cases (Nat.le_refl pos) (Nat.le_max_left _ _) t
  · constructor
    · simp only [Recording.discard, Attempt.discard, hrun, ha]
    · simp only [Recording.discard, hrun]
      exact .of_ok hgrows hend hevents
  · cases hlenient : s.lenientDiscard with
    | true =>
      constructor
      · simp only [Recording.discard, Attempt.discard, hrun, ha, hlenient, if_true]
      · simp only [Recording.discard, hrun, hlenient, if_true]
        exact .of_ok hgrows (Nat.le_max_left _ _) hevents
    | false =>
      constructor
      · simp only [Recording.discard, Attempt.discard, hrun, ha, hlenient, Bool.false_eq_true,
          if_false]
      · simp only [Recording.discard, hrun, hlenient, Bool.false_eq_true, if_false]
        exact .of_error hgrows he hevents

/-- Errors of both alternatives are new, if references have not been nested too deeply before. -/
lemma Bounded.orElse (h : Bounded s r a) (h' : Bounded s r' a') (pos : Nat) (t : Trail)
    (ht : t.overflow = none) :
    BoundedAt s (Recording.orElse r r') (Attempt.orElse a a') pos t := by
  obtain ⟨hevents, ⟨m, t', hrun, ha, hend, hgrows⟩ | ⟨e, t', hrun, ha, he, hgrows⟩⟩ :=
    h.cases (Nat.le_refl pos) (Nat.le_max_left _ _) t
  · constructor
    · simp only [Recording.orElse, Attempt.orElse, hrun, ha]
    · simp only [Recording.orElse, hrun]
      exact .of_ok hgrows hend hevents
  · obtain ⟨hevents', ⟨m, t'', hrun', ha', hend, hgrows'⟩ | ⟨e', t'', hrun', ha', he', hgrows'⟩⟩ :=
      h'.cases (Nat.le_refl pos) (Nat.le_max_left _ _) t'
    · constructor
      · simp only [Recording.orElse, Attempt.orElse, hrun, ha, hrun', ha']
      · simp only [Recording.orElse, hrun, hrun']
        exact .of_ok (hgrows.trans hgrows') hend (List.forall_mem_append.mpr ⟨hevents, hevents'⟩)
    · have hnew : ∀ {e}, t.overflow = some e ∨ e.Within pos (max pos s.source.size) →
          e.Within pos (max pos s.source.size) := fun he => he.resolve_left (by simp [ht])
      have hmerged : (e.furthest e').Within pos (max pos s.source.size) := by
        rcases e.furthest_within (hnew (hgrows.error he')) with heq | hwithin
        · rw [heq]
          exact hnew he
        · exact hwithin
      constructor
      · simp only [Recording.orElse, Attempt.orElse, hrun, ha, hrun', ha']
      · simp only [Recording.orElse, hrun, hrun']
        apply Record.Within.of_error (hgrows.trans hgrows') (Or.inr hmerged)
        exact List.forall_mem_append.mpr
          ⟨List.forall_mem_append.mpr ⟨hevents, hevents'⟩, forall_mem_built hmerged⟩

end Recording

/-! ### Rules within their bounds -/

namespace Rule

variable {graph : RuleGraph}

@[simp] lemma recordings_eq_map (s : Setup) (enter : String → Option Recording)
    (parts : List Rule) : recordings s enter parts = parts.map (recording s enter) := by
  induction parts with
  | nil => rfl
  | cons r rs ih => simp [recordings, ih]

/-- The recordings of the keys of a graph, with so many levels of references left. -/
def enterRecording (s : Setup) (graph : RuleGraph) : Nat → String → Option Recording
  | 0, key => (graph key).map fun _ => Recording.overflow s
  | left + 1, key => (graph key).map (recordingWithin s graph left)

lemma recordingWithin_eq_recording (s : Setup) (graph : RuleGraph) (levels : Nat) :
    recordingWithin s graph levels = recording s (enterRecording s graph levels) := by
  cases levels <;> rfl

lemma bind_enterRecording_eq_none {link : Option String} (h : link.bind graph = none) (s : Setup)
    (levels : Nat) : link.bind (enterRecording s graph levels) = none := by
  cases link with
  | none => rfl
  | some key =>
    have hkey : graph key = none := h
    cases levels <;> simp [enterRecording, hkey]

/-- The recording of a rule has the outcome of its attempt, and keeps within the bounds. -/
theorem recordingWithin_bounded (levels : Nat) (rule : Rule) :
    Recording.Bounded s (rule.recordingWithin s graph levels)
      (rule.attemptWithin s graph levels) := by
  induction levels, rule using Rule.inductionWithin with
  | literal levels name bytes =>
    rw [recordingWithin_eq_recording, attemptWithin_eq_attempt]
    apply Recording.Bounded.trying
    intro pos t _
    exact Recording.bounded_terminal _ _ (fun _ _ => Source.isPrefix_of_matchLiteral?) pos t
  | pattern levels name p =>
    rw [recordingWithin_eq_recording, attemptWithin_eq_attempt]
    apply Recording.Bounded.trying
    intro pos t _
    exact Recording.bounded_terminal _ _ (fun _ _ => Source.isPrefix_of_matchPattern?) pos t
  | reference levels name target link ih =>
    rw [recordingWithin_eq_recording, attemptWithin_eq_attempt]
    apply Recording.Bounded.trying
    intro pos t _
    rcases link_cases graph link with ⟨key, rule, rfl, hkey⟩ | hlink
    · cases levels with
      | zero =>
        have hbounded := Recording.bounded_overflow s pos t
        constructor
        · simpa [enterRecording, enterWithin, hkey] using hbounded.outcome_eq
        · simpa [enterRecording, hkey] using hbounded.within
      | succ left =>
        have hbounded := ih left (Nat.lt_succ_self left) rule pos t
        constructor
        · simpa [enterRecording, enterWithin, hkey] using hbounded.outcome_eq
        · simpa [enterRecording, hkey] using hbounded.within
    · have hbounded := Recording.bounded_fail s s!"resolved rule `{target}`" pos t
      constructor
      · simpa only [bind_enterRecording_eq_none hlink, bind_enterWithin_eq_none hlink]
          using hbounded.outcome_eq
      · simpa only [bind_enterRecording_eq_none hlink] using hbounded.within
  | concat levels name parts ih =>
    simp only [recordingWithin_eq_recording, attemptWithin_eq_attempt] at ih ⊢
    rw [recording, attempt, recordings_eq_map, attempts_eq_map]
    apply Recording.Bounded.trying
    intro pos t _
    refine Recording.bounded_sequence ?_ name pos t
    rw [List.forall₂_map_left_iff, List.forall₂_map_right_iff, List.forall₂_same]
    exact ih
  | plus levels name child ih =>
    rw [recordingWithin_eq_recording, attemptWithin_eq_attempt] at ih ⊢
    apply Recording.Bounded.trying
    exact fun pos t _ => ih.plus name pos t
  | star levels name child ih =>
    rw [recordingWithin_eq_recording, attemptWithin_eq_attempt] at ih ⊢
    apply Recording.Bounded.trying
    exact fun pos t _ => ih.star name pos t
  | optional levels name child ih =>
    rw [recordingWithin_eq_recording, attemptWithin_eq_attempt] at ih ⊢
    apply Recording.Bounded.trying
    exact fun pos t _ => ih.optional pos t
  | alternate levels name left right ihl ihr =>
    rw [recordingWithin_eq_recording, attemptWithin_eq_attempt] at ihl ihr ⊢
    apply Recording.Bounded.trying
    exact fun pos t ht => ihl.orElse ihr pos t ht
  | discard levels name child ih =>
    rw [recordingWithin_eq_recording, attemptWithin_eq_attempt] at ih ⊢
    apply Recording.Bounded.trying
    exact fun pos t _ => ih.discard pos t

end Rule

/-- Matching with a record is matching. A match is empty or ends inside of the input. Whatever comes
up on the way, where rules are tried, what lengths are added to, and where errors are, lies between
the position and the end of the input, or at the position if that is behind the end; so do the error
that is returned and those that are remembered, if they were not there before. So, with numbers of
64 bits, no addition goes beyond them. -/
theorem Context.positions_bounded (cx : Context) (graph : RuleGraph) (rule : Rule) (pos : Nat) :
    let run := cx.record graph rule pos
    let result := cx.matchAt graph rule pos
    let top := max pos cx.source.size
    run.outcome = (result.1, result.2.toTrail) ∧
      (∀ m, result.1 = .ok m → m.length = 0 ∨ pos + m.length ≤ cx.source.size) ∧
      (∀ event ∈ run.events, event.Within pos top) ∧
      (∀ e, result.1 = .error e → cx.overflow = some e ∨ e.Within pos top) ∧
      cx.toTrail.Grows pos top result.2.toTrail ∧
      (pos < UInt64.size → cx.source.size < UInt64.size →
        ∀ event ∈ run.events, event.reached < UInt64.size) := by
  intro run result top
  obtain ⟨heq, hwithin⟩ :=
    @Rule.recordingWithin_bounded cx.toSetup graph (cx.maxDepth - cx.depth) rule pos cx.toTrail
  have hresult : run.outcome = (result.1, result.2.toTrail) := heq
  refine ⟨hresult, fun m hm => ?_, hwithin.events, fun e he => ?_, ?_, ?_⟩
  · have hend := hwithin.end_le m result.2.toTrail (hresult.trans (by rw [hm]))
    omega
  · exact hwithin.error e result.2.toTrail (hresult.trans (by rw [he]))
  · have hgrows := hwithin.grows
    rw [heq] at hgrows
    exact hgrows
  · intro hpos hsize event hevent
    have hle := (hwithin.events event hevent).reached_le
    omega

/-- The largest position of 64 bits: the literal fails there, the repetition and the option match
nothing. -/
theorem Context.positions_bounded_behind :
    let cx : Context := { source := .ofBytes [97, 98] }
    let letter : Rule := .literal "'a'" [97]
    let rule : Rule := .concat "r" [.star "'a'*" letter, .optional "'a'?" letter]
    let run := cx.record (fun _ => none) rule (UInt64.size - 1)
    (UInt64.size - 1 < UInt64.size ∧ cx.source.size < UInt64.size) ∧
      (∃ m, (cx.matchAt (fun _ => none) rule (UInt64.size - 1)).1 = .ok m ∧ m.length = 0) ∧
      (∃ e, .built e ∈ run.events ∧ e.position = UInt64.size - 1) ∧
      ∀ event ∈ run.events, event.reached < UInt64.size := by
  intro cx letter rule run
  obtain ⟨-, -, -, -, -, hwords⟩ := cx.positions_bounded (fun _ => none) rule (UInt64.size - 1)
  have hsize : UInt64.size - 1 < UInt64.size ∧ cx.source.size < UInt64.size := by decide
  have hbuilt : run.events[4]? =
      some (.built (cx.errorAt (UInt64.size - 1) letter.expectation)) := rfl
  exact ⟨hsize, ⟨_, rfl, rfl⟩, ⟨_, List.mem_of_getElem? hbuilt, rfl⟩, hwords hsize.1 hsize.2⟩

end Peg
