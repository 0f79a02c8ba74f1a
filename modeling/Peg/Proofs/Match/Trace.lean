import Peg.Proofs.Match.Series
import Peg.Proofs.Rule

/-!
# Traces

The trace of a rule is what an attempt comes to when nothing is remembered from one attempt to the
next: the verdict, and every visit of a rule at a position on the way there, in order. A reference
nested too deeply ends it at once. Everything that an attempt leaves in the trail can be read off
the visits.
-/

namespace Peg

/-- A rule tried at a position, inside of the references of a chain, the outermost first: the key
of each, and the position where it was followed. -/
structure Visit where
  rule : Rule
  pos : Nat
  chain : List (String × Nat) := []

/-- How an attempt ends. -/
inductive Verdict (α : Type) where
  | success (result : α)
  | failure (e : MatchError)
  /-- A reference was nested too deeply. -/
  | overflow (e : MatchError)

/-- A verdict, and the visits on the way to it. -/
structure Trace (α : Type) where
  verdict : Verdict α
  visits : List Visit := []

namespace Trace

variable {α β : Type}

def success (a : α) : Trace α := { verdict := .success a }

def failure (e : MatchError) : Trace α := { verdict := .failure e }

def overflow (e : MatchError) : Trace α := { verdict := .overflow e }

/-- Goes on after a success or a failure. -/
def andThen (t : Trace α) (f : α → Trace β) (g : MatchError → Trace β) : Trace β :=
  match t.verdict with
  | .success a => { f a with visits := t.visits ++ (f a).visits }
  | .failure e => { g e with visits := t.visits ++ (g e).visits }
  | .overflow e => { verdict := .overflow e, visits := t.visits }

/-- Goes on with another result after a success. -/
def map (f : α → β) (t : Trace α) : Trace β := t.andThen (fun a => success (f a)) failure

/-- The same trace inside of a reference. -/
def inside (key : String) (pos : Nat) (t : Trace α) : Trace α :=
  { t with visits := t.visits.map fun v => { v with chain := (key, pos) :: v.chain } }

/-- The trace that starts with a visit of the rule. -/
def visiting (rule : Rule) (pos : Nat) (t : Trace α) : Trace α :=
  { t with visits := { rule, pos } :: t.visits }

/-- Follows a link, if it leads to a rule. -/
def reference (s : Setup) (graph : RuleGraph) (follow : Rule → Nat → Trace Match) (target : String)
    (link : Option String) (pos : Nat) : Trace Match :=
  match link with
  | some key =>
    match graph key with
    | some rule => (follow rule pos).inside key pos
    | none => failure (s.errorAt pos s!"resolved rule `{target}`")
  | none => failure (s.errorAt pos s!"resolved rule `{target}`")

/-- Matches the bytes that are found. -/
def terminal (name : String) (e : MatchError) : Option (List UInt8) → Trace Match
  | some bytes => success (.terminal name bytes)
  | none => failure e

/-- Matches all of the rules, one after the other. -/
def sequence : List (Nat → Trace Match) → Nat → Trace Series
  | [], _ => success {}
  | a :: rest, pos =>
    (a pos).andThen (fun m => (sequence rest (pos + m.length)).map m.before) failure

/-- Matches at most `fuel` times, until a match fails or is empty. -/
def collect (a : Nat → Trace Match) : Nat → Nat → Trace Series
  | 0, _ => success {}
  | fuel + 1, pos =>
    (a pos).andThen
      (fun m => if m.length = 0 then success {} else (collect a fuel (pos + m.length)).map m.before)
      (fun _ => success {})

/-- Matches as often as possible. -/
def star (s : Setup) (name : String) (a : Nat → Trace Match) (pos : Nat) : Trace Match :=
  (collect a (s.source.size - pos + 1) pos).map (.repeated name)

/-- Matches once, and then as often as possible unless the first match was empty. -/
def plus (s : Setup) (name : String) (a : Nat → Trace Match) (pos : Nat) : Trace Match :=
  (a pos).andThen
    (fun m =>
      if m.length = 0 then success (.repeated name (m.before {}))
      else
        let next := pos + m.length
        (collect a (s.source.size - next + 1) next).map fun rest => .repeated name (m.before rest))
    failure

/-- Matches, or else matches nothing. -/
def optional (t : Trace Match) : Trace Match := t.andThen success fun _ => success {}

/-- Matches with the first, or else with the second. -/
def orElse (t u : Trace Match) : Trace Match :=
  t.andThen success fun e => u.andThen success fun e' => failure (e.furthest e')

/-- Matches without leaving a tree; where discarding is lenient, a failure is an empty match. -/
def discard (s : Setup) (t : Trace Match) : Trace Match :=
  t.andThen (fun m => success { length := m.length })
    fun e => if s.lenientDiscard then success {} else failure e

end Trace

mutual

/-- The trace of a rule of a graph, where `follow` gives those of the rules referred to. -/
def Rule.trace (s : Setup) (graph : RuleGraph) (follow : Rule → Nat → Trace Match) :
    Rule → Nat → Trace Match
  | .literal name bytes, pos =>
    let e := s.errorAt pos (Rule.literal name bytes).expectation
    (Trace.terminal name e (s.source.matchLiteral? bytes pos)).visiting (.literal name bytes) pos
  | .pattern name p, pos =>
    let e := s.errorAt pos (Rule.pattern name p).expectation
    (Trace.terminal name e (s.source.matchPattern? p pos)).visiting (.pattern name p) pos
  | .reference name target link, pos =>
    (Trace.reference s graph follow target link pos).visiting (.reference name target link) pos
  | .concat name parts, pos =>
    ((Trace.sequence (Rule.traces s graph follow parts) pos).map (.joined name)).visiting
      (.concat name parts) pos
  | .plus name child, pos =>
    (Trace.plus s name (child.trace s graph follow) pos).visiting (.plus name child) pos
  | .star name child, pos =>
    (Trace.star s name (child.trace s graph follow) pos).visiting (.star name child) pos
  | .optional name child, pos =>
    (child.trace s graph follow pos).optional.visiting (.optional name child) pos
  | .alternate name left right, pos =>
    ((left.trace s graph follow pos).orElse (right.trace s graph follow pos)).visiting
      (.alternate name left right) pos
  | .discard name child, pos =>
    ((child.trace s graph follow pos).discard s).visiting (.discard name child) pos

def Rule.traces (s : Setup) (graph : RuleGraph) (follow : Rule → Nat → Trace Match) :
    List Rule → List (Nat → Trace Match)
  | [] => []
  | r :: rs => r.trace s graph follow :: Rule.traces s graph follow rs

end

/-- The trace of a rule of a graph, with so many levels of references left. -/
def Rule.traceWithin (s : Setup) (graph : RuleGraph) : Nat → Rule → Nat → Trace Match
  | 0, rule =>
    rule.trace s graph fun _ pos =>
      .overflow (s.errorAt pos s!"nesting depth within {s.maxDepth}")
  | left + 1, rule => rule.trace s graph (Rule.traceWithin s graph left)

/-- The trace of a match of a rule of the graph at a position. -/
def Context.trace (cx : Context) (graph : RuleGraph) (rule : Rule) (pos : Nat) : Trace Match :=
  rule.traceWithin cx.toSetup graph (cx.maxDepth - cx.depth) pos

/-! ### Verdicts and visits -/

namespace Trace

variable {α β γ : Type} {t : Trace α} {f : α → Trace β} {g : MatchError → Trace β}

/-- The result of a success, `none` for a failure; there is no outcome of an overflow. -/
def outcome? (t : Trace α) : Option (Option α) :=
  match t.verdict with
  | .success a => some (some a)
  | .failure _ => some none
  | .overflow _ => none

@[simp] lemma verdict_success (a : α) : (success a).verdict = .success a := rfl

@[simp] lemma verdict_failure (e : MatchError) : (failure e : Trace α).verdict = .failure e := rfl

@[simp] lemma verdict_overflow (e : MatchError) :
    (overflow e : Trace α).verdict = .overflow e := rfl

@[simp] lemma outcome?_success (a : α) : (success a).outcome? = some (some a) := rfl

@[simp] lemma outcome?_failure (e : MatchError) : (failure e : Trace α).outcome? = some none := rfl

@[simp] lemma outcome?_overflow (e : MatchError) : (overflow e : Trace α).outcome? = none := rfl

@[simp] lemma outcome?_inside (key : String) (pos : Nat) :
    (t.inside key pos).outcome? = t.outcome? := rfl

@[simp] lemma outcome?_visiting (rule : Rule) (pos : Nat) :
    (t.visiting rule pos).outcome? = t.outcome? := rfl

lemma andThen_of_success {a : α} (h : t.verdict = .success a) :
    t.andThen f g = { f a with visits := t.visits ++ (f a).visits } := by
  simp [andThen, h]

lemma andThen_of_failure {e : MatchError} (h : t.verdict = .failure e) :
    t.andThen f g = { g e with visits := t.visits ++ (g e).visits } := by
  simp [andThen, h]

lemma andThen_of_overflow {e : MatchError} (h : t.verdict = .overflow e) :
    t.andThen f g = { verdict := .overflow e, visits := t.visits } := by
  simp [andThen, h]

lemma map_andThen (k : β → γ) :
    (t.andThen f g).map k = t.andThen (fun a => (f a).map k) fun e => (g e).map k := by
  cases h : t.verdict with
  | success a =>
    rw [andThen_of_success h, andThen_of_success h]
    cases hf : (f a).verdict <;> simp [map, andThen, hf]
  | failure e =>
    rw [andThen_of_failure h, andThen_of_failure h]
    cases hg : (g e).verdict <;> simp [map, andThen, hg]
  | overflow e =>
    rw [andThen_of_overflow h, andThen_of_overflow h]
    rfl

@[simp] lemma map_success (a : α) (f : α → β) : (success a).map f = success (f a) := rfl

@[simp] lemma map_failure (e : MatchError) (f : α → β) : (failure e).map f = failure e := rfl

lemma map_map (f : α → β) (k : β → γ) :
    (t.map f).map k = t.map fun a => k (f a) := by
  rw [map.eq_1 f t, map_andThen]
  rfl

lemma outcome?_eq_some_some {a : α} : t.outcome? = some (some a) ↔ t.verdict = .success a := by
  cases h : t.verdict <;> simp [outcome?, h]

lemma outcome?_eq_some_none : t.outcome? = some none ↔ ∃ e, t.verdict = .failure e := by
  cases h : t.verdict <;> simp [outcome?, h]

lemma outcome?_andThen {r : Option β} : (t.andThen f g).outcome? = some r ↔
    (∃ a, t.verdict = .success a ∧ (f a).outcome? = some r) ∨
      ∃ e, t.verdict = .failure e ∧ (g e).outcome? = some r := by
  cases h : t.verdict with
  | success a => simp [andThen_of_success h, outcome?]
  | failure e => simp [andThen_of_failure h, outcome?]
  | overflow e => simp [andThen_of_overflow h, outcome?]

lemma outcome?_andThen_of_success {a : α} (h : t.outcome? = some (some a)) :
    (t.andThen f g).outcome? = (f a).outcome? := by
  rw [andThen_of_success (outcome?_eq_some_some.mp h)]
  rfl

lemma outcome?_andThen_of_failure (h : t.outcome? = some none) {r : Option (Option β)}
    (hg : ∀ e, (g e).outcome? = r) : (t.andThen f g).outcome? = r := by
  obtain ⟨e, he⟩ := outcome?_eq_some_none.mp h
  rw [andThen_of_failure he]
  exact hg e

lemma outcome?_map {k : α → β} : (t.map k).outcome? = t.outcome?.map (Option.map k) := by
  cases h : t.verdict with
  | success a => simp [map, andThen_of_success h, outcome?, h]
  | failure e => simp [map, andThen_of_failure h, outcome?, h]
  | overflow e => simp [map, andThen_of_overflow h, outcome?, h]

lemma outcome?_orElse_of_failure {u v : Trace Match} (h : u.outcome? = some none) :
    (u.orElse v).outcome? = v.outcome? := by
  refine outcome?_andThen_of_failure h fun e => ?_
  cases hv : v.verdict with
  | success m => simp [andThen_of_success hv, outcome?, hv]
  | failure e => simp [andThen_of_failure hv, outcome?, hv]
  | overflow e => simp [andThen_of_overflow hv, outcome?, hv]

lemma reference_eq_inside {s : Setup} {graph : RuleGraph} {follow : Rule → Nat → Trace Match}
    {target key : String} {rule : Rule} (h : graph key = some rule) (pos : Nat) :
    reference s graph follow target (some key) pos = (follow rule pos).inside key pos := by
  simp [reference, h]

lemma reference_eq_failure {s : Setup} {graph : RuleGraph} {follow : Rule → Nat → Trace Match}
    {target : String} {link : Option String} (h : link.bind graph = none) (pos : Nat) :
    reference s graph follow target link pos =
      failure (s.errorAt pos s!"resolved rule `{target}`") := by
  cases link with
  | none => rfl
  | some key => simp [reference, show graph key = none from h]

end Trace

@[simp] lemma Rule.traces_eq_map (s : Setup) (graph : RuleGraph)
    (follow : Rule → Nat → Trace Match) (parts : List Rule) :
    Rule.traces s graph follow parts = parts.map (Rule.trace s graph follow) := by
  induction parts with
  | nil => rfl
  | cons r rs ih => simp [Rule.traces, ih]

/-- What a reference leads to: the key and the rule of a link, or nothing. -/
lemma Rule.link_cases (graph : RuleGraph) (link : Option String) :
    (∃ key rule, link = some key ∧ graph key = some rule) ∨ link.bind graph = none := by
  cases link with
  | none => exact Or.inr rfl
  | some key =>
    cases h : graph key with
    | none => exact Or.inr h
    | some rule => exact Or.inl ⟨key, rule, rfl, h⟩

/-! ### Traces by the kind of the rule

With the same number of levels left, the trace of a rule is made of the traces of its parts. Only
a reference takes a level away. -/

namespace Rule

variable (s : Setup) (graph : RuleGraph)

/-- The traces of the rules referred to, with so many levels of references left. -/
def followWithin : Nat → Rule → Nat → Trace Match
  | 0, _, pos => .overflow (s.errorAt pos s!"nesting depth within {s.maxDepth}")
  | left + 1, rule, pos => rule.traceWithin s graph left pos

lemma traceWithin_eq_trace (levels : Nat) :
    traceWithin s graph levels = trace s graph (followWithin s graph levels) := by
  cases levels <;> rfl

variable (levels : Nat) (name : String) (pos : Nat)

lemma traceWithin_literal (bytes : List UInt8) :
    (literal name bytes).traceWithin s graph levels pos =
      (Trace.terminal name (s.errorAt pos (literal name bytes).expectation)
        (s.source.matchLiteral? bytes pos)).visiting (literal name bytes) pos := by
  rw [traceWithin_eq_trace]
  rfl

lemma traceWithin_pattern (p : Pattern) :
    (pattern name p).traceWithin s graph levels pos =
      (Trace.terminal name (s.errorAt pos (pattern name p).expectation)
        (s.source.matchPattern? p pos)).visiting (pattern name p) pos := by
  rw [traceWithin_eq_trace]
  rfl

lemma traceWithin_reference (target : String) (link : Option String) :
    (reference name target link).traceWithin s graph levels pos =
      (Trace.reference s graph (followWithin s graph levels) target link pos).visiting
        (reference name target link) pos := by
  rw [traceWithin_eq_trace]
  rfl

lemma traceWithin_concat (parts : List Rule) :
    (concat name parts).traceWithin s graph levels pos =
      ((Trace.sequence (parts.map (traceWithin s graph levels)) pos).map
        (.joined name)).visiting (concat name parts) pos := by
  rw [traceWithin_eq_trace, trace, traces_eq_map]

lemma traceWithin_plus (child : Rule) :
    (plus name child).traceWithin s graph levels pos =
      (Trace.plus s name (child.traceWithin s graph levels) pos).visiting
        (plus name child) pos := by
  rw [traceWithin_eq_trace]
  rfl

lemma traceWithin_star (child : Rule) :
    (star name child).traceWithin s graph levels pos =
      (Trace.star s name (child.traceWithin s graph levels) pos).visiting
        (star name child) pos := by
  rw [traceWithin_eq_trace]
  rfl

lemma traceWithin_optional (child : Rule) :
    (optional name child).traceWithin s graph levels pos =
      (child.traceWithin s graph levels pos).optional.visiting (optional name child) pos := by
  rw [traceWithin_eq_trace]
  rfl

lemma traceWithin_alternate (left right : Rule) :
    (alternate name left right).traceWithin s graph levels pos =
      ((left.traceWithin s graph levels pos).orElse
        (right.traceWithin s graph levels pos)).visiting (alternate name left right) pos := by
  rw [traceWithin_eq_trace]
  rfl

lemma traceWithin_discard (child : Rule) :
    (discard name child).traceWithin s graph levels pos =
      ((child.traceWithin s graph levels pos).discard s).visiting (discard name child) pos := by
  rw [traceWithin_eq_trace]
  rfl

end Rule

end Peg
