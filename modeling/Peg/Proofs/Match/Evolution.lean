import Mathlib.Data.List.Chain
import Peg.Proofs.Match.Failures
import Peg.Proofs.Match.History

/-!
# How a context goes on

Matches in one context write to its trail and to nothing else. `Context.writes` are the trails that
a match writes, one for every failure on the way and one for an overflow, in order. Each goes on
from the one before it: the furthest failure only gets further, or expects more at its position,
and the overflow, once written, is the last that is ever written.
-/

namespace Peg

/-! ### The furthest failure -/

/-- The second error is further into the input, or it is the first one with some new expectations
behind those it had. -/
inductive MatchError.GrowsTo (e e' : MatchError) : Prop where
  | further (h : e.position < e'.position)
  | more (new : List String) (hposition : e'.position = e.position)
      (hneighborhood : e'.neighborhood = e.neighborhood)
      (hexpected : e'.expected = e.expected ++ new) (hnodup : new.Nodup)
      (hnew : ∀ x ∈ new, x ∉ e.expected)

namespace MatchError

lemma exists_addExpected (known more : List String) :
    ∃ new, addExpected known more = known ++ new ∧ new.Nodup ∧ ∀ x ∈ new, x ∉ known := by
  induction more generalizing known with
  | nil => exact ⟨[], (List.append_nil known).symm, List.nodup_nil, by simp⟩
  | cons x more ih =>
    by_cases hx : x ∈ known
    · rw [addExpected_of_mem hx]
      exact ih known
    · obtain ⟨new, hadd, hnodup, hnew⟩ := ih (known ++ [x])
      rw [addExpected_of_not_mem hx, hadd, List.append_assoc, List.singleton_append]
      refine ⟨x :: new, rfl, ?_, ?_⟩
      · exact List.nodup_cons.mpr ⟨fun hmem => hnew x hmem (by simp), hnodup⟩
      · rw [List.forall_mem_cons]
        exact ⟨hx, fun y hy hmem => hnew y hy (List.mem_append_left _ hmem)⟩

/-- Nothing is lost when an error is merged into the furthest one. -/
lemma growsTo_furthest (e e' : MatchError) : e.GrowsTo (e.furthest e') := by
  rw [furthest]
  split
  · exact .further ‹_›
  split
  · exact .more [] rfl rfl (List.append_nil _).symm List.nodup_nil (by simp)
  · obtain ⟨new, hadd, hnodup, hnew⟩ := exists_addExpected e.expected e'.expected
    exact .more new rfl rfl hadd hnodup hnew

lemma nodup_furthest {e e' : MatchError} (h : e.expected.Nodup) (h' : e'.expected.Nodup) :
    (e.furthest e').expected.Nodup := by
  rw [furthest]
  split
  · exact h'
  split
  · exact h
  · obtain ⟨new, hadd, hnodup, hnew⟩ := exists_addExpected e.expected e'.expected
    rw [show addExpected e.expected e'.expected = _ from hadd, List.nodup_append]
    refine ⟨h, hnodup, fun x hx y hy heq => hnew y hy (heq ▸ hx)⟩

end MatchError

/-! ### Trails -/

namespace Trail

/-- What may be written after a trail without an overflow: a furthest failure that goes on from the
one before, or an overflow and nothing else. After an overflow nothing may be written. -/
inductive Step (t : Trail) : Trail → Prop where
  | fail {e : MatchError} (h : t.overflow = none) (hgrows : ∀ e₀ ∈ t.furthest, e₀.GrowsTo e) :
      Step t { t with furthest := some e }
  | overflow {e : MatchError} (h : t.overflow = none) : Step t { t with overflow := some e }

/-- What the furthest failure expects is listed without repetition. -/
def Distinct (t : Trail) : Prop := ∀ e ∈ t.furthest, e.expected.Nodup

/-- The trails that failed visits write, one after the other. -/
def passed (s : Setup) (t : Trail) : List Visit → List Trail
  | [] => []
  | v :: rest =>
    let next := t.record (s.errorAt v.pos v.expectation)
    next :: passed s next rest

variable {s : Setup} {t : Trail}

lemma step_record (h : t.overflow = none) (e : MatchError) : t.Step (t.record e) := by
  refine .fail h fun e₀ he₀ => ?_
  have hfurthest : t.furthest = some e₀ := he₀
  rw [hfurthest]
  exact e₀.growsTo_furthest e

lemma Distinct.record (h : t.Distinct) {e : MatchError} (he : e.expected.Nodup) :
    (t.record e).Distinct := by
  rintro _ ⟨⟩
  cases hfurthest : t.furthest with
  | none => exact he
  | some e₀ => exact MatchError.nodup_furthest (h e₀ hfurthest) he

lemma getLastD_passed (t : Trail) (failed : List Visit) :
    (passed s t failed).getLastD t = t.after s failed := by
  induction failed generalizing t with
  | nil => rfl
  | cons v rest ih =>
    rw [passed, List.getLastD_cons, ih]
    rfl

lemma isChain_passed (h : t.overflow = none) (failed : List Visit) :
    List.IsChain Step (t :: passed s t failed) := by
  induction failed generalizing t with
  | nil => exact List.isChain_singleton t
  | cons v rest ih => exact List.isChain_cons_cons.mpr ⟨step_record h _, ih h⟩

lemma Distinct.passed (h : t.Distinct) (failed : List Visit) :
    ∀ t' ∈ passed s t failed, t'.Distinct := by
  induction failed generalizing t with
  | nil => simp [Trail.passed]
  | cons v rest ih =>
    have hnext := h.record (e := s.errorAt v.pos v.expectation) (by simp)
    rw [Trail.passed, List.forall_mem_cons]
    exact ⟨hnext, ih hnext⟩

/-- Trails written after those of a chain go on with the chain. -/
lemma isChain_append {before after : List Trail} (h : List.IsChain Step (t :: before))
    (h' : List.IsChain Step (before.getLastD t :: after)) :
    List.IsChain Step (t :: (before ++ after)) := by
  induction before generalizing t with
  | nil => exact h'
  | cons t' before ih =>
    obtain ⟨hstep, hrest⟩ := List.isChain_cons_cons.mp h
    rw [List.getLastD_cons] at h'
    exact List.isChain_cons_cons.mpr ⟨hstep, ih hrest h'⟩

/-- In a chain nothing follows an overflow. -/
lemma eq_nil_of_overflow {before after : List Trail} {e : MatchError} (h : t.overflow = some e)
    (hchain : List.IsChain Step (before ++ t :: after)) : after = [] := by
  cases after with
  | nil => rfl
  | cons next after =>
    have hstep := (List.isChain_append_cons_cons.mp hchain).2.1
    cases hstep with
    | fail hnone | overflow hnone => cases h.symm.trans hnone

end Trail

/-! ### Nested references -/

section

variable (s : Setup) (graph : RuleGraph) (depth : Nat)

lemma Rule.attempt_depth (enter : String → Option Attempt) (rule : Rule) :
    rule.attempt { s with depth } enter = rule.attempt s enter := by
  induction rule using Rule.inductionOn with
  | literal | pattern | reference => rfl
  | concat name parts ih =>
    rw [attempt, attempt, attempts_eq_map, attempts_eq_map, List.map_congr_left ih]
  | plus name child ih | star name child ih | discard name child ih =>
    rw [attempt, attempt, ih]
    rfl
  | optional name child ih => rw [attempt, attempt, ih]
  | alternate name left right ihl ihr => rw [attempt, attempt, ihl, ihr]

/-- How deeply an attempt is nested counts for the levels that are left and for nothing else. -/
lemma Rule.attemptWithin_depth (levels : Nat) :
    Rule.attemptWithin { s with depth } graph levels = Rule.attemptWithin s graph levels := by
  induction levels with
  | zero =>
    funext rule
    exact rule.attempt_depth s depth _
  | succ left ih =>
    funext rule
    rw [attemptWithin, attemptWithin, ih]
    exact rule.attempt_depth s depth _

end

/-- A rule of a graph that is to be matched at a position. -/
structure Call where
  graph : RuleGraph
  rule : Rule
  pos : Nat

namespace Context

/-- To match a reference is to match the rule it leads to one level deeper, and to come back. -/
lemma matchAt_reference (cx : Context) {graph : RuleGraph} {rule : Rule} {key : String}
    (hcx : cx.overflow = none) (hdepth : cx.depth < cx.maxDepth) (hkey : graph key = some rule)
    (name target : String) (pos : Nat) :
    cx.matchAt graph (.reference name target (some key)) pos =
      let (result, inner) := { cx with depth := cx.depth + 1 }.matchAt graph rule pos
      (result, { inner with depth := inner.depth - 1 }) := by
  obtain ⟨left, hleft⟩ : ∃ left, cx.maxDepth - cx.depth = left + 1 :=
    ⟨cx.maxDepth - (cx.depth + 1), by omega⟩
  have hinner : cx.maxDepth - (cx.depth + 1) = left := by omega
  simp only [matchAt, hleft, hinner, Rule.attemptWithin_depth]
  rw [Rule.attemptWithin_eq_attempt, Rule.attempt, Attempt.unlessOverflown]
  simp [hcx, Rule.enterWithin, hkey]

/-! ### Matches one after the other -/

def perform (cx : Context) (call : Call) : Except MatchError Match × Context :=
  cx.matchAt call.graph call.rule call.pos

/-- The context after some matches, one after the other. -/
def performAll (cx : Context) (calls : List Call) : Context :=
  calls.foldl (fun cx call => (cx.perform call).2) cx

/-- The trails that a match writes: one for every failure, in the order in which they are made, and
one for an overflow. -/
def writes (cx : Context) (call : Call) : List Trail :=
  match cx.overflow with
  | some _ => []
  | none =>
    let failed := cx.toTrail.passed cx.toSetup (cx.failures call.graph call.rule call.pos)
    match (cx.trace call.graph call.rule call.pos).verdict with
    | .overflow e => failed ++ [{ failed.getLastD cx.toTrail with overflow := some e }]
    | _ => failed

/-- The trails that some matches write, one after the other. -/
def writesOfAll (cx : Context) : List Call → List Trail
  | [] => []
  | call :: rest => cx.writes call ++ (cx.perform call).2.writesOfAll rest

variable {cx : Context} (call : Call)

/-- The last trail that a match writes is the one that it leaves. -/
lemma getLastD_writes : (cx.writes call).getLastD cx.toTrail = (cx.perform call).2.toTrail := by
  rw [writes]
  cases hcx : cx.overflow with
  | some e => rw [perform, matchAt_of_overflow hcx, List.getLastD_nil]
  | none =>
    cases hverdict : (cx.trace call.graph call.rule call.pos).verdict with
    | success m =>
      rw [perform, (matchAt_of_success hcx hverdict).2]
      exact Trail.getLastD_passed _ _
    | failure e =>
      rw [perform, (matchAt_of_failure hcx hverdict).2]
      exact Trail.getLastD_passed _ _
    | overflow e =>
      have hafter : (cx.perform call).2.toTrail = _ :=
        (cx.matchAt_replays call.graph call.rule call.pos hcx).of_overflow hverdict
      rw [hafter, List.getLastD_concat, Trail.getLastD_passed]
      rfl

lemma isChain_writes : List.IsChain Trail.Step (cx.toTrail :: cx.writes call) := by
  rw [writes]
  cases hcx : cx.overflow with
  | some e => exact List.isChain_singleton _
  | none =>
    have hpassed := Trail.isChain_passed (s := cx.toSetup) hcx
      (cx.failures call.graph call.rule call.pos)
    cases hverdict : (cx.trace call.graph call.rule call.pos).verdict with
    | success m | failure e => exact hpassed
    | overflow e =>
      refine Trail.isChain_append hpassed (List.isChain_pair.mpr (.overflow ?_))
      rw [Trail.getLastD_passed, Trail.overflow_after, hcx]

lemma distinct_writes (h : cx.toTrail.Distinct) : ∀ t ∈ cx.writes call, t.Distinct := by
  rw [writes]
  cases hcx : cx.overflow with
  | some e => simp
  | none =>
    have hpassed := h.passed (s := cx.toSetup) (cx.failures call.graph call.rule call.pos)
    cases hverdict : (cx.trace call.graph call.rule call.pos).verdict with
    | success m | failure e => exact hpassed
    | overflow e =>
      have hlast := List.forall_mem_cons.mpr ⟨h, hpassed⟩ _ List.getLastD_mem_cons
      exact List.forall_mem_append.mpr ⟨hpassed, List.forall_mem_singleton.mpr hlast⟩

variable (calls : List Call)

lemma toSetup_performAll : (cx.performAll calls).toSetup = cx.toSetup := by
  induction calls generalizing cx with
  | nil => rfl
  | cons call rest ih => exact @ih (cx.perform call).2

lemma getLastD_writesOfAll :
    (cx.writesOfAll calls).getLastD cx.toTrail = (cx.performAll calls).toTrail := by
  induction calls generalizing cx with
  | nil => rfl
  | cons call rest ih =>
    rw [writesOfAll, List.getLastD_eq_getLast?, List.getLast?_append, Option.getD_or,
      ← List.getLastD_eq_getLast?, ← List.getLastD_eq_getLast?, getLastD_writes, ih]
    rfl

lemma isChain_writesOfAll : List.IsChain Trail.Step (cx.toTrail :: cx.writesOfAll calls) := by
  induction calls generalizing cx with
  | nil => exact List.isChain_singleton _
  | cons call rest ih =>
    refine Trail.isChain_append (isChain_writes call) ?_
    rw [getLastD_writes]
    exact ih

lemma distinct_writesOfAll (h : cx.toTrail.Distinct) : ∀ t ∈ cx.writesOfAll calls, t.Distinct := by
  induction calls generalizing cx with
  | nil => simp [writesOfAll]
  | cons call rest ih =>
    have hwrites := distinct_writes call h
    have hlast := List.forall_mem_cons.mpr ⟨h, hwrites⟩ _ List.getLastD_mem_cons
    rw [getLastD_writes] at hlast
    exact List.forall_mem_append.mpr ⟨hwrites, ih hlast⟩

/-! ### What holds all the way -/

/-- Matches in one context change nothing but its trail, and each comes back to the depth at which
it began, as does the rule behind every reference on the way. At every failure the furthest one
gets further, or it expects something more at its position, and nothing twice. An overflow leaves
it as it was and is the last thing that is ever written: from then on all matches fail with it. -/
theorem performAll_invariant (cx : Context) (calls : List Call) :
    (cx.performAll calls).toSetup = cx.toSetup ∧
    (∀ graph rule key, cx.overflow = none → cx.depth < cx.maxDepth → graph key = some rule →
      ∀ name target pos, cx.matchAt graph (.reference name target (some key)) pos =
        let (result, inner) := { cx with depth := cx.depth + 1 }.matchAt graph rule pos
        (result, { inner with depth := inner.depth - 1 })) ∧
    List.IsChain Trail.Step (cx.toTrail :: cx.writesOfAll calls) ∧
    (cx.writesOfAll calls).getLastD cx.toTrail = (cx.performAll calls).toTrail ∧
    (cx.toTrail.Distinct → ∀ t ∈ cx.writesOfAll calls, t.Distinct) ∧
    (∀ before t after, cx.toTrail :: cx.writesOfAll calls = before ++ t :: after →
      t.overflow ≠ none → after = []) ∧
    ∀ e, (cx.performAll calls).overflow = some e →
      ∀ call, (cx.performAll calls).perform call = (.error e, cx.performAll calls) := by
  have hchain := @isChain_writesOfAll cx calls
  refine ⟨toSetup_performAll calls, ?_, hchain, getLastD_writesOfAll calls,
    distinct_writesOfAll calls, ?_, ?_⟩
  · intro graph rule key hcx hdepth hkey name target pos
    exact cx.matchAt_reference hcx hdepth hkey name target pos
  · intro before t after hsplit hoverflow
    obtain ⟨e, he⟩ := Option.ne_none_iff_exists'.mp hoverflow
    rw [hsplit] at hchain
    exact Trail.eq_nil_of_overflow he hchain
  · intro e he call
    exact matchAt_of_overflow he call.rule call.pos

/-- A failure, then an overflow that an option makes a success of, then a match that fails with it
although its literal is there. -/
theorem performAll_invariant_option :
    let graph : RuleGraph := fun _ => some <| .concat "s"
      [.literal "'('" [40], .optional "s?" (.reference "s" "s" (some "s"))]
    let cx : Context := { source := .ofBytes [40, 40], maxDepth := 1 }
    let reference : Rule := .reference "s" "s" (some "s")
    let calls : List Call := [⟨graph, .literal "'a'" [97], 1⟩, ⟨graph, reference, 0⟩]
    let failed : MatchError := ⟨1, ["'a'"], "("⟩
    let cut : MatchError := ⟨1, ["nesting depth within 1"], "("⟩
    cx.overflow = none ∧ cx.depth < cx.maxDepth ∧ cx.toTrail.Distinct ∧
      cx.writesOfAll calls = [⟨some failed, none⟩, ⟨some failed, some cut⟩] ∧
      (cx.performAll calls).toTrail = ⟨some failed, some cut⟩ ∧
      ((cx.perform ⟨graph, reference, 0⟩).1.map (·.length)) = .ok 1 ∧
      ((cx.performAll calls).perform ⟨graph, .literal "'('" [40], 0⟩).1 = .error cut := by
  intro graph cx reference calls failed cut
  have hdistinct : cx.toTrail.Distinct := by
    rintro e ⟨⟩
  obtain ⟨-, hreference, -, hlast, hkept, -, hover⟩ := cx.performAll_invariant calls
  have hwrites : cx.writesOfAll calls = [⟨some failed, none⟩, ⟨some failed, some cut⟩] := by
    decide
  have htrail : (cx.performAll calls).toTrail = ⟨some failed, some cut⟩ := by
    rw [← hlast, hwrites]
    rfl
  refine ⟨rfl, Nat.one_pos, hdistinct, hwrites, htrail, ?_, ?_⟩
  · rw [perform, hreference graph _ "s" rfl Nat.one_pos rfl "s" "s" 0]
    rfl
  · rw [hover cut (congrArg Trail.overflow htrail)]

end Context

end Peg
