import Peg.Proofs.Match.Comparison

/-!
# Matching forgets

What a match comes to depends on the rule and on the input from the position on, not on what was
tried before it, nor on how deeply it is nested, as long as the limit of nesting is not exceeded.
Matches that share a context come to what they would come to in contexts of their own.
-/

namespace Peg

/-- What an error says besides the excerpt. -/
def MatchError.finding (e : MatchError) : Nat × List String := (e.position, e.expected)

lemma MatchError.Moved.finding_eq {quoted : Prop} {e e' : MatchError} (h : e.Moved 0 quoted e') :
    e'.finding = e.finding := by
  rw [finding, finding, h.position, h.expected, Nat.add_zero]

lemma MatchError.Moved.eq {quoted : Prop} {e e' : MatchError} (h : e.Moved 0 quoted e')
    (hquoted : quoted) : e' = e := by
  obtain ⟨position, expected, neighborhood⟩ := e'
  obtain ⟨rfl, rfl, hneighborhood⟩ := h
  rw [show neighborhood = e.neighborhood from hneighborhood hquoted]
  rfl

/-- Setups that read and quote the same record the same failures. -/
lemma Trail.after_congr {s s' : Setup} (hsource : s'.source = s.source)
    (hwidth : s'.width = s.width) (t : Trail) (failed : List Visit) :
    t.after s' failed = t.after s failed := by
  have herror : s'.errorAt = s.errorAt := by
    funext pos expected
    rw [Setup.errorAt, Setup.errorAt, hsource, hwidth]
  rw [after, after, herror]

namespace Context

/-- A new context for the same input, under the same settings. -/
def fresh (cx : Context) : Context where
  source := cx.source
  width := cx.width
  lenientDiscard := cx.lenientDiscard
  maxDepth := cx.maxDepth

/-- Matches rules of the graph at positions, one after the other in the same context. -/
def matchAll (cx : Context) (graph : RuleGraph) :
    List (Rule × Nat) → List (Except MatchError Match) × Context
  | [] => ([], cx)
  | (rule, pos) :: rest =>
    let (result, cx) := cx.matchAt graph rule pos
    let (results, cx) := cx.matchAll graph rest
    (result :: results, cx)

variable {cx cx' : Context} {graph : RuleGraph}

/-! ### Single matches -/

namespace FitsInto

variable {rule : Rule} {pos : Nat}

/-- Within more levels a match does not overflow either. -/
lemma overflow_eq_none (hfits : cx.FitsInto cx') (hcx : cx.overflow = none)
    (hcx' : cx'.overflow = none) (h : (cx.matchAt graph rule pos).2.overflow = none) :
    (cx'.matchAt graph rule pos).2.overflow = none := by
  rw [overflow_matchAt_eq_none hcx] at h
  rw [overflow_matchAt_eq_none hcx']
  intro e' he'
  cases hfits.trace graph rule pos with
  | success _ hverdict' | failure _ hverdict' => cases he'.symm.trans hverdict'
  | cut hverdict => exact h _ hverdict

/-- Within more levels a match comes to the same. -/
lemma result_eq (hfits : cx.FitsInto cx') (hcx : cx.overflow = none) (hcx' : cx'.overflow = none)
    (h : (cx.matchAt graph rule pos).2.overflow = none) :
    (cx'.matchAt graph rule pos).1.mapError MatchError.finding =
        (cx.matchAt graph rule pos).1.mapError MatchError.finding ∧
      (cx'.width = cx.width → (cx'.matchAt graph rule pos).1 = (cx.matchAt graph rule pos).1) := by
  have hlifts := hfits.trace graph rule pos
  cases hverdict : (cx.trace graph rule pos).verdict with
  | success m =>
    obtain ⟨hresult, -⟩ := matchAt_of_success hcx hverdict
    obtain ⟨hresult', -⟩ := matchAt_of_success hcx' (hlifts.of_success hverdict)
    rw [hresult, hresult']
    exact ⟨rfl, fun _ => rfl⟩
  | failure e =>
    obtain ⟨e', hverdict', hmoved⟩ := hlifts.of_failure hverdict
    obtain ⟨hresult, -⟩ := matchAt_of_failure hcx hverdict
    obtain ⟨hresult', -⟩ := matchAt_of_failure hcx' hverdict'
    rw [hresult, hresult']
    exact ⟨congrArg Except.error hmoved.finding_eq, fun hwidth => by rw [hmoved.eq hwidth]⟩
  | overflow e => exact absurd hverdict ((overflow_matchAt_eq_none hcx).mp h e)

/-- Within more levels a match adds the same to the trail. -/
lemma toTrail_eq (hfits : cx.FitsInto cx') (hwidth : cx'.width = cx.width)
    (hcx : cx.overflow = none) (htrail : cx'.toTrail = cx.toTrail)
    (h : (cx.matchAt graph rule pos).2.overflow = none) :
    (cx'.matchAt graph rule pos).2.toTrail = (cx.matchAt graph rule pos).2.toTrail := by
  have hcx' : cx'.overflow = none := by rw [htrail, hcx]
  have h' := hfits.overflow_eq_none hcx hcx' h
  have hvisits := (hfits.trace graph rule pos).visits_eq ((overflow_matchAt_eq_none hcx).mp h)
  rw [Visit.moved_zero, List.map_id] at hvisits
  rw [toTrail_matchAt hcx h, toTrail_matchAt hcx' h', Trace.failed, Trace.failed, hvisits,
    hfits.source, htrail, Trail.after_congr hfits.source hwidth]

end FitsInto

/-! ### Matches that share a context -/

/-- After an overflow a match does nothing but fail. -/
lemma matchAt_of_overflow {e : MatchError} (h : cx.overflow = some e) (rule : Rule) (pos : Nat) :
    cx.matchAt graph rule pos = (.error e, cx) := by
  have hfollows := @rule.attemptWithin_replays cx.toSetup graph (cx.maxDepth - cx.depth)
  rw [matchAt, hfollows.halts pos cx.toTrail e h]

lemma matchAll_of_overflow {e : MatchError} (h : cx.overflow = some e) (steps : List (Rule × Nat)) :
    (cx.matchAll graph steps).2 = cx := by
  induction steps with
  | nil => rfl
  | cons step rest ih =>
    rw [matchAll, matchAt_of_overflow h]
    exact ih

/-- If there is no overflow after a match, then there was none before. -/
lemma overflow_of_matchAt {rule : Rule} {pos : Nat}
    (h : (cx.matchAt graph rule pos).2.overflow = none) : cx.overflow = none := by
  cases hcx : cx.overflow with
  | none => rfl
  | some e =>
    rw [matchAt_of_overflow hcx, hcx] at h
    cases h

lemma overflow_of_matchAll {steps : List (Rule × Nat)}
    (h : (cx.matchAll graph steps).2.overflow = none) : cx.overflow = none := by
  cases hcx : cx.overflow with
  | none => rfl
  | some e =>
    rw [matchAll_of_overflow hcx, hcx] at h
    cases h

/-- Matches that share a context come to what they come to in new contexts. -/
lemma matchAll_eq_map (steps : List (Rule × Nat))
    (h : (cx.matchAll graph steps).2.overflow = none) :
    (cx.matchAll graph steps).1 =
      steps.map fun (rule, pos) => (cx.fresh.matchAt graph rule pos).1 := by
  induction steps generalizing cx with
  | nil => rfl
  | cons step rest ih =>
    obtain ⟨rule, pos⟩ := step
    have hrest := @overflow_of_matchAll (cx.matchAt graph rule pos).2 graph rest h
    have hfirst := overflow_of_matchAt hrest
    have hfits : cx.FitsInto cx.fresh := ⟨rfl, rfl, Nat.sub_le cx.maxDepth cx.depth⟩
    obtain ⟨-, hresult⟩ := hfits.result_eq hfirst rfl hrest
    have htail := @ih (cx.matchAt graph rule pos).2 h
    show (cx.matchAt graph rule pos).1 :: ((cx.matchAt graph rule pos).2.matchAll graph rest).1 = _
    rw [htail, ← hresult rfl]
    rfl

/-! ### No history -/

/-- Whatever two contexts remember, however deeply they are nested, and whatever their limits are,
matches in them come to the same, unless one overflows; errors may quote more or less of the input.
So matches that share a context come to what they come to in new ones, in any order. -/
theorem matchAt_forgets (graph : RuleGraph) :
    (∀ (cx cx' : Context) (rule : Rule) (pos : Nat), cx'.source = cx.source →
      cx'.lenientDiscard = cx.lenientDiscard → cx.overflow = none → cx'.overflow = none →
      (cx.matchAt graph rule pos).2.overflow = none →
      (cx'.matchAt graph rule pos).2.overflow = none →
      (cx'.matchAt graph rule pos).1.mapError MatchError.finding =
        (cx.matchAt graph rule pos).1.mapError MatchError.finding ∧
      (cx'.width = cx.width →
        (cx'.matchAt graph rule pos).1 = (cx.matchAt graph rule pos).1)) ∧
    ∀ (cx : Context) (steps : List (Rule × Nat)),
      (cx.matchAll graph steps).2.overflow = none →
      (cx.matchAll graph steps).1 =
        steps.map fun (rule, pos) => (cx.fresh.matchAt graph rule pos).1 := by
  constructor
  · intro cx cx' rule pos hsource hlenient hcx hcx' h h'
    -- The context with fewer levels left decides what both come to.
    rcases Nat.le_total (cx.maxDepth - cx.depth) (cx'.maxDepth - cx'.depth) with hle | hle
    · have hfits : cx.FitsInto cx' := ⟨hsource, hlenient, hle⟩
      exact hfits.result_eq hcx hcx' h
    · have hfits : cx'.FitsInto cx := ⟨hsource.symm, hlenient.symm, hle⟩
      obtain ⟨hfinding, hresult⟩ := hfits.result_eq hcx' hcx h'
      exact ⟨hfinding.symm, fun hwidth => (hresult hwidth.symm).symm⟩
  · intro cx steps h
    exact matchAll_eq_map steps h

/-- A context that has seen a later failure and has one level left, and a new one. -/
theorem matchAt_forgets_failure :
    let graph : RuleGraph := fun key => if key = "a" then some (.literal "'a'" [97]) else none
    let rule : Rule := .concat "s" [.reference "a" "a" (some "a"), .literal "'b'" [98]]
    let cx : Context := {
      source := .ofBytes [97, 99, 97, 98]
      width := 1
      maxDepth := 8
      depth := 7
      furthest := some ⟨3, ["'c'"], "b"⟩ }
    let cx' : Context := { source := cx.source }
    ((cx.matchAt graph rule 0).2.overflow = none ∧ (cx'.matchAt graph rule 0).2.overflow = none) ∧
      (cx.matchAt graph rule 0).1.mapError MatchError.finding = .error (1, ["'b'"]) ∧
      (cx'.matchAt graph rule 0).1.mapError MatchError.finding = .error (1, ["'b'"]) ∧
      (cx.matchAll graph [(rule, 0), (rule, 2), (rule, 0)]).2.overflow = none ∧
      (cx.matchAll graph [(rule, 0), (rule, 2), (rule, 0)]).1 =
        [(rule, 0), (rule, 2), (rule, 0)].map fun (rule, pos) =>
          (cx.fresh.matchAt graph rule pos).1 := by
  intro graph rule cx cx'
  have hfinding : (cx.matchAt graph rule 0).1.mapError MatchError.finding = .error (1, ["'b'"]) :=
    rfl
  obtain ⟨hfinding', -⟩ := (matchAt_forgets graph).1 cx cx' rule 0 rfl rfl rfl rfl rfl rfl
  refine ⟨⟨rfl, rfl⟩, hfinding, hfinding'.trans hfinding, rfl, ?_⟩
  exact (matchAt_forgets graph).2 cx [(rule, 0), (rule, 2), (rule, 0)] rfl

end Context

end Peg
