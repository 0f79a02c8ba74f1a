import Peg.Proofs.Match.Adequacy
import Peg.Proofs.Match.Replay

/-!
# Matching follows the semantics

Unless references are nested too deeply, `Context.matchAt` finds what the semantics of parsing
expressions derives, whatever failures the context remembers from before. Wherever the semantics
derives anything, matching finds it with enough levels of nesting.
-/

namespace Peg

namespace Context

variable (cx : Context) (graph : RuleGraph) (rule : Rule) {pos : Nat}

/-- A match without an overflow has the outcome of its trace. -/
lemma outcome?_trace (hoverflow : cx.overflow = none)
    (h : (cx.matchAt graph rule pos).2.overflow = none) :
    (cx.trace graph rule pos).outcome? = some (cx.matchAt graph rule pos).1.toOption := by
  have hreplays := cx.matchAt_replays graph rule pos hoverflow
  generalize hresult : (cx.matchAt graph rule pos).1 = result at hreplays
  generalize htrail : (cx.matchAt graph rule pos).2.toTrail = trail at hreplays
  rw [htrail] at h
  cases hreplays with
  | success hverdict => rw [Trace.outcome?, hverdict]; rfl
  | failure hverdict => rw [Trace.outcome?, hverdict]; rfl
  | overflow hverdict => simp at h

/-- Where the trace has an outcome, the match has it too, and there is no overflow. -/
lemma matchAt_of_outcome? (hoverflow : cx.overflow = none) {outcome : Option Match}
    (h : (cx.trace graph rule pos).outcome? = some outcome) :
    (cx.matchAt graph rule pos).1.toOption = outcome ∧
      (cx.matchAt graph rule pos).2.overflow = none := by
  have hreplays := cx.matchAt_replays graph rule pos hoverflow
  generalize hresult : (cx.matchAt graph rule pos).1 = result at hreplays ⊢
  generalize htrail : (cx.matchAt graph rule pos).2.toTrail = trail at hreplays ⊢
  cases hreplays with
  | success hverdict =>
    rw [Trace.outcome?, hverdict] at h
    exact ⟨Option.some.inj h, by simpa using hoverflow⟩
  | failure hverdict =>
    rw [Trace.outcome?, hverdict] at h
    exact ⟨Option.some.inj h, by simpa using hoverflow⟩
  | overflow hverdict => simp [Trace.outcome?, hverdict] at h

/-- Without an overflow, matching finds exactly what the semantics derives; and whatever the
semantics derives is found without an overflow, once enough references may be nested. The graph
may be cyclic, and a reference that leads nowhere fails in both. -/
theorem matchAt_iff_derives (hpos : pos ≤ cx.source.size) (hoverflow : cx.overflow = none) :
    ((cx.matchAt graph rule pos).2.overflow = none →
      (∀ m, (cx.matchAt graph rule pos).1 = .ok m ↔
        Derives cx.source cx.lenientDiscard graph rule pos (some m)) ∧
      ((∃ e, (cx.matchAt graph rule pos).1 = .error e) ↔
        Derives cx.source cx.lenientDiscard graph rule pos none)) ∧
    ∀ outcome, Derives cx.source cx.lenientDiscard graph rule pos outcome →
      ∃ bound, ∀ maxDepth ≥ bound,
        ({ cx with maxDepth }.matchAt graph rule pos).1.toOption = outcome ∧
          ({ cx with maxDepth }.matchAt graph rule pos).2.overflow = none := by
  refine ⟨fun h => ?_, fun outcome h => ?_⟩
  · have hderives := Rule.traceWithin_sound _ rule pos hpos _
      (cx.outcome?_trace graph rule hoverflow h)
    cases hresult : (cx.matchAt graph rule pos).1 with
    | ok m =>
      rw [hresult] at hderives
      refine ⟨fun m' => ⟨?_, fun h' => ?_⟩, ⟨?_, fun h' => ?_⟩⟩
      · rintro ⟨⟩
        exact hderives
      · cases hderives.unique hpos h'
        rfl
      · rintro ⟨e, ⟨⟩⟩
      · cases hderives.unique hpos h'
    | error e =>
      rw [hresult] at hderives
      refine ⟨fun m' => ⟨?_, fun h' => ?_⟩, ⟨fun _ => hderives, fun _ => ⟨e, rfl⟩⟩⟩
      · rintro ⟨⟩
      · cases hderives.unique hpos h'
  · obtain ⟨n, hn⟩ := h.traced hpos
    refine ⟨n + cx.depth, fun maxDepth hdepth => ?_⟩
    exact matchAt_of_outcome? { cx with maxDepth } graph rule hoverflow
      (hn maxDepth (maxDepth - cx.depth) (by omega))

/-- Nested parentheses, by a rule that refers to itself. -/
theorem matchAt_iff_derives_parentheses :
    let cx : Context := { source := .ofBytes [40, 40, 41, 41] }
    let graph : RuleGraph := fun _ => some <| .concat "s"
      [.literal "'('" [40], .optional "s?" (.reference "s" "s" (some "s")), .literal "')'" [41]]
    let inner : ParseTree := .node "s" [.leaf "'('" [40], .leaf "')'" [41]]
    (0 ≤ cx.source.size ∧ cx.overflow = none) ∧
      Derives cx.source false graph (.reference "s" "s" (some "s")) 0
        (some {
          tree := some (.node "s" [.leaf "'('" [40], inner, .leaf "')'" [41]])
          length := 4 }) := by
  intro cx graph inner
  have h := cx.matchAt_iff_derives graph (.reference "s" "s" (some "s"))
    (Nat.zero_le cx.source.size) rfl
  exact ⟨⟨Nat.zero_le _, rfl⟩, ((h.1 rfl).1 _).mp rfl⟩

end Context

end Peg
