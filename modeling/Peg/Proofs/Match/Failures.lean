import Mathlib.Data.List.Induction
import Peg.Proofs.Match.Merging
import Peg.Proofs.Match.Replay
import Peg.Proofs.Source

/-!
# Failures of a match

The trail keeps one error for all failures, and `MatchError.Reports` says which: the error at the
last position where anything failed, with what was expected there. An attempt that fails has an
error of its own, put together on the way up. It stems from failures of the same attempt, so it
never says more than the one in the trail.
-/

namespace Peg

@[simp] lemma Setup.position_errorAt (s : Setup) (pos : Nat) (x : String) :
    (s.errorAt pos x).position = pos := rfl

@[simp] lemma Setup.expected_errorAt (s : Setup) (pos : Nat) (x : String) :
    (s.errorAt pos x).expected = [x] := rfl

lemma Setup.neighborhood_errorAt (s : Setup) (pos : Nat) (x : String) :
    (s.errorAt pos x).neighborhood = Utf8.decodeLossy ((s.source.suffix pos).take s.width) := by
  rw [errorAt, Source.neighborhood_eq_take]

/-! ### Expectations -/

namespace MatchError

lemma addExpected_singleton (l : List String) (x : String) :
    addExpected l.eraseDups [x] = (l ++ [x]).eraseDups := by
  rw [List.eraseDups_append]
  by_cases hx : x ∈ l
  · simp [addExpected, List.removeAll, hx]
  · simp [addExpected, List.removeAll, List.eraseDups_cons, hx]

/-! ### The furthest failure -/

/-- The error says where the last of the failed visits are, what they expected in the order in which
they failed, and with which bytes the input goes on there, up to as many as errors quote. -/
structure Reports (s : Setup) (failed : List Visit) (e : MatchError) : Prop where
  mem : ∃ v ∈ failed, v.pos = e.position
  pos_le : ∀ v ∈ failed, v.pos ≤ e.position
  expected : e.expected =
    ((failed.filter fun v => v.pos = e.position).map Visit.expectation).eraseDups
  neighborhood : e.neighborhood = Utf8.decodeLossy ((s.source.suffix e.position).take s.width)

variable {s : Setup} {failed : List Visit} {e e' : MatchError}

lemma reports_singleton (v : Visit) : Reports s [v] (s.errorAt v.pos v.expectation) where
  mem := ⟨v, List.mem_singleton_self v, rfl⟩
  pos_le := by simp
  expected := by simp [List.eraseDups_cons]
  neighborhood := s.neighborhood_errorAt v.pos v.expectation

/-- One more failure is added to what is reported. -/
lemma Reports.concat (h : Reports s failed e) (v : Visit) :
    Reports s (failed ++ [v]) (e.furthest (s.errorAt v.pos v.expectation)) := by
  obtain ⟨⟨w, hw, hwpos⟩, hle, hexpected, hneighborhood⟩ := h
  have hle' : ∀ u ∈ failed ++ [v],
      u.pos ≤ (e.furthest (s.errorAt v.pos v.expectation)).position := by
    rw [position_furthest, List.forall_mem_append, List.forall_mem_singleton]
    exact ⟨fun u hu => Nat.le_trans (hle u hu) (Nat.le_max_left _ _), Nat.le_max_right _ _⟩
  rcases Nat.lt_trichotomy e.position (s.errorAt v.pos v.expectation).position with hlt | heq | hgt
  · have hnone :
        failed.filter (fun w => w.pos = (s.errorAt v.pos v.expectation).position) = [] := by
      rw [List.filter_eq_nil_iff]
      intro w hw hdec
      exact Nat.not_le_of_lt hlt (of_decide_eq_true hdec ▸ hle w hw)
    rw [furthest_of_lt hlt] at hle' ⊢
    refine ⟨⟨v, by simp, rfl⟩, hle', ?_, s.neighborhood_errorAt v.pos v.expectation⟩
    rw [List.filter_append, hnone]
    simp [List.eraseDups_cons]
  · rw [furthest_of_eq heq] at hle' ⊢
    refine ⟨⟨w, by simp [hw], hwpos⟩, hle', ?_, hneighborhood⟩
    rw [Setup.position_errorAt] at heq
    rw [List.filter_append, List.map_append, hexpected]
    simpa [heq] using addExpected_singleton _ v.expectation
  · rw [furthest_of_gt hgt] at hle' ⊢
    refine ⟨⟨w, by simp [hw], hwpos⟩, hle', ?_, hneighborhood⟩
    rw [Setup.position_errorAt] at hgt
    rw [List.filter_append, hexpected]
    simp [Nat.ne_of_lt hgt]

end MatchError

/-- Failed visits are reported by the trail after them, if nothing had failed before. -/
lemma Trail.reports_after {s : Setup} {t : Trail} (ht : t.furthest = none) {failed : List Visit}
    (hfailed : failed ≠ []) :
    ∃ e, (t.after s failed).furthest = some e ∧ e.Reports s failed := by
  induction failed using List.reverseRecOn with
  | nil => exact absurd rfl hfailed
  | append_singleton failed v ih =>
    rw [Trail.after_append]
    by_cases hnil : failed = []
    · subst hnil
      refine ⟨_, ?_, MatchError.reports_singleton v⟩
      simp [Trail.after, Trail.record, ht]
    · obtain ⟨e, he, hreports⟩ := ih hnil
      refine ⟨_, ?_, hreports.concat v⟩
      simp [Trail.after, Trail.record] at he ⊢
      rw [he]
      rfl

/-! ### The error of an attempt -/

namespace MatchError

/-- The error speaks of failed visits only. -/
structure StemsFrom (failed : List Visit) (e : MatchError) : Prop where
  mem : ∃ v ∈ failed, v.pos = e.position
  expected : ∀ x ∈ e.expected, ∃ v ∈ failed, v.pos = e.position ∧ v.expectation = x

variable {s : Setup} {failed more : List Visit} {e e' : MatchError}

lemma stemsFrom_singleton (v : Visit) : (s.errorAt v.pos v.expectation).StemsFrom [v] where
  mem := ⟨v, List.mem_singleton_self v, rfl⟩
  expected := by simp

lemma StemsFrom.mono (h : e.StemsFrom failed) (hsub : failed ⊆ more) : e.StemsFrom more := by
  obtain ⟨⟨v, hv, hpos⟩, hexpected⟩ := h
  refine ⟨⟨v, hsub hv, hpos⟩, fun x hx => ?_⟩
  obtain ⟨w, hw, hwpos⟩ := hexpected x hx
  exact ⟨w, hsub hw, hwpos⟩

lemma StemsFrom.furthest (h : e.StemsFrom failed) (h' : e'.StemsFrom failed) :
    (e.furthest e').StemsFrom failed := by
  rw [MatchError.furthest]
  split
  · exact h'
  split
  · exact h
  · have heq : e'.position = e.position := by omega
    refine ⟨h.mem, fun x hx => ?_⟩
    rcases mem_addExpected_iff.mp hx with hx | hx
    · exact h.expected x hx
    · obtain ⟨v, hv, hpos⟩ := h'.expected x hx
      rw [heq] at hpos
      exact ⟨v, hv, hpos⟩

/-- What stems from failed visits is covered by what reports them. -/
lemma Reports.covers (h : e.Reports s failed) (h' : e'.StemsFrom failed) :
    e'.position ≤ e.position ∧ (e'.position = e.position → e'.expected ⊆ e.expected) := by
  obtain ⟨v, hv, hpos⟩ := h'.mem
  refine ⟨hpos ▸ h.pos_le v hv, fun heq x hx => ?_⟩
  obtain ⟨w, hw, hwpos, rfl⟩ := h'.expected x hx
  rw [h.expected, List.mem_eraseDups]
  exact List.mem_map_of_mem (by simp [hw, hwpos, heq])

end MatchError

namespace Trace

variable {α β : Type} {s : Setup} {graph : RuleGraph} {t : Trace α}

/-- If the trace ends with a failure, then its error stems from failed visits of the trace. -/
def Explained (source : Source) (graph : RuleGraph) (t : Trace α) : Prop :=
  ∀ e, t.verdict = .failure e → e.StemsFrom (t.failed source graph)

lemma explained_success (a : α) : (success a).Explained s.source graph := by
  rintro e ⟨⟩

lemma explained_overflow (e : MatchError) : (overflow e : Trace α).Explained s.source graph := by
  rintro e ⟨⟩

lemma failed_andThen_of_failure {f : α → Trace β} {g : MatchError → Trace β} {e : MatchError}
    (h : t.verdict = .failure e) : (t.andThen f g).failed s.source graph =
      t.failed s.source graph ++ (g e).failed s.source graph := by
  rw [andThen_of_failure h]
  exact List.filter_append _ _

/-- The error that comes after a failure may stem from both. -/
lemma Explained.andThen {f : α → Trace β} {g : MatchError → Trace β}
    (h : t.Explained s.source graph) (hf : ∀ a, (f a).Explained s.source graph)
    (hg : ∀ e failed, e.StemsFrom failed → ∀ e', (g e).verdict = .failure e' →
      e'.StemsFrom (failed ++ (g e).failed s.source graph)) :
    (t.andThen f g).Explained s.source graph := by
  intro e he
  cases ht : t.verdict with
  | success a =>
    rw [andThen_of_success ht] at he ⊢
    refine (hf a e he).mono ?_
    simp [failed]
  | failure e' =>
    rw [failed_andThen_of_failure ht]
    rw [andThen_of_failure ht] at he
    exact hg e' _ (h e' ht) e he
  | overflow e' =>
    rw [andThen_of_overflow ht] at he
    cases he

/-- A failure may be passed on. -/
lemma Explained.orFail {f : α → Trace β} (h : t.Explained s.source graph)
    (hf : ∀ a, (f a).Explained s.source graph) :
    (t.andThen f failure).Explained s.source graph := by
  refine h.andThen hf fun e failed he e' h => ?_
  obtain rfl : e = e' := by simpa using h
  exact he.mono (List.subset_append_left _ _)

lemma Explained.map {k : α → β} (h : t.Explained s.source graph) :
    (t.map k).Explained s.source graph :=
  h.orFail fun a => explained_success (k a)

/-- Or it may be forgotten. -/
lemma Explained.orSucceed {f : α → Trace β} {b : β} (h : t.Explained s.source graph)
    (hf : ∀ a, (f a).Explained s.source graph) :
    (t.andThen f fun _ => success b).Explained s.source graph := by
  refine h.andThen hf fun e failed he e' h => ?_
  simp at h

lemma Explained.orElse {t u : Trace Match} (ht : t.Explained s.source graph)
    (hu : u.Explained s.source graph) : (t.orElse u).Explained s.source graph := by
  refine ht.andThen explained_success fun e earlier he e' h => ?_
  cases hverdict : u.verdict with
  | success m => simp [andThen_of_success hverdict] at h
  | failure e'' =>
    rw [failed_andThen_of_failure hverdict, failed_failure, List.append_nil]
    rw [andThen_of_failure hverdict] at h
    obtain rfl : e.furthest e'' = e' := by simpa using h
    exact (he.mono (List.subset_append_left _ _)).furthest
      ((hu e'' hverdict).mono (List.subset_append_right _ _))
  | overflow e'' => simp [andThen_of_overflow hverdict] at h

lemma Explained.discard {t : Trace Match} (h : t.Explained s.source graph) :
    (t.discard s).Explained s.source graph := by
  refine h.andThen (fun m => explained_success _) fun e failed he e' h => ?_
  split at h
  · simp at h
  · obtain rfl : e = e' := by simpa using h
    exact he.mono (List.subset_append_left _ _)

lemma explained_sequence {as : List (Nat → Trace Match)} (pos : Nat)
    (h : ∀ a ∈ as, ∀ pos, (a pos).Explained s.source graph) :
    (sequence as pos).Explained s.source graph := by
  induction as generalizing pos with
  | nil => exact explained_success _
  | cons a rest ih =>
    rw [List.forall_mem_cons] at h
    exact (h.1 pos).orFail fun m => (ih _ h.2).map

lemma explained_collect {a : Nat → Trace Match} (fuel pos : Nat)
    (h : ∀ pos, (a pos).Explained s.source graph) :
    (collect a fuel pos).Explained s.source graph := by
  induction fuel generalizing pos with
  | zero => exact explained_success _
  | succ fuel ih =>
    refine (h pos).orSucceed fun m => ?_
    split
    · exact explained_success _
    · exact (ih _).map

lemma Explained.inside {t : Trace Match} (h : t.Explained s.source graph) (key : String)
    (pos : Nat) :
    (t.inside key pos).Explained s.source graph := by
  intro e he
  have hfailed : (t.inside key pos).failed s.source graph =
      (t.failed s.source graph).map fun v => { v with chain := (key, pos) :: v.chain } := by
    simp only [failed, Trace.inside, List.filter_map]
    rfl
  rw [hfailed]
  obtain ⟨⟨v, hv, hpos⟩, hexpected⟩ := h e he
  refine ⟨⟨_, List.mem_map_of_mem hv, hpos⟩, fun x hx => ?_⟩
  obtain ⟨w, hw, hwpos⟩ := hexpected x hx
  exact ⟨_, List.mem_map_of_mem hw, hwpos⟩

lemma Explained.visiting {t : Trace Match} (h : t.Explained s.source graph) (rule : Rule)
    (pos : Nat) :
    (t.visiting rule pos).Explained s.source graph :=
  fun e he => (h e he).mono ((List.sublist_cons_self _ _).filter _).subset

/-- A rule that fails by itself is what its error stems from. -/
lemma explained_fail {rule : Rule} {pos : Nat}
    (hfails : Visit.fails s.source graph { rule, pos } = true) :
    ((failure (s.errorAt pos (Visit.expectation { rule, pos })) : Trace Match).visiting
      rule pos).Explained s.source graph := by
  rintro e ⟨⟩
  have hfailed : ((failure (s.errorAt pos (Visit.expectation { rule, pos })) :
      Trace Match).visiting rule pos).failed s.source graph = [{ rule, pos }] := by
    simp [failed, Trace.visiting, failure, hfails]
  rw [hfailed]
  exact MatchError.stemsFrom_singleton { rule, pos }

lemma explained_terminal {name : String} {rule : Rule} {pos : Nat} {found : Option (List UInt8)}
    (hfails : Visit.fails s.source graph { rule, pos } = found.isNone) :
    ((terminal name (s.errorAt pos (Visit.expectation { rule, pos })) found).visiting
      rule pos).Explained s.source graph := by
  cases found with
  | some bytes => exact (explained_success _).visiting rule pos
  | none => exact explained_fail hfails

end Trace

section

variable {s : Setup} {graph : RuleGraph}

/-- The error of a trace that fails stems from the failed visits of the trace. -/
theorem Rule.traceWithin_explained (levels : Nat) (rule : Rule) :
    ∀ pos, (rule.traceWithin s graph levels pos).Explained s.source graph := by
  induction levels, rule using Rule.inductionWithin with
  | literal levels name bytes =>
    intro pos
    rw [traceWithin_literal]
    exact Trace.explained_terminal rfl
  | pattern levels name p =>
    intro pos
    rw [traceWithin_pattern]
    exact Trace.explained_terminal rfl
  | reference levels name target link ih =>
    intro pos
    rw [traceWithin_reference]
    rcases link_cases graph link with ⟨key, rule, rfl, hkey⟩ | hlink
    · rw [Trace.reference_eq_inside hkey]
      refine (Trace.Explained.inside ?_ key pos).visiting _ pos
      cases levels with
      | zero => exact Trace.explained_overflow _
      | succ left => exact ih left (Nat.lt_succ_self left) rule pos
    · rw [Trace.reference_eq_failure hlink]
      exact Trace.explained_fail (by simp [Visit.fails, hlink])
  | concat levels name parts ih =>
    intro pos
    rw [traceWithin_concat]
    refine (Trace.Explained.map (Trace.explained_sequence pos ?_)).visiting _ pos
    simpa using ih
  | plus levels name child ih =>
    intro pos
    rw [traceWithin_plus]
    refine ((ih pos).orFail fun m => ?_).visiting _ pos
    split
    · exact Trace.explained_success _
    · exact (Trace.explained_collect _ _ ih).map
  | star levels name child ih =>
    intro pos
    rw [traceWithin_star]
    exact (Trace.explained_collect _ _ ih).map.visiting _ pos
  | optional levels name child ih =>
    intro pos
    rw [traceWithin_optional]
    exact ((ih pos).orSucceed Trace.explained_success).visiting _ pos
  | alternate levels name left right ihl ihr =>
    intro pos
    rw [traceWithin_alternate]
    exact ((ihl pos).orElse (ihr pos)).visiting _ pos
  | discard levels name child ih =>
    intro pos
    rw [traceWithin_discard]
    exact (ih pos).discard.visiting _ pos

end

/-! ### Matches that fail -/

namespace Context

/-- Where the attempts of a match find nothing, in the order in which they are made. -/
def failures (cx : Context) (graph : RuleGraph) (rule : Rule) (pos : Nat) : List Visit :=
  (cx.trace graph rule pos).failed cx.source graph

/-- A match that fails without an overflow leaves an error that reports all of its failures, and
its own error stems from some of them. -/
lemma reports_of_matchAt_error {cx : Context} (hfurthest : cx.furthest = none)
    (hoverflow : cx.overflow = none) {graph : RuleGraph} {rule : Rule} {pos : Nat}
    {bubbled : MatchError} (h : (cx.matchAt graph rule pos).1 = .error bubbled)
    (hafter : (cx.matchAt graph rule pos).2.overflow = none) :
    ∃ e, (cx.matchAt graph rule pos).2.furthest = some e ∧
      e.Reports cx.toSetup (cx.failures graph rule pos) ∧
        bubbled.StemsFrom (cx.failures graph rule pos) := by
  have hreplays := cx.matchAt_replays graph rule pos hoverflow
  have hexplained : (cx.trace graph rule pos).Explained cx.source graph :=
    Rule.traceWithin_explained (cx.maxDepth - cx.depth) rule pos
  rw [h] at hreplays
  generalize htrail : (cx.matchAt graph rule pos).2.toTrail = trail at hreplays hafter ⊢
  cases hreplays with
  | failure hverdict =>
    have hstems : bubbled.StemsFrom (cx.failures graph rule pos) := hexplained bubbled hverdict
    obtain ⟨v, hv, -⟩ := hstems.mem
    obtain ⟨e, he, hreports⟩ := Trail.reports_after (s := cx.toSetup) hfurthest
      (List.ne_nil_of_mem hv)
    exact ⟨e, he, hreports, hstems⟩
  | overflow hverdict => simp at hafter

end Context

end Peg
