import Peg.Proofs.Match.Replay

/-!
# The limit of nesting

A trace within so many levels of references is cut off by the first reference that would be nested
inside of so many others. Where the trace is not cut off there is no such reference.
-/

namespace Peg

/-! ### Nested references -/

/-- The key that a visited reference leads to. -/
def Visit.followed (graph : RuleGraph) (v : Visit) : List (String × Nat) :=
  match v.rule with
  | .reference _ _ (some key) => if (graph key).isSome then [(key, v.pos)] else []
  | _ => []

/-- The references that a visit is inside of, and the reference itself that is visited. -/
def Visit.path (graph : RuleGraph) (v : Visit) : List (String × Nat) := v.chain ++ v.followed graph

/-- The visit is one of a reference that leads to a rule, inside of so many others. -/
structure Visit.EntersAt (graph : RuleGraph) (depth : Nat) (v : Visit) : Prop where
  chain : v.chain.length = depth
  followed : v.followed graph ≠ []

variable {s : Setup} {graph : RuleGraph}

lemma Visit.EntersAt.lt_length_path {depth : Nat} {v : Visit} (h : v.EntersAt graph depth) :
    depth < (v.path graph).length := by
  rw [Visit.path, List.length_append, h.chain]
  exact Nat.lt_add_of_pos_right (List.length_pos_iff.mpr h.followed)

/-- A reference that leads to a rule is followed. -/
lemma Visit.followed_of_link {name target key : String} {rule : Rule} (h : graph key = some rule)
    (pos : Nat) : Visit.followed graph { rule := .reference name target (some key), pos } =
      [(key, pos)] := by
  simp [followed, h]

lemma Visit.followed_of_no_link {name target : String} {link : Option String}
    (h : link.bind graph = none) (pos : Nat) :
    Visit.followed graph { rule := .reference name target link, pos } = [] := by
  cases link with
  | none => rfl
  | some key => simp [followed, show graph key = none from h]

namespace Trace

variable {α β : Type} {levels : Nat} {t : Trace α}

/-- What a limit of so many levels does to a trace: no reference is nested deeper, or else the first
one that is cuts the trace off, with the error at its position. -/
inductive Limited (s : Setup) (graph : RuleGraph) (levels : Nat) (t : Trace α) : Prop where
  | within (h : ∀ e, t.verdict ≠ .overflow e)
      (hvisits : ∀ v ∈ t.visits, (v.path graph).length ≤ levels) : Limited s graph levels t
  | cut {before : List Visit} {v : Visit}
      (h : t.verdict = .overflow (s.errorAt v.pos s!"nesting depth within {s.maxDepth}"))
      (hvisits : t.visits = before ++ [v])
      (hbefore : ∀ u ∈ before, (u.path graph).length ≤ levels) (hv : v.EntersAt graph levels) :
      Limited s graph levels t

lemma limited_success (a : α) : (success a).Limited s graph levels :=
  .within (fun _ h => by cases h) (by simp [success])

lemma limited_failure (e : MatchError) : (failure e : Trace α).Limited s graph levels :=
  .within (fun _ h => by cases h) (by simp [failure])

lemma limited_terminal (name : String) (e : MatchError) (found : Option (List UInt8)) :
    (terminal name e found).Limited s graph levels := by
  cases found with
  | none => exact limited_failure e
  | some bytes => exact limited_success _

namespace Limited

/-- Visits within the limit may come first. -/
lemma after {before : List Visit} (h : t.Limited s graph levels)
    (hbefore : ∀ v ∈ before, (v.path graph).length ≤ levels) :
    ({ t with visits := before ++ t.visits } : Trace α).Limited s graph levels := by
  cases h with
  | within h hvisits => exact .within h (List.forall_mem_append.mpr ⟨hbefore, hvisits⟩)
  | @cut between v h hvisits hbetween hv =>
    have hsplit : before ++ t.visits = before ++ between ++ [v] := by
      rw [hvisits, List.append_assoc]
    exact .cut h hsplit (List.forall_mem_append.mpr ⟨hbefore, hbetween⟩) hv

lemma andThen {f : α → Trace β} {g : MatchError → Trace β} (h : t.Limited s graph levels)
    (hf : ∀ a, (f a).Limited s graph levels)
    (hg : ∀ e, (g e).Limited s graph levels) :
    (t.andThen f g).Limited s graph levels := by
  cases h with
  | within h hvisits =>
    cases ht : t.verdict with
    | success a =>
      rw [andThen_of_success ht]
      exact (hf a).after hvisits
    | failure e =>
      rw [andThen_of_failure ht]
      exact (hg e).after hvisits
    | overflow e => exact absurd ht (h e)
  | cut h hvisits hbefore hv =>
    rw [andThen_of_overflow h]
    exact .cut rfl hvisits hbefore hv

lemma map {k : α → β} (h : t.Limited s graph levels) :
    (t.map k).Limited s graph levels :=
  h.andThen (fun a => limited_success (k a)) limited_failure

lemma visiting {t : Trace Match} (h : t.Limited s graph levels) {rule : Rule} {pos : Nat}
    (hpath : (Visit.followed graph { rule, pos }).length ≤ levels) :
    (t.visiting rule pos).Limited s graph levels := by
  have hvisit : ∀ v ∈ [({ rule, pos } : Visit)], (v.path graph).length ≤ levels := by
    simpa [Visit.path] using hpath
  exact h.after hvisit

/-- Inside of a reference there is one level less. -/
lemma inside (h : t.Limited s graph levels) (key : String) (pos : Nat) :
    (t.inside key pos).Limited s graph (levels + 1) := by
  have hpath : ∀ v : Visit, (v.path graph).length ≤ levels →
      (Visit.path graph { v with chain := (key, pos) :: v.chain }).length ≤ levels + 1 := by
    intro v hv
    exact Nat.succ_le_succ hv
  cases h with
  | within h hvisits =>
    exact .within h (List.forall_mem_map.mpr fun v hv => hpath v (hvisits v hv))
  | @cut before v h hvisits hbefore hv =>
    have hsplit : (t.inside key pos).visits =
        before.map (fun u => { u with chain := (key, pos) :: u.chain }) ++
          [{ v with chain := (key, pos) :: v.chain }] := by
      rw [Trace.inside, hvisits, List.map_append, List.map_singleton]
    refine @cut _ s graph _ _ _ { v with chain := (key, pos) :: v.chain } h hsplit ?_
      ⟨congrArg Nat.succ hv.chain, hv.followed⟩
    exact List.forall_mem_map.mpr fun u hu => hpath u (hbefore u hu)

end Limited

lemma limited_sequence {as : List (Nat → Trace Match)} (pos : Nat)
    (h : ∀ a ∈ as, ∀ pos, (a pos).Limited s graph levels) :
    (sequence as pos).Limited s graph levels := by
  induction as generalizing pos with
  | nil => exact limited_success _
  | cons a rest ih =>
    rw [List.forall_mem_cons] at h
    exact (h.1 pos).andThen (fun m => (ih _ h.2).map) limited_failure

lemma limited_collect {a : Nat → Trace Match} (fuel pos : Nat)
    (h : ∀ pos, (a pos).Limited s graph levels) :
    (collect a fuel pos).Limited s graph levels := by
  induction fuel generalizing pos with
  | zero => exact limited_success _
  | succ fuel ih =>
    refine (h pos).andThen (fun m => ?_) fun _ => limited_success _
    split
    · exact limited_success _
    · exact (ih _).map

end Trace

/-! ### Rules -/

/-- The trace of a rule is cut off by the first reference for which no level is left. -/
theorem Rule.traceWithin_limited (levels : Nat) (rule : Rule) :
    ∀ pos, (rule.traceWithin s graph levels pos).Limited s graph levels := by
  induction levels, rule using Rule.inductionWithin with
  | literal levels name bytes =>
    intro pos
    rw [traceWithin_literal]
    exact (Trace.limited_terminal _ _ _).visiting (Nat.zero_le _)
  | pattern levels name p =>
    intro pos
    rw [traceWithin_pattern]
    exact (Trace.limited_terminal _ _ _).visiting (Nat.zero_le _)
  | reference levels name target link ih =>
    intro pos
    rw [traceWithin_reference]
    rcases link_cases graph link with ⟨key, rule, rfl, hkey⟩ | hlink
    · rw [Trace.reference_eq_inside hkey]
      have hfollowed := @Visit.followed_of_link graph name target key rule hkey pos
      -- The reference itself is the first visit, so nothing that is cut off comes before it.
      cases levels with
      | zero => exact .cut rfl (List.nil_append _).symm (by simp) ⟨rfl, by simp [hfollowed]⟩
      | succ left =>
        have hinside := (ih left (Nat.lt_succ_self left) rule pos).inside key pos
        exact hinside.visiting (by simp [hfollowed])
    · rw [Trace.reference_eq_failure hlink]
      refine (Trace.limited_failure _).visiting ?_
      rw [Visit.followed_of_no_link hlink]
      exact Nat.zero_le _
  | concat levels name parts ih =>
    intro pos
    rw [traceWithin_concat]
    refine (Trace.Limited.map (Trace.limited_sequence pos ?_)).visiting (Nat.zero_le _)
    simpa using ih
  | plus levels name child ih =>
    intro pos
    rw [traceWithin_plus]
    refine ((ih pos).andThen (fun m => ?_) Trace.limited_failure).visiting (Nat.zero_le _)
    split
    · exact Trace.limited_success _
    · exact (Trace.limited_collect _ _ ih).map
  | star levels name child ih =>
    intro pos
    rw [traceWithin_star]
    exact (Trace.limited_collect _ _ ih).map.visiting (Nat.zero_le _)
  | optional levels name child ih =>
    intro pos
    rw [traceWithin_optional]
    exact ((ih pos).andThen Trace.limited_success fun _ =>
      Trace.limited_success _).visiting (Nat.zero_le _)
  | alternate levels name left right ihl ihr =>
    intro pos
    rw [traceWithin_alternate]
    exact ((ihl pos).andThen Trace.limited_success fun e => (ihr pos).andThen
      Trace.limited_success fun _ => Trace.limited_failure _).visiting (Nat.zero_le _)
  | discard levels name child ih =>
    intro pos
    rw [traceWithin_discard]
    refine ((ih pos).andThen (fun m => Trace.limited_success _) fun e => ?_).visiting
      (Nat.zero_le _)
    split
    · exact Trace.limited_success _
    · exact Trace.limited_failure _

/-! ### Matches -/

namespace Context

variable {cx : Context} {rule : Rule} {pos : Nat}

lemma matchAt_of_success {m : Match} (hcx : cx.overflow = none)
    (h : (cx.trace graph rule pos).verdict = .success m) :
    (cx.matchAt graph rule pos).1 = .ok m ∧ (cx.matchAt graph rule pos).2.toTrail =
      cx.toTrail.after cx.toSetup ((cx.trace graph rule pos).failed cx.source graph) :=
  Prod.mk.inj ((cx.matchAt_replays graph rule pos hcx).of_success h)

lemma matchAt_of_failure {e : MatchError} (hcx : cx.overflow = none)
    (h : (cx.trace graph rule pos).verdict = .failure e) :
    (cx.matchAt graph rule pos).1 = .error e ∧ (cx.matchAt graph rule pos).2.toTrail =
      cx.toTrail.after cx.toSetup ((cx.trace graph rule pos).failed cx.source graph) :=
  Prod.mk.inj ((cx.matchAt_replays graph rule pos hcx).of_failure h)

/-- A match overflows just if its trace is cut off. -/
lemma overflow_matchAt_eq_some {e : MatchError} (hcx : cx.overflow = none) :
    (cx.matchAt graph rule pos).2.overflow = some e ↔
      (cx.trace graph rule pos).verdict = .overflow e := by
  cases hverdict : (cx.trace graph rule pos).verdict with
  | success m => simp [(matchAt_of_success hcx hverdict).2, hcx]
  | failure e' => simp [(matchAt_of_failure hcx hverdict).2, hcx]
  | overflow e' =>
    have htrail : (cx.matchAt graph rule pos).2.toTrail = _ :=
      (cx.matchAt_replays graph rule pos hcx).of_overflow hverdict
    simp [htrail]

lemma overflow_matchAt_eq_none (hcx : cx.overflow = none) :
    (cx.matchAt graph rule pos).2.overflow = none ↔
      ∀ e, (cx.trace graph rule pos).verdict ≠ .overflow e := by
  simp only [Option.eq_none_iff_forall_ne_some, ne_eq, overflow_matchAt_eq_some hcx]

/-- Without an overflow the failed visits are all that a match leaves in the trail. -/
lemma toTrail_matchAt (hcx : cx.overflow = none)
    (h : (cx.matchAt graph rule pos).2.overflow = none) :
    (cx.matchAt graph rule pos).2.toTrail =
      cx.toTrail.after cx.toSetup ((cx.trace graph rule pos).failed cx.source graph) := by
  cases hverdict : (cx.trace graph rule pos).verdict with
  | success m => exact (matchAt_of_success hcx hverdict).2
  | failure e => exact (matchAt_of_failure hcx hverdict).2
  | overflow e => exact absurd hverdict ((overflow_matchAt_eq_none hcx).mp h e)

end Context

end Peg
