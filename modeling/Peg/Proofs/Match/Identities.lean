import Peg.Proofs.Match.History
import Peg.Proofs.Match.Merging
import Peg.Proofs.Match.Termination

/-!
# Identities of rules

Choice is associative, and a repetition or an option can be written with others. The two sides of
such an identity do not try their parts equally often: behind an empty match one side may try the
same part at the same position once more. It comes to the same again, and since failures that are
merged once more add nothing, the trail does not tell the sides apart either.
-/

namespace Peg

/-! ### Failures that are recorded again -/

namespace Trail

variable {s : Setup} {t : Trail} {e : MatchError}

/-- The error adds nothing to the furthest failure. -/
def Holds (t : Trail) (e : MatchError) : Prop := ∃ f, t.furthest = some f ∧ f.furthest e = f

lemma holds_record (t : Trail) (e : MatchError) : (t.record e).Holds e := by
  refine ⟨_, rfl, ?_⟩
  cases t.furthest with
  | none => exact e.furthest_self
  | some f => exact (f.furthest_assoc e e).trans (by rw [e.furthest_self]; rfl)

lemma Holds.record (h : t.Holds e) (e' : MatchError) : (t.record e').Holds e := by
  obtain ⟨f, hf, hadd⟩ := h
  refine ⟨f.furthest e', ?_, MatchError.furthest_of_absorbed hadd e'⟩
  rw [Trail.record, hf]
  rfl

lemma Holds.record_eq (h : t.Holds e) : t.record e = t := by
  obtain ⟨f, hf, hadd⟩ := h
  rw [Trail.record, hf, Option.map_some, Option.getD_some, hadd, ← hf]

lemma Holds.after (h : t.Holds e) (failed : List Visit) : (t.after s failed).Holds e := by
  induction failed generalizing t with
  | nil => exact h
  | cons v rest ih => exact ih (h.record _)

lemma holds_after (t : Trail) (failed : List Visit) :
    ∀ v ∈ failed, (t.after s failed).Holds (s.errorAt v.pos v.expectation) := by
  induction failed generalizing t with
  | nil => simp
  | cons v rest ih =>
    rw [List.forall_mem_cons]
    exact ⟨(t.holds_record _).after rest, ih _⟩

/-- Visits that have failed before may fail again. -/
lemma after_after (t : Trail) (failed : List Visit) :
    (t.after s failed).after s failed = t.after s failed := by
  have hagain : ∀ (t : Trail) (more : List Visit),
      (∀ v ∈ more, t.Holds (s.errorAt v.pos v.expectation)) → t.after s more = t := by
    intro t more h
    induction more with
    | nil => rfl
    | cons v rest ih =>
      rw [List.forall_mem_cons] at h
      rw [after, List.foldl_cons, h.1.record_eq]
      exact ih h.2
  exact hagain _ failed (t.holds_after failed)

end Trail

/-! ### Attempts that are made again -/

namespace Rule

variable {s : Setup} {graph : RuleGraph}

/-- Where a rule was tried, it comes to the same once more, and leaves the trail as it is. -/
lemma attemptWithin_again {levels : Nat} {rule : Rule} {pos : Nat} {t t' : Trail}
    {result : Except MatchError Match}
    (h : rule.attemptWithin s graph levels pos t = (result, t')) (ht' : t'.overflow = none) :
    rule.attemptWithin s graph levels pos t' = (result, t') := by
  have hfollows := @rule.attemptWithin_replays s graph levels
  cases ht : t.overflow with
  | some e =>
    obtain ⟨-, rfl⟩ := Prod.mk.inj ((hfollows.halts pos t e ht).symm.trans h)
    cases ht.symm.trans ht'
  | none =>
    have hagain := hfollows.replays pos t' ht'
    rcases hfollows.cases pos ht with ⟨m, hm, hresult⟩ | ⟨e, he, hresult⟩ | ⟨e, r, he, hresult⟩
    · obtain ⟨rfl, rfl⟩ := Prod.mk.inj (hresult.symm.trans h)
      rw [hagain.of_success hm, Trail.after_after]
    · obtain ⟨rfl, rfl⟩ := Prod.mk.inj (hresult.symm.trans h)
      rw [hagain.of_failure he, Trail.after_after]
    · obtain ⟨rfl, rfl⟩ := Prod.mk.inj (hresult.symm.trans h)
      cases ht'

/-- A repetition stops behind where it started, whatever bound of rounds that is large enough. -/
lemma exists_collect (depth : Nat) (rule : Rule) (pos : Nat) (built : List ParseTree) (t : Trail) :
    ∃ trees stop t', pos ≤ stop ∧ ∀ fuel, s.source.size - pos < fuel →
      Attempt.collect (rule.attemptWithin s graph (s.maxDepth - depth)) fuel pos built t =
        ((trees, stop), t') := by
  obtain ⟨trees, stop, t', _, _, hruns⟩ :=
    exists_runsLoop (@rule.halts s graph depth) pos built t
  exact ⟨trees, stop, t', hruns.stop_le.1, fun fuel hfuel => hruns.eq_collect hfuel⟩

lemma end_le_of_attemptWithin {depth : Nat} {rule : Rule} {pos : Nat} {t t' : Trail} {m : Match}
    (h : rule.attemptWithin s graph (s.maxDepth - depth) pos t = (.ok m, t')) :
    pos + m.length ≤ max pos s.source.size := by
  obtain ⟨outcome, loops, hruns⟩ := @rule.halts s graph depth pos t
  exact hruns.end_le (hruns.eq_attemptWithin.symm.trans h)

/-- Choices do nothing after an overflow, since neither alternative does. -/
lemma attemptWithin_alternate_eq (levels : Nat) (name : String) (left right : Rule) :
    (alternate name left right).attemptWithin s graph levels =
      Attempt.orElse (left.attemptWithin s graph levels) (right.attemptWithin s graph levels) := by
  funext pos t
  cases ht : t.overflow with
  | none => exact attemptWithin_alternate ht levels pos name left right
  | some e =>
    have hhalts := fun rule : Rule =>
      (@rule.attemptWithin_replays s graph levels).halts pos t e ht
    simp only [Attempt.orElse, hhalts, MatchError.furthest_self]

end Rule

/-! ### Attempts that agree -/

/-- The outcomes leave the same trail, and unless references were nested too deeply, they show the
same of a success and they fail alike. -/
structure Outcome.Agree {α : Type} (view : Match → α) (o o' : Outcome) : Prop where
  trail : o'.2 = o.2
  result : o.2.overflow = none → o'.1.map view = o.1.map view

namespace Attempt

lemma orElse_assoc (a b c : Attempt) : (a.orElse b).orElse c = a.orElse (b.orElse c) := by
  funext pos t
  simp only [orElse]
  rcases a pos t with ⟨_ | _, t⟩
  · rcases hb : b pos t with ⟨_ | _, t'⟩
    · rcases hc : c pos t' with ⟨_ | _, t''⟩ <;> simp [hb, hc, MatchError.furthest_assoc]
    · simp [hb]
  · rfl

/-- What is built already does not count for where a repetition stops. -/
lemma collect_built (a : Attempt) (fuel pos : Nat) (built built' : List ParseTree) (t : Trail) :
    (collect a fuel pos built' t).1.2 = (collect a fuel pos built t).1.2 ∧
      (collect a fuel pos built' t).2 = (collect a fuel pos built t).2 := by
  induction fuel generalizing pos built built' t with
  | zero => exact ⟨rfl, rfl⟩
  | succ fuel ih =>
    simp only [collect]
    rcases a pos t with ⟨_ | m, t⟩
    · exact ⟨rfl, rfl⟩
    · by_cases hm : m.length = 0
      · simp [hm]
      · simpa [hm] using ih _ _ _ _

end Attempt

namespace Rule

variable {s : Setup} {graph : RuleGraph} {t : Trail} (ht : t.overflow = none) (e : Rule) (pos : Nat)

include ht

/-- An option is a choice between its part and nothing. -/
lemma optional_agree (levels : Nat) (name name' name'' : String) :
    Outcome.Agree id ((optional name e).attemptWithin s graph levels pos t)
      ((alternate name' e (concat name'' [])).attemptWithin s graph levels pos t) := by
  rw [attemptWithin_optional ht, attemptWithin_alternate ht, Attempt.optional, Attempt.orElse]
  rcases e.attemptWithin s graph levels pos t with ⟨err | m, t'⟩
  · cases ht' : t'.overflow with
    | none =>
      simp only [attemptWithin_concat ht']
      exact ⟨rfl, fun _ => rfl⟩
    | some err' =>
      have hhalts := (@attemptWithin_replays s graph levels (concat name'' [])).halts
        pos t' err' ht'
      simp only [hhalts]
      exact ⟨rfl, fun hnone => absurd (ht'.symm.trans hnone) (by simp)⟩
  · exact ⟨rfl, fun _ => rfl⟩

/-- Any number of matches are one or more of them, or none. -/
lemma star_agree (depth : Nat) (name name' name'' : String) :
    Outcome.Agree Match.length ((star name e).attemptWithin s graph (s.maxDepth - depth) pos t)
      ((optional name' (plus name'' e)).attemptWithin s graph (s.maxDepth - depth) pos t) := by
  rw [attemptWithin_star ht, attemptWithin_optional ht, Attempt.star, Attempt.optional,
    attemptWithin_plus ht, Attempt.plus, Attempt.collectFrom, Attempt.collect]
  rcases hfirst : e.attemptWithin s graph (s.maxDepth - depth) pos t with ⟨err | m, t'⟩
  · exact ⟨rfl, fun _ => by simp [Except.map]⟩
  · by_cases hm : m.length = 0
    · simp only [hm, if_true]
      exact ⟨rfl, fun _ => by simp [Except.map]⟩
    · have hend := end_le_of_attemptWithin hfirst
      obtain ⟨trees, stop, t'', -, hcollect⟩ :=
        @e.exists_collect s graph depth (pos + m.length) m.tree.toList t'
      simp only [hm, if_false, Attempt.collectFrom, List.append_nil]
      rw [hcollect _ (by omega), hcollect _ (by omega)]
      exact ⟨rfl, fun _ => rfl⟩

/-- One or more matches are one, and then any number of them. -/
lemma plus_agree (depth : Nat) (name name' name'' : String) :
    Outcome.Agree Match.length ((plus name e).attemptWithin s graph (s.maxDepth - depth) pos t)
      ((concat name' [e, star name'' e]).attemptWithin s graph (s.maxDepth - depth) pos t) := by
  have hfollows := @e.attemptWithin_replays s graph (s.maxDepth - depth)
  rw [attemptWithin_plus ht, attemptWithin_concat ht, Attempt.plus, Attempt.sequence, List.map_cons,
    Attempt.sequenceFrom, Nat.add_zero]
  rcases hfirst : e.attemptWithin s graph (s.maxDepth - depth) pos t with ⟨err | m, t'⟩
  · exact ⟨rfl, fun _ => rfl⟩
  simp only [List.map_cons, List.map_nil, Attempt.sequenceFrom, Nat.zero_add]
  cases ht' : t'.overflow with
  | some err' =>
    have hhalts := (@attemptWithin_replays s graph (s.maxDepth - depth) (star name'' e)).halts
      (pos + m.length) t' err' ht'
    have htrail : (if m.length = 0 then
          ((.ok { tree := some (.node name m.tree.toList), length := 0 }, t') : Outcome)
        else Attempt.collectFrom s name (e.attemptWithin s graph (s.maxDepth - depth)) pos
          (pos + m.length) m.tree.toList t').2 = t' := by
      split
      · rfl
      · exact Attempt.snd_collectFrom_of_overflow hfollows name _ _ _ ht'
    rw [hhalts]
    exact ⟨htrail.symm, fun hnone => absurd (ht'.symm.trans (htrail ▸ hnone)) (by simp)⟩
  | none =>
    rw [attemptWithin_star ht']
    by_cases hm : m.length = 0
    · -- The star tries once more what was empty.
      have hagain := attemptWithin_again hfirst ht'
      simp only [hm, if_true, Nat.add_zero, Attempt.star, Attempt.collectFrom, Attempt.collect,
        hagain]
      exact ⟨rfl, fun _ => by simp [Except.map]⟩
    · obtain ⟨trees, stop, t₁, hle, hcollect⟩ :=
        @e.exists_collect s graph depth (pos + m.length) m.tree.toList t'
      obtain ⟨trees', stop', t₂, -, hcollect'⟩ :=
        @e.exists_collect s graph depth (pos + m.length) [] t'
      have hbuilt := Attempt.collect_built (e.attemptWithin s graph (s.maxDepth - depth))
        (s.source.size - (pos + m.length) + 1) (pos + m.length) [] m.tree.toList t'
      rw [hcollect _ (Nat.lt_succ_self _), hcollect' _ (Nat.lt_succ_self _)] at hbuilt
      obtain ⟨rfl, rfl⟩ : stop = stop' ∧ t₁ = t₂ := hbuilt
      simp only [hm, if_false, Attempt.star, Attempt.collectFrom, hcollect _ (Nat.lt_succ_self _),
        hcollect' _ (Nat.lt_succ_self _)]
      refine ⟨rfl, fun _ => congrArg Except.ok ?_⟩
      show m.length + (stop - (pos + m.length)) = stop - pos
      omega

end Rule

/-! ### Matches that agree -/

/-- Matches of the two rules leave the same context, and unless references were nested too deeply,
they show the same of a success and they fail alike. -/
structure Context.Agree {α : Type} (cx : Context) (graph : RuleGraph) (pos : Nat)
    (view : Match → α) (rule rule' : Rule) : Prop where
  context : (cx.matchAt graph rule' pos).2 = (cx.matchAt graph rule pos).2
  result : (cx.matchAt graph rule pos).2.overflow = none →
    (cx.matchAt graph rule' pos).1.map view = (cx.matchAt graph rule pos).1.map view

namespace Context

variable {cx : Context} {graph : RuleGraph} {pos : Nat}

/-- After an overflow matches do nothing, so attempts need to agree before one only. -/
lemma agree_of_attempts {α : Type} {view : Match → α} {rule rule' : Rule}
    (h : cx.overflow = none → Outcome.Agree view
      (rule.attemptWithin cx.toSetup graph (cx.maxDepth - cx.depth) pos cx.toTrail)
      (rule'.attemptWithin cx.toSetup graph (cx.maxDepth - cx.depth) pos cx.toTrail)) :
    cx.Agree graph pos view rule rule' := by
  cases hcx : cx.overflow with
  | some e =>
    have hhalts := fun rule => @matchAt_of_overflow cx graph _ hcx rule pos
    exact ⟨by rw [hhalts, hhalts], fun _ => by rw [hhalts, hhalts]⟩
  | none =>
    obtain ⟨htrail, hresult⟩ := h hcx
    refine ⟨?_, hresult⟩
    simp only [matchAt, htrail]

/-- The identities of parsing expressions, for any rules of any graph, at any position, in any
context. Choices may be bracketed either way, and `e?` may be written as a choice of `e` and
nothing: that gives the same matches, with their trees. `e+` may be written as `e e*`, and `e*` as
`(e+)?`: that gives matches of the same lengths. In all of these failures are the same errors, and
the context remembers the same. -/
theorem matchAt_identities (cx : Context) (graph : RuleGraph) (pos : Nat) (a b c e : Rule)
    (n₁ n₂ n₃ n₄ : String) :
    cx.Agree graph pos id (.alternate n₁ (.alternate n₂ a b) c)
      (.alternate n₃ a (.alternate n₄ b c)) ∧
    cx.Agree graph pos Match.length (.plus n₁ e) (.concat n₂ [e, .star n₃ e]) ∧
    cx.Agree graph pos Match.length (.star n₁ e) (.optional n₂ (.plus n₃ e)) ∧
    cx.Agree graph pos id (.optional n₁ e) (.alternate n₂ e (.concat n₃ [])) := by
  refine ⟨agree_of_attempts fun _ => ?_, agree_of_attempts fun hcx => ?_,
    agree_of_attempts fun hcx => ?_, agree_of_attempts fun hcx => ?_⟩
  · simp only [Rule.attemptWithin_alternate_eq, Attempt.orElse_assoc]
    exact ⟨rfl, fun _ => rfl⟩
  · exact Rule.plus_agree hcx e pos cx.depth n₁ n₂ n₃
  · exact Rule.star_agree hcx e pos cx.depth n₁ n₂ n₃
  · exact Rule.optional_agree hcx e pos _ n₁ n₂ n₃

/-- An option that is empty is tried once more by `e e*` and fails inside a second time, behind a
failure from before. -/
theorem matchAt_identities_empty :
    let graph : RuleGraph := fun key => if key = "a" then some (.literal "'a'" [97]) else none
    let part : Rule := .optional "a?" (.reference "a" "a" (some "a"))
    let cx : Context := { source := .ofBytes [98], furthest := some ⟨0, ["'c'"], "b"⟩ }
    let parts : Rule := .concat "s" [part, .star "a?*" part]
    (cx.matchAt graph (.plus "a?+" part) 0).2.overflow = none ∧
      (cx.matchAt graph parts 0).1.map Match.length = .ok 0 ∧
      (cx.matchAt graph parts 0).2.furthest = some ⟨0, ["'c'", "'a'"], "b"⟩ := by
  intro graph part cx parts
  obtain ⟨-, ⟨hcontext, hresult⟩, -⟩ :=
    matchAt_identities cx graph 0 part part part part "a?+" "s" "a?*" ""
  refine ⟨rfl, (hresult rfl).trans rfl, ?_⟩
  rw [hcontext]
  rfl

end Context

end Peg
