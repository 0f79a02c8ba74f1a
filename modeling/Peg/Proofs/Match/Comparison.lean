import Peg.Proofs.Match.Limits

/-!
# Matches under two setups

Two setups may find the same things in their inputs, the second one so many bytes further on. Then
a match under the one does what a match under the other does, whatever they quote in errors. If the
first one has fewer levels of references, then it may be cut off; up to there they visit the same.
-/

namespace Peg

/-! ### Errors -/

/-- The second error is the first one so many bytes further on, and if both quote alike then with
the same excerpt. -/
structure MatchError.Moved (shift : Nat) (quoted : Prop) (e e' : MatchError) : Prop where
  position : e'.position = e.position + shift
  expected : e'.expected = e.expected
  neighborhood : quoted → e'.neighborhood = e.neighborhood

lemma MatchError.Moved.furthest {shift : Nat} {quoted : Prop} {a a' b b' : MatchError}
    (ha : a.Moved shift quoted a') (hb : b.Moved shift quoted b') :
    (a.furthest b).Moved shift quoted (a'.furthest b') := by
  simp only [MatchError.furthest, ha.position, hb.position, Nat.add_lt_add_iff_right]
  split
  · exact hb
  · split
    · exact ha
    · exact ⟨rfl, by rw [ha.expected, hb.expected], ha.neighborhood⟩

/-! ### Setups -/

/-- The setups find the same, the second one so many bytes further on. -/
structure Setup.Agrees (shift : Nat) (s s' : Setup) : Prop where
  size : s'.source.size = s.source.size + shift
  literal : ∀ bytes pos,
    s'.source.matchLiteral? bytes (pos + shift) = s.source.matchLiteral? bytes pos
  pattern : ∀ p pos, s'.source.matchPattern? p (pos + shift) = s.source.matchPattern? p pos
  neighborhood : ∀ pos width,
    s'.source.neighborhood (pos + shift) width = s.source.neighborhood pos width
  lenientDiscard : s'.lenientDiscard = s.lenientDiscard

namespace Setup

variable {s s' : Setup} {shift : Nat}

lemma agrees_of_source_eq (hsource : s'.source = s.source)
    (hlenient : s'.lenientDiscard = s.lenientDiscard) : s.Agrees 0 s' := by
  constructor <;> simp [hsource, hlenient]

lemma Agrees.errorAt (h : s.Agrees shift s') (pos : Nat) (expected : String) :
    (s.errorAt pos expected).Moved shift (s'.width = s.width)
      (s'.errorAt (pos + shift) expected) where
  position := rfl
  expected := rfl
  neighborhood hwidth := by simp only [Setup.errorAt, h.neighborhood, hwidth]

end Setup

/-! ### Traces -/

/-- The visit so many bytes further on. -/
def Visit.moved (shift : Nat) (v : Visit) : Visit :=
  { v with pos := v.pos + shift, chain := v.chain.map fun (key, pos) => (key, pos + shift) }

@[simp] lemma Visit.moved_zero : Visit.moved 0 = id := by
  funext v
  simp [moved]

namespace Trace

variable {α β : Type} {shift : Nat} {quoted : Prop} {t t' : Trace α}

/-- The first trace is cut off on the way of the second one, or both do the same, the second one so
many bytes further on. -/
inductive Lifts (shift : Nat) (quoted : Prop) (t t' : Trace α) : Prop where
  | success {a : α} (h : t.verdict = .success a) (h' : t'.verdict = .success a)
      (hvisits : t'.visits = t.visits.map (Visit.moved shift)) : Lifts shift quoted t t'
  | failure {e e' : MatchError} (h : t.verdict = .failure e) (h' : t'.verdict = .failure e')
      (hmoved : e.Moved shift quoted e')
      (hvisits : t'.visits = t.visits.map (Visit.moved shift)) : Lifts shift quoted t t'
  | cut {e : MatchError} (h : t.verdict = .overflow e)
      (hvisits : t.visits.map (Visit.moved shift) <+: t'.visits) : Lifts shift quoted t t'

lemma lifts_success (a : α) : (success a).Lifts shift quoted (success a) :=
  .success rfl rfl rfl

lemma lifts_failure {e e' : MatchError} (h : e.Moved shift quoted e') :
    (failure e : Trace α).Lifts shift quoted (failure e') :=
  .failure rfl rfl h rfl

lemma lifts_terminal {e e' : MatchError} (h : e.Moved shift quoted e') (name : String)
    (found : Option (List UInt8)) :
    (terminal name e found).Lifts shift quoted (terminal name e' found) := by
  cases found with
  | none => exact lifts_failure h
  | some bytes => exact lifts_success _

lemma prefix_visits_andThen (t : Trace α) (f : α → Trace β) (g : MatchError → Trace β) :
    t.visits <+: (t.andThen f g).visits := by
  rw [andThen]
  split
  · exact List.prefix_append _ _
  · exact List.prefix_append _ _
  · exact List.prefix_refl _

namespace Lifts

/-- The same visits may come first. -/
lemma after {before : List Visit} (h : t.Lifts shift quoted t') :
    ({ t with visits := before ++ t.visits } : Trace α).Lifts shift quoted
      { t' with visits := before.map (Visit.moved shift) ++ t'.visits } := by
  cases h with
  | success h h' hvisits => exact .success h h' (by rw [hvisits, List.map_append])
  | failure h h' hmoved hvisits => exact .failure h h' hmoved (by rw [hvisits, List.map_append])
  | cut h hvisits =>
    refine .cut h ?_
    rw [List.map_append]
    exact (List.prefix_append_right_inj _).mpr hvisits

lemma andThen {f f' : α → Trace β} {g g' : MatchError → Trace β} (h : t.Lifts shift quoted t')
    (hf : ∀ a, (f a).Lifts shift quoted (f' a))
    (hg : ∀ e e', e.Moved shift quoted e' → (g e).Lifts shift quoted (g' e')) :
    (t.andThen f g).Lifts shift quoted (t'.andThen f' g') := by
  cases h with
  | @success a h h' hvisits =>
    rw [andThen_of_success h, andThen_of_success h', hvisits]
    exact (hf a).after
  | @failure e e' h h' hmoved hvisits =>
    rw [andThen_of_failure h, andThen_of_failure h', hvisits]
    exact (hg e e' hmoved).after
  | cut h hvisits =>
    rw [andThen_of_overflow h]
    exact .cut rfl (hvisits.trans (prefix_visits_andThen t' f' g'))

lemma map {k : α → β} (h : t.Lifts shift quoted t') :
    (t.map k).Lifts shift quoted (t'.map k) :=
  h.andThen (fun a => lifts_success (k a)) fun _ _ => lifts_failure

lemma visiting {t t' : Trace Match} (h : t.Lifts shift quoted t') (rule : Rule) (pos : Nat) :
    (t.visiting rule pos).Lifts shift quoted (t'.visiting rule (pos + shift)) :=
  @after _ _ _ _ _ [{ rule, pos }] h

lemma inside (h : t.Lifts shift quoted t') (key : String) (pos : Nat) :
    (t.inside key pos).Lifts shift quoted (t'.inside key (pos + shift)) := by
  have hmoved : ∀ visits : List Visit,
      (visits.map fun v => { v with chain := (key, pos) :: v.chain }).map (Visit.moved shift) =
        (visits.map (Visit.moved shift)).map fun v =>
          { v with chain := (key, pos + shift) :: v.chain } := by
    intro visits
    simp [Visit.moved]
  cases h with
  | success h h' hvisits => exact .success h h' (by simp only [Trace.inside, hvisits, hmoved])
  | failure h h' herror hvisits =>
    exact .failure h h' herror (by simp only [Trace.inside, hvisits, hmoved])
  | cut h hvisits =>
    refine .cut h ?_
    simp only [Trace.inside, hmoved]
    exact hvisits.map _

lemma of_success {a : α} (h : t.Lifts shift quoted t') (ht : t.verdict = .success a) :
    t'.verdict = .success a := by
  cases h with
  | success h h' =>
    obtain ⟨⟩ := ht.symm.trans h
    exact h'
  | failure h | cut h => cases ht.symm.trans h

lemma of_failure {e : MatchError} (h : t.Lifts shift quoted t') (ht : t.verdict = .failure e) :
    ∃ e', t'.verdict = .failure e' ∧ e.Moved shift quoted e' := by
  cases h with
  | failure h h' hmoved =>
    obtain ⟨⟩ := ht.symm.trans h
    exact ⟨_, h', hmoved⟩
  | success h | cut h => cases ht.symm.trans h

lemma visits_eq (h : t.Lifts shift quoted t') (ht : ∀ e, t.verdict ≠ .overflow e) :
    t'.visits = t.visits.map (Visit.moved shift) := by
  cases h with
  | success h h' hvisits | failure h h' hmoved hvisits => exact hvisits
  | cut h => exact absurd h (ht _)

lemma prefix_visits (h : t.Lifts shift quoted t') :
    t.visits.map (Visit.moved shift) <+: t'.visits := by
  cases h with
  | success h h' hvisits | failure h h' hmoved hvisits => exact hvisits ▸ List.prefix_refl _
  | cut h hvisits => exact hvisits

end Lifts

lemma lifts_sequence {parts : List Rule} {f f' : Rule → Nat → Trace Match} (pos : Nat)
    (h : ∀ r ∈ parts, ∀ pos, (f r pos).Lifts shift quoted (f' r (pos + shift))) :
    (sequence (parts.map f) pos).Lifts shift quoted (sequence (parts.map f') (pos + shift)) := by
  induction parts generalizing pos with
  | nil => exact lifts_success _
  | cons r rest ih =>
    rw [List.forall_mem_cons] at h
    refine (h.1 pos).andThen (fun m => ?_) fun _ _ => lifts_failure
    rw [Nat.add_right_comm]
    exact (ih _ h.2).map

lemma lifts_collect {a a' : Nat → Trace Match} (fuel pos : Nat)
    (h : ∀ pos, (a pos).Lifts shift quoted (a' (pos + shift))) :
    (collect a fuel pos).Lifts shift quoted (collect a' fuel (pos + shift)) := by
  induction fuel generalizing pos with
  | zero => exact lifts_success _
  | succ fuel ih =>
    refine (h pos).andThen (fun m => ?_) fun _ _ _ => lifts_success _
    split
    · exact lifts_success _
    · rw [Nat.add_right_comm]
      exact (ih _).map

end Trace

/-! ### Rules -/

section

variable {s s' : Setup} {graph : RuleGraph} {shift : Nat}

/-- Within more levels a rule does the same, if it is not cut off within fewer. -/
theorem Rule.traceWithin_lifts (hagrees : s.Agrees shift s') (levels : Nat) (rule : Rule) :
    ∀ levels' ≥ levels, ∀ pos, (rule.traceWithin s graph levels pos).Lifts shift
      (s'.width = s.width) (rule.traceWithin s' graph levels' (pos + shift)) := by
  induction levels, rule using Rule.inductionWithin with
  | literal levels name bytes =>
    intro levels' hle pos
    rw [traceWithin_literal, traceWithin_literal, hagrees.literal]
    exact (Trace.lifts_terminal (hagrees.errorAt pos _) name _).visiting _ pos
  | pattern levels name p =>
    intro levels' hle pos
    rw [traceWithin_pattern, traceWithin_pattern, hagrees.pattern]
    exact (Trace.lifts_terminal (hagrees.errorAt pos _) name _).visiting _ pos
  | reference levels name target link ih =>
    intro levels' hle pos
    rw [traceWithin_reference, traceWithin_reference]
    refine Trace.Lifts.visiting ?_ _ pos
    rcases link_cases graph link with ⟨key, rule, rfl, hkey⟩ | hlink
    · rw [Trace.reference_eq_inside hkey, Trace.reference_eq_inside hkey]
      refine Trace.Lifts.inside ?_ key pos
      -- Without a level left the first trace is cut off here, whatever the second one goes on to
      -- do.
      cases levels with
      | zero => exact .cut rfl List.nil_prefix
      | succ left =>
        cases levels' with
        | zero => exact absurd hle (Nat.not_succ_le_zero left)
        | succ left' =>
          exact ih left (Nat.lt_succ_self left) rule left' (Nat.le_of_succ_le_succ hle) pos
    · rw [Trace.reference_eq_failure hlink, Trace.reference_eq_failure hlink]
      exact Trace.lifts_failure (hagrees.errorAt pos _)
  | concat levels name parts ih =>
    intro levels' hle pos
    rw [traceWithin_concat, traceWithin_concat]
    refine (Trace.Lifts.map (Trace.lifts_sequence pos fun r hr => ?_)).visiting _ pos
    exact ih r hr levels' hle
  | plus levels name child ih =>
    intro levels' hle pos
    rw [traceWithin_plus, traceWithin_plus]
    refine ((ih levels' hle pos).andThen (fun m => ?_)
      fun _ _ => Trace.lifts_failure).visiting _ pos
    simp only [hagrees.size, Nat.add_right_comm pos shift, Nat.add_sub_add_right]
    split
    · exact Trace.lifts_success _
    · exact (Trace.lifts_collect _ _ (ih levels' hle)).map
  | star levels name child ih =>
    intro levels' hle pos
    rw [traceWithin_star, traceWithin_star, Trace.star, Trace.star, hagrees.size,
      Nat.add_sub_add_right]
    exact (Trace.lifts_collect _ pos (ih levels' hle)).map.visiting _ pos
  | optional levels name child ih =>
    intro levels' hle pos
    rw [traceWithin_optional, traceWithin_optional]
    exact ((ih levels' hle pos).andThen Trace.lifts_success fun _ _ _ =>
      Trace.lifts_success _).visiting _ pos
  | alternate levels name left right ihl ihr =>
    intro levels' hle pos
    rw [traceWithin_alternate, traceWithin_alternate]
    refine ((ihl levels' hle pos).andThen Trace.lifts_success fun e e' he => ?_).visiting _ pos
    exact (ihr levels' hle pos).andThen Trace.lifts_success fun _ _ he' =>
      Trace.lifts_failure (he.furthest he')
  | discard levels name child ih =>
    intro levels' hle pos
    rw [traceWithin_discard, traceWithin_discard]
    refine ((ih levels' hle pos).andThen (fun m => Trace.lifts_success _)
      fun e e' he => ?_).visiting _ pos
    rw [hagrees.lenientDiscard]
    split
    · exact Trace.lifts_success _
    · exact Trace.lifts_failure he

end

/-! ### Matches -/

/-- The other context reads the same input in the same way, and has no fewer levels of references
left. -/
structure Context.FitsInto (cx cx' : Context) : Prop where
  source : cx'.source = cx.source
  lenientDiscard : cx'.lenientDiscard = cx.lenientDiscard
  levels : cx.maxDepth - cx.depth ≤ cx'.maxDepth - cx'.depth

lemma Context.FitsInto.trace {cx cx' : Context} (h : cx.FitsInto cx') (graph : RuleGraph)
    (rule : Rule) (pos : Nat) :
    (cx.trace graph rule pos).Lifts 0 (cx'.width = cx.width) (cx'.trace graph rule pos) :=
  rule.traceWithin_lifts (Setup.agrees_of_source_eq h.source h.lenientDiscard) _ _ h.levels pos

end Peg
