import Peg.Proofs.Match.Semantics
import Peg.Proofs.Match.Trace

/-!
# Traces and the semantics

The outcome of a trace is derived by the semantics, and whatever the semantics derives is the
outcome of the trace as soon as enough levels of references are left. So the semantics derives at
most one outcome.
-/

namespace Peg

variable {s : Setup} {graph : RuleGraph}

/-! ### Soundness -/

/-- The outcomes of the traces are those of the rule in the semantics. -/
def Trace.Sound (s : Setup) (graph : RuleGraph) (rule : Rule) (a : Nat → Trace Match) : Prop :=
  ∀ pos ≤ s.source.size, ∀ outcome, (a pos).outcome? = some outcome →
    Derives s.source s.lenientDiscard graph rule pos outcome

namespace Trace

variable {rule : Rule} {a : Nat → Trace Match} {pos : Nat}

lemma Sound.success (h : Sound s graph rule a) (hpos : pos ≤ s.source.size) {m : Match}
    (hm : (a pos).verdict = .success m) :
    Derives s.source s.lenientDiscard graph rule pos (some m) :=
  h pos hpos _ (outcome?_eq_some_some.mpr hm)

lemma Sound.failure (h : Sound s graph rule a) (hpos : pos ≤ s.source.size) {e : MatchError}
    (he : (a pos).verdict = .failure e) :
    Derives s.source s.lenientDiscard graph rule pos none :=
  h pos hpos _ (outcome?_eq_some_none.mpr ⟨e, he⟩)

lemma sequence_sound {parts : List Rule} {f : Rule → Nat → Trace Match}
    (h : ∀ part ∈ parts, Sound s graph part (f part)) (hpos : pos ≤ s.source.size)
    {outcome : Option Series} (houtcome : (sequence (parts.map f) pos).outcome? = some outcome) :
    DerivesAll s.source s.lenientDiscard graph parts pos outcome := by
  induction parts generalizing pos outcome with
  | nil =>
    obtain rfl : some {} = outcome := by simpa [sequence] using houtcome
    exact .nil
  | cons part rest ih =>
    rw [List.forall_mem_cons] at h
    obtain ⟨hpart, hrest⟩ := h
    rw [List.map_cons, sequence, outcome?_andThen] at houtcome
    rcases houtcome with ⟨m, hm, hr⟩ | ⟨e, he, hr⟩
    · have hd := hpart.success hpos hm
      rw [outcome?_map, Option.map_eq_some_iff] at hr
      obtain ⟨r, hr, rfl⟩ := hr
      have hds := ih hrest (hd.end_le hpos _ rfl) hr
      cases r with
      | none => exact .noTail hd hds
      | some matched => exact .cons hd hds
    · obtain rfl : none = outcome := by simpa using hr
      exact .noHead (hpart.failure hpos he)

/-- One more round than there are bytes left is enough: every round but the last consumes one. -/
lemma collect_sound (h : Sound s graph rule a) (hpos : pos ≤ s.source.size) {fuel : Nat}
    (hfuel : s.source.size - pos < fuel) {outcome : Option Series}
    (houtcome : (collect a fuel pos).outcome? = some outcome) :
    ∃ rounds, outcome = some rounds ∧
      Repeats s.source s.lenientDiscard graph rule pos rounds := by
  induction fuel generalizing pos outcome with
  | zero => omega
  | succ fuel ih =>
    rw [collect, outcome?_andThen] at houtcome
    rcases houtcome with ⟨m, hm, hr⟩ | ⟨e, he, hr⟩
    · have hd := h.success hpos hm
      have hend := hd.end_le hpos _ rfl
      split at hr
      · obtain rfl : some {} = outcome := by simpa using hr
        exact ⟨_, rfl, .empty hd ‹_›⟩
      · rw [outcome?_map, Option.map_eq_some_iff] at hr
        obtain ⟨r, hr, rfl⟩ := hr
        obtain ⟨rounds, rfl, hrounds⟩ := ih hend (by omega) hr
        exact ⟨_, rfl, .more hd (by omega) hrounds⟩
    · obtain rfl : some {} = outcome := by simpa using hr
      exact ⟨_, rfl, .fail (h.failure hpos he)⟩

end Trace

lemma Rule.traceWithin_sound (levels : Nat) (rule : Rule) :
    Trace.Sound s graph rule (rule.traceWithin s graph levels) := by
  induction levels, rule using Rule.inductionWithin with
  | literal levels name bytes =>
    intro pos hpos outcome h
    rw [traceWithin_literal, Trace.outcome?_visiting] at h
    by_cases hstarts : bytes <+: s.source.suffix pos
    · obtain rfl : some (.terminal name bytes) = outcome := by
        simpa [Source.matchLiteral?_eq_some hpos hstarts, Trace.terminal] using h
      exact .literal hstarts
    · obtain rfl : none = outcome := by
        simpa [Source.matchLiteral?_eq_none hstarts, Trace.terminal] using h
      exact .noLiteral hstarts
  | pattern levels name p =>
    intro pos hpos outcome h
    rw [traceWithin_pattern, Trace.outcome?_visiting, Source.matchPattern?_eq hpos] at h
    cases hp : p.matchLength? (.ofList (s.source.suffix pos)) with
    | some n =>
      obtain rfl : some (.terminal name _) = outcome := by simpa [hp, Trace.terminal] using h
      exact .pattern hp
    | none =>
      obtain rfl : none = outcome := by simpa [hp, Trace.terminal] using h
      exact .noPattern hp
  | reference levels name target link ih =>
    intro pos hpos outcome h
    rw [traceWithin_reference, Trace.outcome?_visiting] at h
    rcases link_cases graph link with ⟨key, rule, rfl, hkey⟩ | hlink
    · rw [Trace.reference_eq_inside hkey, Trace.outcome?_inside] at h
      cases levels with
      | zero => simp [followWithin] at h
      | succ left => exact .reference hkey (ih left (Nat.lt_succ_self left) rule pos hpos _ h)
    · obtain rfl : none = outcome := by simpa [Trace.reference_eq_failure hlink] using h
      exact .dangling hlink
  | concat levels name parts ih =>
    intro pos hpos outcome h
    rw [traceWithin_concat, Trace.outcome?_visiting, Trace.outcome?_map,
      Option.map_eq_some_iff] at h
    obtain ⟨r, hr, rfl⟩ := h
    have hds := Trace.sequence_sound ih hpos hr
    cases r with
    | none => exact .noConcat hds
    | some matched => exact .concat hds
  | plus levels name child ih =>
    intro pos hpos outcome h
    rw [traceWithin_plus, Trace.outcome?_visiting, Trace.plus, Trace.outcome?_andThen] at h
    rcases h with ⟨m, hm, hr⟩ | ⟨e, he, hr⟩
    · have hd := ih.success hpos hm
      split at hr
      · obtain rfl : some (.repeated name (m.before {})) = outcome := by simpa using hr
        exact .plusEmpty hd ‹_›
      · rw [Trace.outcome?_map, Option.map_eq_some_iff] at hr
        obtain ⟨r, hr, rfl⟩ := hr
        obtain ⟨rest, rfl, hrest⟩ :=
          Trace.collect_sound ih (hd.end_le hpos _ rfl) (Nat.lt_succ_self _) hr
        exact .plus hd (by omega) hrest
    · obtain rfl : none = outcome := by simpa using hr
      exact .noPlus (ih.failure hpos he)
  | star levels name child ih =>
    intro pos hpos outcome h
    rw [traceWithin_star, Trace.outcome?_visiting, Trace.star, Trace.outcome?_map,
      Option.map_eq_some_iff] at h
    obtain ⟨r, hr, rfl⟩ := h
    obtain ⟨rounds, rfl, hrounds⟩ := Trace.collect_sound ih hpos (Nat.lt_succ_self _) hr
    exact .star hrounds
  | optional levels name child ih =>
    intro pos hpos outcome h
    rw [traceWithin_optional, Trace.outcome?_visiting, Trace.optional, Trace.outcome?_andThen] at h
    rcases h with ⟨m, hm, hr⟩ | ⟨e, he, hr⟩
    · obtain rfl : some m = outcome := by simpa using hr
      exact .optional (ih.success hpos hm)
    · obtain rfl : some {} = outcome := by simpa using hr
      exact .noOptional (ih.failure hpos he)
  | alternate levels name left right ihl ihr =>
    intro pos hpos outcome h
    rw [traceWithin_alternate, Trace.outcome?_visiting] at h
    cases hleft : (left.traceWithin s graph levels pos).verdict with
    | success m =>
      obtain rfl : some m = outcome := by
        simpa [Trace.orElse, Trace.andThen_of_success hleft, Trace.outcome?] using h
      exact .left (ihl.success hpos hleft)
    | failure e =>
      rw [Trace.outcome?_orElse_of_failure (Trace.outcome?_eq_some_none.mpr ⟨e, hleft⟩)] at h
      exact .right (ihl.failure hpos hleft) (ihr pos hpos outcome h)
    | overflow e => simp [Trace.orElse, Trace.andThen_of_overflow hleft, Trace.outcome?] at h
  | discard levels name child ih =>
    intro pos hpos outcome h
    rw [traceWithin_discard, Trace.outcome?_visiting, Trace.discard, Trace.outcome?_andThen] at h
    rcases h with ⟨m, hm, hr⟩ | ⟨e, he, hr⟩
    · obtain rfl : some { length := m.length } = outcome := by simpa using hr
      exact .discard (ih.success hpos hm)
    · have hd := ih.failure hpos he
      split at hr
      · obtain rfl : some {} = outcome := by simpa using hr
        exact .lenientDiscard hd ‹_›
      · obtain rfl : none = outcome := by simpa using hr
        exact .noDiscard hd (Bool.eq_false_iff.mpr ‹_›)

/-! ### Completeness

Every derivation nests its references to some depth only. That many levels are enough, more change
nothing, and neither does the limit that an overflow would speak of. -/

mutual

lemma Derives.traced {rule : Rule} {pos : Nat} {outcome : Option Match}
    (h : Derives s.source s.lenientDiscard graph rule pos outcome) (hpos : pos ≤ s.source.size) :
    ∃ n, ∀ maxDepth, ∀ levels ≥ n,
      (rule.traceWithin { s with maxDepth } graph levels pos).outcome? = some outcome := by
  match h with
  | .literal h =>
    refine ⟨0, fun maxDepth levels _ => ?_⟩
    rw [Rule.traceWithin_literal, Source.matchLiteral?_eq_some hpos h]
    rfl
  | .noLiteral h =>
    refine ⟨0, fun maxDepth levels _ => ?_⟩
    rw [Rule.traceWithin_literal, Source.matchLiteral?_eq_none h]
    rfl
  | .pattern h | .noPattern h =>
    refine ⟨0, fun maxDepth levels _ => ?_⟩
    rw [Rule.traceWithin_pattern, Source.matchPattern?_eq hpos, h]
    rfl
  | .reference hkey h =>
    obtain ⟨n, hn⟩ := h.traced hpos
    refine ⟨n + 1, fun maxDepth levels hlevels => ?_⟩
    obtain ⟨left, rfl⟩ : ∃ left, levels = left + 1 := ⟨levels - 1, by omega⟩
    rw [Rule.traceWithin_reference, Trace.outcome?_visiting, Trace.reference_eq_inside hkey]
    exact hn maxDepth left (by omega)
  | .dangling hlink =>
    refine ⟨0, fun maxDepth levels _ => ?_⟩
    rw [Rule.traceWithin_reference, Trace.reference_eq_failure hlink]
    rfl
  | .concat h | .noConcat h =>
    obtain ⟨n, hn⟩ := h.traced hpos
    refine ⟨n, fun maxDepth levels hlevels => ?_⟩
    rw [Rule.traceWithin_concat, Trace.outcome?_visiting, Trace.outcome?_map,
      hn maxDepth levels hlevels]
    rfl
  | .plus h hlt hrest =>
    obtain ⟨n, hn⟩ := h.traced hpos
    obtain ⟨n', hn'⟩ := hrest.traced (h.end_le hpos _ rfl)
    refine ⟨max n n', fun maxDepth levels hlevels => ?_⟩
    rw [Rule.traceWithin_plus, Trace.outcome?_visiting, Trace.plus,
      Trace.outcome?_andThen_of_success (hn maxDepth levels (by omega)), if_neg (by omega),
      Trace.outcome?_map, hn' maxDepth levels (by omega) _ (Nat.lt_succ_self _)]
    rfl
  | .plusEmpty h hempty =>
    obtain ⟨n, hn⟩ := h.traced hpos
    refine ⟨n, fun maxDepth levels hlevels => ?_⟩
    rw [Rule.traceWithin_plus, Trace.outcome?_visiting, Trace.plus,
      Trace.outcome?_andThen_of_success (hn maxDepth levels hlevels), if_pos hempty]
    rfl
  | .noPlus h =>
    obtain ⟨n, hn⟩ := h.traced hpos
    refine ⟨n, fun maxDepth levels hlevels => ?_⟩
    rw [Rule.traceWithin_plus]
    exact Trace.outcome?_andThen_of_failure (hn maxDepth levels hlevels) fun _ => rfl
  | .star h =>
    obtain ⟨n, hn⟩ := h.traced hpos
    refine ⟨n, fun maxDepth levels hlevels => ?_⟩
    rw [Rule.traceWithin_star, Trace.outcome?_visiting, Trace.star, Trace.outcome?_map,
      hn maxDepth levels hlevels _ (Nat.lt_succ_self _)]
    rfl
  | .optional h =>
    obtain ⟨n, hn⟩ := h.traced hpos
    refine ⟨n, fun maxDepth levels hlevels => ?_⟩
    rw [Rule.traceWithin_optional]
    exact Trace.outcome?_andThen_of_success (hn maxDepth levels hlevels)
  | .noOptional h =>
    obtain ⟨n, hn⟩ := h.traced hpos
    refine ⟨n, fun maxDepth levels hlevels => ?_⟩
    rw [Rule.traceWithin_optional]
    exact Trace.outcome?_andThen_of_failure (hn maxDepth levels hlevels) fun _ => rfl
  | .left h =>
    obtain ⟨n, hn⟩ := h.traced hpos
    refine ⟨n, fun maxDepth levels hlevels => ?_⟩
    rw [Rule.traceWithin_alternate]
    exact Trace.outcome?_andThen_of_success (hn maxDepth levels hlevels)
  | .right h hright =>
    obtain ⟨n, hn⟩ := h.traced hpos
    obtain ⟨n', hn'⟩ := hright.traced hpos
    refine ⟨max n n', fun maxDepth levels hlevels => ?_⟩
    rw [Rule.traceWithin_alternate, Trace.outcome?_visiting,
      Trace.outcome?_orElse_of_failure (hn maxDepth levels (by omega))]
    exact hn' maxDepth levels (by omega)
  | .discard h =>
    obtain ⟨n, hn⟩ := h.traced hpos
    refine ⟨n, fun maxDepth levels hlevels => ?_⟩
    rw [Rule.traceWithin_discard]
    exact Trace.outcome?_andThen_of_success (hn maxDepth levels hlevels)
  | .lenientDiscard h hlenient | .noDiscard h hlenient =>
    obtain ⟨n, hn⟩ := h.traced hpos
    refine ⟨n, fun maxDepth levels hlevels => ?_⟩
    rw [Rule.traceWithin_discard]
    exact Trace.outcome?_andThen_of_failure (hn maxDepth levels hlevels) fun _ => by simp [hlenient]

lemma DerivesAll.traced {rules : List Rule} {pos : Nat} {outcome : Option Series}
    (h : DerivesAll s.source s.lenientDiscard graph rules pos outcome)
    (hpos : pos ≤ s.source.size) :
    ∃ n, ∀ maxDepth, ∀ levels ≥ n,
      (Trace.sequence
        (rules.map (Rule.traceWithin { s with maxDepth } graph levels)) pos).outcome? =
          some outcome := by
  match h with
  | .nil => exact ⟨0, fun _ _ _ => rfl⟩
  | .cons h hrest | .noTail h hrest =>
    obtain ⟨n, hn⟩ := h.traced hpos
    obtain ⟨n', hn'⟩ := hrest.traced (h.end_le hpos _ rfl)
    refine ⟨max n n', fun maxDepth levels hlevels => ?_⟩
    rw [List.map_cons, Trace.sequence,
      Trace.outcome?_andThen_of_success (hn maxDepth levels (by omega)), Trace.outcome?_map,
      hn' maxDepth levels (by omega)]
    rfl
  | .noHead h =>
    obtain ⟨n, hn⟩ := h.traced hpos
    refine ⟨n, fun maxDepth levels hlevels => ?_⟩
    rw [List.map_cons, Trace.sequence]
    exact Trace.outcome?_andThen_of_failure (hn maxDepth levels hlevels) fun _ => rfl

lemma Repeats.traced {rule : Rule} {pos : Nat} {rounds : Series}
    (h : Repeats s.source s.lenientDiscard graph rule pos rounds) (hpos : pos ≤ s.source.size) :
    ∃ n, ∀ maxDepth, ∀ levels ≥ n, ∀ fuel > s.source.size - pos,
      (Trace.collect (rule.traceWithin { s with maxDepth } graph levels) fuel pos).outcome? =
        some (some rounds) := by
  match h with
  | .fail h =>
    obtain ⟨n, hn⟩ := h.traced hpos
    refine ⟨n, fun maxDepth levels hlevels fuel hfuel => ?_⟩
    obtain ⟨fuel, rfl⟩ : ∃ k, fuel = k + 1 := ⟨fuel - 1, by omega⟩
    rw [Trace.collect]
    exact Trace.outcome?_andThen_of_failure (hn maxDepth levels hlevels) fun _ => rfl
  | .empty h hempty =>
    obtain ⟨n, hn⟩ := h.traced hpos
    refine ⟨n, fun maxDepth levels hlevels fuel hfuel => ?_⟩
    obtain ⟨fuel, rfl⟩ : ∃ k, fuel = k + 1 := ⟨fuel - 1, by omega⟩
    rw [Trace.collect, Trace.outcome?_andThen_of_success (hn maxDepth levels hlevels),
      if_pos hempty]
    rfl
  | .more h hlt hrest =>
    have hend := h.end_le hpos _ rfl
    obtain ⟨n, hn⟩ := h.traced hpos
    obtain ⟨n', hn'⟩ := hrest.traced hend
    refine ⟨max n n', fun maxDepth levels hlevels fuel hfuel => ?_⟩
    obtain ⟨fuel, rfl⟩ : ∃ k, fuel = k + 1 := ⟨fuel - 1, by omega⟩
    rw [Trace.collect, Trace.outcome?_andThen_of_success (hn maxDepth levels (by omega)),
      if_neg (by omega), Trace.outcome?_map, hn' maxDepth levels (by omega) fuel (by omega)]
    rfl

end

/-- The semantics derives one outcome at most. -/
lemma Derives.unique {source : Source} {lenient : Bool} {rule : Rule} {pos : Nat}
    {outcome outcome' : Option Match} (hpos : pos ≤ source.size)
    (h : Derives source lenient graph rule pos outcome)
    (h' : Derives source lenient graph rule pos outcome') : outcome = outcome' := by
  let s : Setup := { source, lenientDiscard := lenient }
  obtain ⟨n, hn⟩ := Derives.traced (s := s) h hpos
  obtain ⟨n', hn'⟩ := Derives.traced (s := s) h' hpos
  have hmax := hn 0 (max n n') (by omega)
  rw [hn' 0 (max n n') (by omega)] at hmax
  exact (Option.some.inj hmax).symm

end Peg
