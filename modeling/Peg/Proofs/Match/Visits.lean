import Peg.Proofs.Match.Adequacy

/-!
# What an attempt visits

A rule tries the rules it is built from where the ones before them stopped, and a reference tries
its target where it stands. `Reaches` is the closure of both: an attempt visits nothing else.
-/

namespace Peg

/-- The parts that an attempt of a rule may try, and where. -/
inductive Tries (source : Source) (lenient : Bool) (graph : RuleGraph) :
    Rule → Nat → Rule → Nat → Prop where
  | part {name : String} {before after : List Rule} {part : Rule} {pos : Nat} {matched : Series}
      (h : DerivesAll source lenient graph before pos (some matched)) :
      Tries source lenient graph (.concat name (before ++ part :: after)) pos part
        (pos + matched.length)
  | plus {name : String} {child : Rule} {pos next : Nat} (h : pos ≤ next)
      (hsize : next ≤ source.size) : Tries source lenient graph (.plus name child) pos child next
  | star {name : String} {child : Rule} {pos next : Nat} (h : pos ≤ next)
      (hsize : next ≤ source.size) : Tries source lenient graph (.star name child) pos child next
  | optional {name : String} {child : Rule} {pos : Nat} :
      Tries source lenient graph (.optional name child) pos child pos
  | left {name : String} {left right : Rule} {pos : Nat} :
      Tries source lenient graph (.alternate name left right) pos left pos
  | right {name : String} {left right : Rule} {pos : Nat} :
      Tries source lenient graph (.alternate name left right) pos right pos
  | discard {name : String} {child : Rule} {pos : Nat} :
      Tries source lenient graph (.discard name child) pos child pos

/-- The visits that an attempt of a rule at a position may come to. -/
inductive Reaches (source : Source) (lenient : Bool) (graph : RuleGraph) :
    Rule → Nat → Visit → Prop where
  | here {rule : Rule} {pos : Nat} : Reaches source lenient graph rule pos { rule, pos }
  | tries {rule child : Rule} {pos next : Nat} {v : Visit}
      (h : Tries source lenient graph rule pos child next)
      (hv : Reaches source lenient graph child next v) : Reaches source lenient graph rule pos v
  | follows {name target key : String} {rule : Rule} {pos : Nat} {v : Visit}
      (h : graph key = some rule) (hv : Reaches source lenient graph rule pos v) :
      Reaches source lenient graph (.reference name target (some key)) pos
        { v with chain := (key, pos) :: v.chain }

variable {source : Source} {lenient : Bool} {graph : RuleGraph}

/-- Parts are parts of the rule, and are tried at a later position of the input or at the same. -/
lemma Tries.bounds {rule child : Rule} {pos next : Nat} (hpos : pos ≤ source.size)
    (h : Tries source lenient graph rule pos child next) :
    child ∈ rule.dependencies ∧ pos ≤ next ∧ next ≤ source.size := by
  cases h with
  | part h =>
    have := h.end_le hpos _ rfl
    exact ⟨by simp [Rule.dependencies], by omega, by omega⟩
  | plus h hsize | star h hsize => exact ⟨by simp [Rule.dependencies], h, hsize⟩
  | optional | left | right | discard => exact ⟨by simp [Rule.dependencies], Nat.le_refl _, hpos⟩

lemma Reaches.pos_le {rule : Rule} {pos : Nat} {v : Visit}
    (h : Reaches source lenient graph rule pos v) (hpos : pos ≤ source.size) :
    v.pos ≤ source.size := by
  induction h with
  | here => exact hpos
  | tries h _ ih => exact ih (h.bounds hpos).2.2
  | follows _ _ ih => exact ih hpos

/-- What is visited is a part of the rule or of a rule of the graph. -/
lemma Reaches.contains {rule : Rule} {pos : Nat} {v : Visit}
    (h : Reaches source lenient graph rule pos v) (hpos : pos ≤ source.size) :
    rule.Contains v.rule ∨ ∃ key root, graph key = some root ∧ root.Contains v.rule := by
  induction h with
  | here => exact Or.inl .refl
  | tries h _ ih =>
    obtain ⟨hpart, -, hnext⟩ := h.bounds hpos
    exact (ih hnext).imp_left (Rule.Contains.of_part hpart)
  | follows h _ ih =>
    rcases ih hpos with hrule | hroot
    · exact Or.inr ⟨_, _, h, hrule⟩
    · exact Or.inr hroot

namespace Trace

variable {α β : Type} {t : Trace α} {f : α → Trace β} {g : MatchError → Trace β} {v : Visit}

lemma mem_visits_andThen (h : v ∈ (t.andThen f g).visits) :
    v ∈ t.visits ∨ (∃ a, t.verdict = .success a ∧ v ∈ (f a).visits) ∨
      ∃ e, t.verdict = .failure e ∧ v ∈ (g e).visits := by
  cases ht : t.verdict with
  | success a =>
    rw [andThen_of_success ht, List.mem_append] at h
    exact h.imp_right fun h => Or.inl ⟨a, rfl, h⟩
  | failure e =>
    rw [andThen_of_failure ht, List.mem_append] at h
    exact h.imp_right fun h => Or.inr ⟨e, rfl, h⟩
  | overflow e =>
    rw [andThen_of_overflow ht] at h
    exact Or.inl h

@[simp] lemma visits_success (a : α) : (success a).visits = [] := rfl

@[simp] lemma visits_failure (e : MatchError) : (failure e : Trace α).visits = [] := rfl

@[simp] lemma visits_overflow (e : MatchError) : (overflow e : Trace α).visits = [] := rfl

@[simp] lemma visits_map (k : α → β) : (t.map k).visits = t.visits := by
  cases h : t.verdict with
  | success a => simp [map, andThen_of_success h]
  | failure e => simp [map, andThen_of_failure h]
  | overflow e => simp [map, andThen_of_overflow h]

variable {s : Setup} {rule : Rule} {a : Nat → Trace Match} {pos : Nat}

lemma mem_visits_sequence {parts : List Rule} {f : Rule → Nat → Trace Match}
    (h : ∀ part ∈ parts, Sound s graph part (f part)) (hpos : pos ≤ s.source.size)
    (hv : v ∈ (sequence (parts.map f) pos).visits) :
    ∃ before part after matched, parts = before ++ part :: after ∧
      DerivesAll s.source s.lenientDiscard graph before pos (some matched) ∧
        v ∈ (f part (pos + matched.length)).visits := by
  induction parts generalizing pos with
  | nil => simp [sequence] at hv
  | cons head rest ih =>
    rw [List.forall_mem_cons] at h
    obtain ⟨hhead, hrest⟩ := h
    rw [List.map_cons, sequence] at hv
    rcases mem_visits_andThen hv with hv | ⟨m, hm, hv⟩ | ⟨e, he, hv⟩
    · exact ⟨[], head, rest, {}, rfl, .nil, hv⟩
    · have hd := hhead.success hpos hm
      rw [visits_map] at hv
      obtain ⟨before, part, after, matched, rfl, hds, hv⟩ := ih hrest (hd.end_le hpos _ rfl) hv
      refine ⟨head :: before, part, after, _, rfl, .cons hd hds, ?_⟩
      rwa [Match.length_before, ← Nat.add_assoc]
    · simp at hv

lemma mem_visits_collect (h : Sound s graph rule a) (hpos : pos ≤ s.source.size) {fuel : Nat}
    (hv : v ∈ (collect a fuel pos).visits) :
    ∃ next, pos ≤ next ∧ next ≤ s.source.size ∧ v ∈ (a next).visits := by
  induction fuel generalizing pos with
  | zero => simp [collect] at hv
  | succ fuel ih =>
    rw [collect] at hv
    rcases mem_visits_andThen hv with hv | ⟨m, hm, hv⟩ | ⟨e, he, hv⟩
    · exact ⟨pos, Nat.le_refl pos, hpos, hv⟩
    · have hend := (h.success hpos hm).end_le hpos _ rfl
      split at hv
      · simp at hv
      · rw [visits_map] at hv
        obtain ⟨next, hle, hnext, hv⟩ := ih hend hv
        exact ⟨next, by omega, hnext, hv⟩
    · simp at hv

end Trace

/-- The first visit is the one of the rule itself. -/
lemma Reaches.of_visiting {rule : Rule} {pos : Nat} {t : Trace Match} {v : Visit}
    (hv : v ∈ (t.visiting rule pos).visits)
    (h : v ∈ t.visits → Reaches source lenient graph rule pos v) :
    Reaches source lenient graph rule pos v := by
  rcases List.mem_cons.mp hv with rfl | hv
  · exact .here
  · exact h hv

/-- Every visit of a trace is one that the rule may come to. -/
theorem Rule.reaches_of_mem_traceWithin {s : Setup} (levels : Nat) (rule : Rule) :
    ∀ pos ≤ s.source.size, ∀ v ∈ (rule.traceWithin s graph levels pos).visits,
      Reaches s.source s.lenientDiscard graph rule pos v := by
  induction levels, rule using Rule.inductionWithin with
  | literal levels name bytes =>
    intro pos hpos v hv
    rw [traceWithin_literal] at hv
    refine .of_visiting hv fun hv => ?_
    cases hfind : s.source.matchLiteral? bytes pos <;> simp [hfind, Trace.terminal] at hv
  | pattern levels name p =>
    intro pos hpos v hv
    rw [traceWithin_pattern] at hv
    refine .of_visiting hv fun hv => ?_
    cases hfind : s.source.matchPattern? p pos <;> simp [hfind, Trace.terminal] at hv
  | reference levels name target link ih =>
    intro pos hpos v hv
    rw [traceWithin_reference] at hv
    refine .of_visiting hv fun hv => ?_
    rcases link_cases graph link with ⟨key, rule, rfl, hkey⟩ | hlink
    · rw [Trace.reference_eq_inside hkey] at hv
      obtain ⟨inner, hinner, rfl⟩ := List.mem_map.mp hv
      cases levels with
      | zero => simp [followWithin] at hinner
      | succ left =>
        exact .follows hkey (ih left (Nat.lt_succ_self left) rule pos hpos inner hinner)
    · simp [Trace.reference_eq_failure hlink] at hv
  | concat levels name parts ih =>
    intro pos hpos v hv
    rw [traceWithin_concat] at hv
    refine .of_visiting hv fun hv => ?_
    rw [Trace.visits_map] at hv
    obtain ⟨before, part, after, matched, rfl, hds, hv⟩ :=
      Trace.mem_visits_sequence (fun part _ => traceWithin_sound levels part) hpos hv
    have hnext := hds.end_le hpos _ rfl
    exact .tries (.part hds) (ih part (by simp) _ hnext v hv)
  | plus levels name child ih =>
    intro pos hpos v hv
    rw [traceWithin_plus] at hv
    refine .of_visiting hv fun hv => ?_
    rcases Trace.mem_visits_andThen hv with hv | ⟨m, hm, hv⟩ | ⟨e, he, hv⟩
    · exact .tries (.plus (Nat.le_refl pos) hpos) (ih pos hpos v hv)
    · split at hv
      · simp at hv
      · have hend := ((traceWithin_sound levels child).success hpos hm).end_le hpos _ rfl
        rw [Trace.visits_map] at hv
        obtain ⟨next, hle, hnext, hv⟩ :=
          Trace.mem_visits_collect (traceWithin_sound levels child) hend hv
        exact .tries (.plus (by omega) hnext) (ih next hnext v hv)
    · simp at hv
  | star levels name child ih =>
    intro pos hpos v hv
    rw [traceWithin_star] at hv
    refine .of_visiting hv fun hv => ?_
    rw [Trace.star, Trace.visits_map] at hv
    obtain ⟨next, hle, hnext, hv⟩ :=
      Trace.mem_visits_collect (traceWithin_sound levels child) hpos hv
    exact .tries (.star hle hnext) (ih next hnext v hv)
  | optional levels name child ih =>
    intro pos hpos v hv
    rw [traceWithin_optional] at hv
    refine .of_visiting hv fun hv => ?_
    rcases Trace.mem_visits_andThen hv with hv | ⟨m, hm, hv⟩ | ⟨e, he, hv⟩
    · exact .tries .optional (ih pos hpos v hv)
    · simp at hv
    · simp at hv
  | alternate levels name left right ihl ihr =>
    intro pos hpos v hv
    rw [traceWithin_alternate] at hv
    refine .of_visiting hv fun hv => ?_
    rcases Trace.mem_visits_andThen hv with hv | ⟨m, hm, hv⟩ | ⟨e, he, hv⟩
    · exact .tries .left (ihl pos hpos v hv)
    · simp at hv
    · rcases Trace.mem_visits_andThen hv with hv | ⟨m, hm, hv⟩ | ⟨e', he', hv⟩
      · exact .tries .right (ihr pos hpos v hv)
      · simp at hv
      · simp at hv
  | discard levels name child ih =>
    intro pos hpos v hv
    rw [traceWithin_discard] at hv
    refine .of_visiting hv fun hv => ?_
    rcases Trace.mem_visits_andThen hv with hv | ⟨m, hm, hv⟩ | ⟨e, he, hv⟩
    · exact .tries .discard (ih pos hpos v hv)
    · simp at hv
    · split at hv <;> simp at hv

end Peg
