import Peg.Proofs.Match.Failures
import Peg.Proofs.Match.Leaves

/-!
# What errors can expect

All that a match does, it does with rules that the rule leads to. So an error expects nothing but
what terminals among these do, that references lead somewhere which do not, or that references are
nested less deeply.
-/

namespace Peg

/-! ### Expectations of attempts -/

/-- Everything that the error expects is of this kind. -/
def MatchError.Expects (P : String → Prop) (e : MatchError) : Prop := ∀ x ∈ e.expected, P x

/-- Everything that the errors of the trail expect is of this kind. -/
structure Trail.Expects (P : String → Prop) (t : Trail) : Prop where
  furthest : ∀ e ∈ t.furthest, e.Expects P
  overflow : ∀ e ∈ t.overflow, e.Expects P

/-- Everything that the errors of the outcome expect is of this kind. -/
inductive Outcome.Expects (P : String → Prop) : Outcome → Prop where
  | success {m : Match} {t : Trail} (ht : t.Expects P) : Expects P (.ok m, t)
  | failure {e : MatchError} {t : Trail} (he : e.Expects P) (ht : t.Expects P) :
      Expects P (.error e, t)

/-- The attempt adds only expectations of this kind to those that it finds in the trail. -/
def Attempt.Expects (P : String → Prop) (a : Attempt) : Prop :=
  ∀ pos t, t.Expects P → Outcome.Expects P (a pos t)

variable {P : String → Prop} {s : Setup} {a b : Attempt}

lemma MatchError.Expects.furthest {e e' : MatchError} (h : e.Expects P) (h' : e'.Expects P) :
    (e.furthest e').Expects P := by
  rw [MatchError.furthest]
  split
  · exact h'
  split
  · exact h
  · intro x hx
    rcases mem_addExpected_iff.mp hx with hx | hx
    · exact h x hx
    · exact h' x hx

namespace Attempt

lemma expects_fail {expected : String} (h : P expected) : Expects P (s.fail expected) := by
  intro pos t ht
  have herror : (s.errorAt pos expected).Expects P := by simpa [MatchError.Expects] using h
  refine .failure herror ⟨?_, ht.overflow⟩
  rintro _ ⟨⟩
  cases hfurthest : t.furthest with
  | none => simpa [hfurthest] using herror
  | some e => simpa [hfurthest] using (ht.furthest e hfurthest).furthest herror

lemma expects_overflow (h : P s!"nesting depth within {s.maxDepth}") : Expects P s.overflow := by
  intro pos t ht
  have herror : (s.errorAt pos s!"nesting depth within {s.maxDepth}").Expects P := by
    simpa [MatchError.Expects] using h
  refine .failure herror ⟨ht.furthest, ?_⟩
  rintro _ ⟨⟩
  exact herror

lemma expects_terminal {name expected : String} (h : P expected)
    (find? : Nat → Option (List UInt8)) : Expects P (terminal s name expected find?) := by
  intro pos t ht
  rw [terminal]
  split
  · exact .success ht
  · exact expects_fail h pos t ht

namespace Expects

/-- What the attempt comes to. -/
lemma cases (h : a.Expects P) (pos : Nat) {t : Trail} (ht : t.Expects P) :
    (∃ m next, a pos t = (.ok m, next) ∧ next.Expects P) ∨
      ∃ e next, a pos t = (.error e, next) ∧ e.Expects P ∧ next.Expects P := by
  have houtcome := h pos t ht
  generalize a pos t = outcome at houtcome ⊢
  cases houtcome with
  | success hnext => exact Or.inl ⟨_, _, rfl, hnext⟩
  | failure he hnext => exact Or.inr ⟨_, _, rfl, he, hnext⟩

lemma unlessOverflown (h : a.Expects P) : a.unlessOverflown.Expects P := by
  intro pos t ht
  rw [Attempt.unlessOverflown]
  split
  · rename_i e he
    exact .failure (ht.overflow e he) ht
  · exact h pos t ht

lemma optional (h : a.Expects P) : (Attempt.optional a).Expects P := by
  intro pos t ht
  rw [Attempt.optional]
  rcases h.cases pos ht with ⟨m, next, ha, hnext⟩ | ⟨e, next, ha, -, hnext⟩
  · rw [ha]
    exact .success hnext
  · rw [ha]
    exact .success hnext

lemma orElse (h : a.Expects P) (hb : b.Expects P) : (Attempt.orElse a b).Expects P := by
  intro pos t ht
  rw [Attempt.orElse]
  rcases h.cases pos ht with ⟨m, next, ha, hnext⟩ | ⟨e, next, ha, he, hnext⟩
  · rw [ha]
    exact .success hnext
  · rw [ha]
    rcases hb.cases pos hnext with ⟨m, last, hb, hlast⟩ | ⟨e', last, hb, he', hlast⟩
    · simp only [hb]
      exact .success hlast
    · simp only [hb]
      exact .failure (he.furthest he') hlast

lemma discard (h : a.Expects P) : (Attempt.discard s a).Expects P := by
  intro pos t ht
  rw [Attempt.discard]
  rcases h.cases pos ht with ⟨m, next, ha, hnext⟩ | ⟨e, next, ha, he, hnext⟩
  · rw [ha]
    exact .success hnext
  · rw [ha]
    simp only
    split
    · exact .success hnext
    · exact .failure he hnext

lemma sequence {as : List Attempt} (has : ∀ a ∈ as, a.Expects P) (name : String) :
    (Attempt.sequence name as).Expects P := by
  have hfrom : ∀ start built length (t : Trail), t.Expects P →
      Outcome.Expects P (sequenceFrom name start as built length t) := by
    induction as with
    | nil => exact fun start built length t ht => .success ht
    | cons a rest ih =>
      intro start built length t ht
      rw [List.forall_mem_cons] at has
      rw [sequenceFrom]
      rcases has.1.cases (start + length) ht with ⟨m, next, ha, hnext⟩ | ⟨e, next, ha, he, hnext⟩
      · rw [ha]
        exact ih has.2 start _ _ next hnext
      · rw [ha]
        exact .failure he hnext
  exact fun pos t ht => hfrom pos [] 0 t ht

lemma collect (h : a.Expects P) (fuel pos : Nat) (built : List ParseTree) {t : Trail}
    (ht : t.Expects P) : (Attempt.collect a fuel pos built t).2.Expects P := by
  induction fuel generalizing pos built t with
  | zero => exact ht
  | succ fuel ih =>
    rw [Attempt.collect]
    rcases h.cases pos ht with ⟨m, next, ha, hnext⟩ | ⟨e, next, ha, -, hnext⟩
    · rw [ha]
      simp only
      split
      · exact hnext
      · exact ih _ _ hnext
    · rw [ha]
      exact hnext

lemma collectFrom (h : a.Expects P) (name : String) (start pos : Nat) (built : List ParseTree)
    {t : Trail} (ht : t.Expects P) :
    Outcome.Expects P (Attempt.collectFrom s name a start pos built t) := by
  rw [Attempt.collectFrom]
  exact .success (h.collect (s.source.size - pos + 1) pos built ht)

lemma star (h : a.Expects P) (name : String) : (Attempt.star s name a).Expects P :=
  fun pos _ ht => h.collectFrom name pos pos [] ht

lemma plus (h : a.Expects P) (name : String) : (Attempt.plus s name a).Expects P := by
  intro pos t ht
  rw [Attempt.plus]
  rcases h.cases pos ht with ⟨m, next, ha, hnext⟩ | ⟨e, next, ha, he, hnext⟩
  · rw [ha]
    simp only
    split
    · exact .success hnext
    · exact h.collectFrom name pos _ _ hnext
  · rw [ha]
    exact .failure he hnext

end Expects

end Attempt

/-! ### Expectations of rules -/

namespace Rule

variable {graph : RuleGraph}

/-- The rules that the rule leads to expect things of this kind only. -/
structure Expects (P : String → Prop) (graph : RuleGraph) (rule : Rule) : Prop where
  terminal : ∀ inner, rule.LeadsTo graph inner → inner.isTerminal = true → P inner.expectation
  reference : ∀ name target link, rule.LeadsTo graph (.reference name target link) →
    link.bind graph = none → P s!"resolved rule `{target}`"

lemma Expects.of_part {rule part : Rule} (h : rule.Expects P graph)
    (hpart : part ∈ rule.dependencies) : part.Expects P graph where
  terminal inner hleads := h.terminal inner (.head (Or.inl hpart) hleads)
  reference name target link hleads :=
    h.reference name target link (.head (Or.inl hpart) hleads)

lemma Expects.of_link {name target key : String} {rule : Rule}
    (h : (Rule.reference name target (some key)).Expects P graph) (hkey : graph key = some rule) :
    rule.Expects P graph where
  terminal inner hleads := h.terminal inner (.head (Or.inr ⟨name, target, key, rfl, hkey⟩) hleads)
  reference name' target' link hleads :=
    h.reference name' target' link (.head (Or.inr ⟨name, target, key, rfl, hkey⟩) hleads)

/-- Whatever an attempt adds to the trail, and whatever it fails with, expects what the rules that
the rule leads to expect. -/
theorem attemptWithin_expects (hdepth : P s!"nesting depth within {s.maxDepth}") (levels : Nat)
    (rule : Rule) : rule.Expects P graph → (rule.attemptWithin s graph levels).Expects P := by
  induction levels, rule using Rule.inductionWithin with
  | literal levels name bytes =>
    intro h
    rw [attemptWithin_eq_attempt]
    exact (Attempt.expects_terminal (h.terminal _ .refl rfl) _).unlessOverflown
  | pattern levels name p =>
    intro h
    rw [attemptWithin_eq_attempt]
    exact (Attempt.expects_terminal (h.terminal _ .refl rfl) _).unlessOverflown
  | reference levels name target link ih =>
    intro h
    rw [attemptWithin_eq_attempt]
    refine Attempt.Expects.unlessOverflown fun pos t ht => ?_
    rcases link_cases graph link with ⟨key, rule, rfl, hkey⟩ | hlink
    · cases levels with
      | zero => simpa [enterWithin, hkey] using Attempt.expects_overflow hdepth pos t ht
      | succ left =>
        have hrule := ih left (Nat.lt_succ_self left) rule (h.of_link hkey)
        simpa [enterWithin, hkey] using hrule pos t ht
    · rw [bind_enterWithin_eq_none hlink]
      exact Attempt.expects_fail (h.reference name target link .refl hlink) pos t ht
  | concat levels name parts ih =>
    intro h
    rw [attemptWithin_eq_attempt]
    refine (Attempt.Expects.sequence ?_ name).unlessOverflown
    rw [attempts_eq_map, ← attemptWithin_eq_attempt, List.forall_mem_map]
    exact fun part hpart => ih part hpart (h.of_part hpart)
  | plus levels name child ih =>
    intro h
    have hchild := ih (h.of_part (by simp [dependencies]))
    rw [attemptWithin_eq_attempt] at hchild ⊢
    exact (hchild.plus name).unlessOverflown
  | star levels name child ih =>
    intro h
    have hchild := ih (h.of_part (by simp [dependencies]))
    rw [attemptWithin_eq_attempt] at hchild ⊢
    exact (hchild.star name).unlessOverflown
  | optional levels name child ih =>
    intro h
    have hchild := ih (h.of_part (by simp [dependencies]))
    rw [attemptWithin_eq_attempt] at hchild ⊢
    exact hchild.optional.unlessOverflown
  | alternate levels name left right ihl ihr =>
    intro h
    have hleft := ihl (h.of_part (by simp [dependencies]))
    have hright := ihr (h.of_part (by simp [dependencies]))
    rw [attemptWithin_eq_attempt] at hleft hright ⊢
    exact (hleft.orElse hright).unlessOverflown
  | discard levels name child ih =>
    intro h
    have hchild := ih (h.of_part (by simp [dependencies]))
    rw [attemptWithin_eq_attempt] at hchild ⊢
    exact hchild.discard.unlessOverflown

end Rule

end Peg
