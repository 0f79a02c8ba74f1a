import Peg.Proofs.Grammar.Linking
import Peg.Proofs.Match.Failures
import Peg.Proofs.Match.Visits

/-!
# The error that a grammar reports

When no reference is nested too deeply, a grammar that does not match an input reports exactly the
furthest of all failures on the way.
-/

namespace Peg

namespace Grammar

variable {rules : List Rule} {options : Options} {g : Grammar}

/-- Whatever a match of a rule of the grammar visits is contained in a rule of the grammar. -/
lemma exists_contains_of_mem_visits {cx : Context} {rule : Rule} (hrule : rule ∈ g.rules)
    {pos : Nat} (hpos : pos ≤ cx.source.size) {v : Visit}
    (hv : v ∈ (cx.trace g.graph rule pos).visits) :
    ∃ root ∈ g.rules, root.Contains v.rule := by
  have hreaches := Rule.reaches_of_mem_traceWithin _ rule pos hpos v hv
  rcases hreaches.contains hpos with hcontains | ⟨key, root, hkey, hcontains⟩
  · exact ⟨rule, hrule, hcontains⟩
  · exact ⟨root, (Definitions.mem_of_find? hkey).1, hcontains⟩

/-- References of an accepted grammar lead somewhere, so nothing but terminals fails by itself. -/
lemma Accepted.isTerminal_of_mem_failures (h : Accepted rules options g)
    (hunlinked : ∀ r ∈ rules, r.Unlinked) {rule : Rule} (hrule : rule ∈ g.rules) (source : Source) :
    ∀ v ∈ (g.context source).failures g.graph rule 0, v.rule.isTerminal = true := by
  intro v hv
  obtain ⟨hvisit, hfails⟩ := List.mem_filter.mp hv
  obtain ⟨root, hroot, hcontains⟩ := exists_contains_of_mem_visits hrule (Nat.zero_le _) hvisit
  cases hv : v.rule with
  | literal | pattern => rfl
  | reference name target link =>
    rw [hv] at hcontains
    obtain ⟨rfl, targetRule, htarget⟩ := h.exists_target hunlinked hroot hcontains
    simp [Visit.fails, hv, htarget] at hfails
  | _ => simp [Visit.fails, hv] at hfails

/-- A match that fails without an overflow is reported by the error that the trail leaves. -/
lemma exists_report {rule : Rule} {source : Source} {bubbled : MatchError}
    (hfails : ((g.context source).matchAt g.graph rule 0).1 = .error bubbled)
    (hoverflow : ((g.context source).matchAt g.graph rule 0).2.overflow = none) :
    ∃ e, ((g.context source).matchAt g.graph rule 0).2.toReport = some e ∧
      g.run rule source = .error e ∧
      e.Reports (g.context source).toSetup ((g.context source).failures g.graph rule 0) ∧
      bubbled.StemsFrom ((g.context source).failures g.graph rule 0) := by
  obtain ⟨e, he, hreports, hstems⟩ := Context.reports_of_matchAt_error rfl rfl hfails hoverflow
  have hreport : ((g.context source).matchAt g.graph rule 0).2.toReport = some e := by
    rw [Context.toReport, hoverflow, he]
    rfl
  refine ⟨e, hreport, ?_, hreports, hstems⟩
  simp only [run, hoverflow, hfails, hreport, Option.getD_some]

/-- The errors of a match without an overflow report its failures. -/
lemma reports_of_run {rule : Rule} {source : Source} {e : MatchError}
    (hoverflow : ((g.context source).matchAt g.graph rule 0).2.overflow = none)
    (h : g.run rule source = .error e) :
    e.Reports (g.context source).toSetup ((g.context source).failures g.graph rule 0) := by
  cases hresult : ((g.context source).matchAt g.graph rule 0).1 with
  | ok m => simp [run, hoverflow, hresult] at h
  | error bubbled =>
    obtain ⟨e', -, hrun, hreports, -⟩ := exists_report hresult hoverflow
    obtain rfl := Except.error.inj (hrun.symm.trans h)
    exact hreports

/-- All ways to match a rule fail with the same error. -/
lemma run_eq_error {rule : Rule} {source : Source} {e : MatchError}
    (hname : g.rule? rule.name = some rule)
    (h : g.run rule source = .error e ∨ g.parseRule rule.name source = .error (.mismatch e) ∨
      rule = g.root ∧ (g.matchPrefix source = .error e ∨ g.parse source = .error e)) :
    g.run rule source = .error e := by
  rcases h with h | h | ⟨rfl, h | h⟩
  · exact h
  · rw [parseRule, hname] at h
    cases hrun : g.run rule source <;> simp [hrun] at h
    rw [h]
  · exact h
  · cases hrun : g.run g.root source with
    | ok m => simp [parse, matchPrefix, hrun, Except.map] at h
    | error e' => simpa [parse, matchPrefix, hrun, Except.map] using h

/-- A match that fails without an overflow is reported as the furthest of its failures: at the last
position where a literal or a pattern found nothing, with what these expected there. The error of
the match itself says no more than that. References that were linked to nothing before count as
failures as well. -/
theorem reports_furthest (h : (ofDefinitions rules options).1 = .ok g) {rule : Rule}
    (hrule : rule = g.root ∨ rule ∈ g.rules) {source : Source} {bubbled : MatchError}
    (hfails : ((g.context source).matchAt g.graph rule 0).1 = .error bubbled)
    (hoverflow : ((g.context source).matchAt g.graph rule 0).2.overflow = none) :
    ∃ e,
      (g.run rule source = .error e ∧ g.parseRule rule.name source = .error (.mismatch e) ∧
        (rule = g.root → g.matchPrefix source = .error e ∧ g.parse source = .error e)) ∧
      ((g.context source).matchAt g.graph rule 0).2.toReport = some e ∧
      (g.context source).failures g.graph rule 0 ≠ [] ∧
      ((∀ r ∈ rules, r.Unlinked) →
        ∀ v ∈ (g.context source).failures g.graph rule 0, v.rule.isTerminal = true) ∧
      e.Reports (g.context source).toSetup ((g.context source).failures g.graph rule 0) ∧
      e.position ≤ source.size ∧
      bubbled.position ≤ e.position ∧
      (bubbled.position = e.position → bubbled.expected ⊆ e.expected) := by
  have haccepted := accepted_of_ofDefinitions h
  have hrule : rule ∈ g.rules := by
    rcases hrule with rfl | hrule
    · exact haccepted.root_mem
    · exact hrule
  obtain ⟨e, hreport, hrun, hreports, hstems⟩ := exists_report hfails hoverflow
  obtain ⟨v, hv, hpos⟩ := hreports.mem
  have hvisit := (List.mem_filter.mp hv).1
  refine ⟨e, ⟨hrun, ?_, ?_⟩, hreport, List.ne_nil_of_mem hv, ?_, hreports, ?_, ?_⟩
  · rw [parseRule, haccepted.rule?_name hrule]
    simp only [hrun]
  · rintro rfl
    have hmatch : g.matchPrefix source = .error e := hrun
    exact ⟨hmatch, by rw [parse, hmatch]; rfl⟩
  · intro hunlinked
    exact haccepted.isTerminal_of_mem_failures hunlinked hrule source
  · rw [← hpos]
    exact (Rule.reaches_of_mem_traceWithin _ rule 0 (Nat.zero_le _) v hvisit).pos_le (Nat.zero_le _)
  · exact hreports.covers hstems

/-- A failure inside of a repetition is reported, although the repetition matched. -/
theorem reports_furthest_absorbed :
    let a : Rule := .literal "'a'" [97]
    let rules : List Rule := [.alternate "s"
      (.concat "s" [.star "'a'*" a, .literal "'b'" [98]]) (.concat "s" [a, .literal "'c'" [99]])]
    let source : Source := .ofBytes [97, 97, 100]
    ∃ g, (ofDefinitions rules {}).1 = .ok g ∧
      ((g.context source).matchAt g.graph g.root 0).2.overflow = none ∧
      ((g.context source).matchAt g.graph g.root 0).1 = .error ⟨2, ["'b'"], "d"⟩ ∧
      g.parse source = .error ⟨2, ["'a'", "'b'"], "d"⟩ := by
  intro a rules source
  refine ⟨_, rfl, rfl, rfl, ?_⟩
  obtain ⟨e, ⟨-, -, hroot⟩, hreport, -⟩ :=
    @reports_furthest rules {} _ rfl _ (Or.inl rfl) source _ rfl rfl
  obtain rfl : e = ⟨2, ["'a'", "'b'"], "d"⟩ := Option.some.inj (hreport.symm.trans rfl)
  exact (hroot rfl).2

end Grammar

end Peg
