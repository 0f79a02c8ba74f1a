import Peg.Proofs.Match.History
import Peg.Proofs.Match.Simulation
import Peg.Proofs.Source

/-!
# Matching does not look back

Nothing that a rule does at a position depends on the bytes before it. So a match further into the
input is a match at the start of the rest of the input, with all positions moved.
-/

namespace Peg

/-! ### The rest of the input -/

/-- The bytes from the position on, as an input of its own. -/
def Source.rest (s : Source) (pos : Nat) : Source := .ofBytes (s.suffix pos)

namespace Source

variable {s s' : Source} {n : Nat}

/-- The second input is the first one behind so many other bytes. -/
structure Behind (n : Nat) (s s' : Source) : Prop where
  le_size : n ≤ s'.size
  suffix : s'.suffix n = s.suffix 0

lemma behind_rest {pos : Nat} (hpos : pos ≤ s.size) : (s.rest pos).Behind pos s where
  le_size := hpos
  suffix := by simp [rest, ofBytes, Source.suffix]

namespace Behind

lemma suffix_add (h : s.Behind n s') (pos : Nat) : s'.suffix (pos + n) = s.suffix pos := by
  rw [Nat.add_comm, Source.suffix_add, h.suffix, ← Source.suffix_add, Nat.zero_add]

lemma size_eq (h : s.Behind n s') : s'.size = s.size + n := by
  have hlength := congrArg List.length h.suffix
  have hle := h.le_size
  rw [length_suffix, length_suffix] at hlength
  omega

lemma le_size_iff (h : s.Behind n s') (pos : Nat) : pos + n ≤ s'.size ↔ pos ≤ s.size := by
  rw [h.size_eq]
  omega

lemma matchLiteral?_eq (h : s.Behind n s') (bytes : List UInt8) (pos : Nat) :
    s'.matchLiteral? bytes (pos + n) = s.matchLiteral? bytes pos := by
  have hstarts : s'.startsWith bytes (pos + n) = s.startsWith bytes pos := by
    rw [Bool.eq_iff_iff, startsWith_iff, startsWith_iff, h.suffix_add]
  simp only [matchLiteral?, hstarts, h.le_size_iff]

lemma matchPattern?_eq (h : s.Behind n s') (p : Pattern) (pos : Nat) :
    s'.matchPattern? p (pos + n) = s.matchPattern? p pos := by
  by_cases hpos : pos ≤ s.size
  · rw [Source.matchPattern?_eq ((h.le_size_iff pos).mpr hpos), Source.matchPattern?_eq hpos,
      h.suffix_add]
  · rw [matchPattern?, matchPattern?, if_neg hpos, if_neg (mt (h.le_size_iff pos).mp hpos)]

lemma neighborhood_eq (h : s.Behind n s') (pos width : Nat) :
    s'.neighborhood (pos + n) width = s.neighborhood pos width := by
  rw [neighborhood_eq_take, neighborhood_eq_take, h.suffix_add]

end Behind

end Source

lemma Setup.mirrors_of_behind {s : Setup} {source : Source} {n : Nat}
    (h : s.source.Behind n source) : s.Mirrors n { s with source } where
  size := h.size_eq
  literal := h.matchLiteral?_eq
  pattern := h.matchPattern?_eq
  neighborhood := h.neighborhood_eq
  lenientDiscard := rfl
  width := rfl
  maxDepth := rfl

/-! ### Matches further on -/

/-- A rule does the same behind other bytes, so many bytes further on. -/
theorem Rule.attemptWithin_behind {s : Setup} {source : Source} {n : Nat}
    (h : s.source.Behind n source) (graph : RuleGraph) (levels : Nat) (rule : Rule) :
    Attempt.Alike .same n (rule.attemptWithin s graph levels)
      (rule.attemptWithin { s with source } graph levels) := by
  have hs := Setup.mirrors_of_behind h
  refine attemptWithin_alike (f := id) (g := id) hs (fun _ => rfl) mapsParts_id ?_ ?_ ?_ levels rule
  · intro key
    rw [Option.map_id, id]
  · intro levels name child hchild
    rw [id, attemptWithin_eq_attempt, attemptWithin_eq_attempt] at hchild
    rw [id, attemptWithin_eq_attempt, attemptWithin_eq_attempt]
    exact (hchild.discard hs).unlessOverflown
  · exact fun _ _ hrule => hrule

/-- What the second of two attempts that do the same comes to. -/
lemma Attempt.Alike.eq_of_same {n : Nat} {a a' : Attempt} (h : Alike .same n a a') (pos : Nat)
    (t : Trail) :
    a' (pos + n) (t.shift n) = ((a pos t).1.mapError (.shift n), (a pos t).2.shift n) := by
  rcases h.cases pos t with ⟨m, m', next, ha, ha', hlength, htrees⟩ | ⟨e, next, ha, ha'⟩
  · have hlists : m'.tree.toList = m.tree.toList := htrees.symm
    have htree : m'.tree = m.tree := by simpa using congrArg List.head? hlists
    have hm : m' = m := by
      rw [show m' = ⟨m'.tree, m'.length⟩ from rfl, htree, hlength]
    rw [ha, ha', hm]
    rfl
  · rw [ha, ha']
    rfl

namespace Context

/-- A new context for the input, under the same settings. -/
def freshFor (cx : Context) (source : Source) : Context := { cx.fresh with source }

/-- Behind other bytes a match in a new context comes to the same, so many bytes further on. -/
lemma matchAt_behind (cx : Context) (graph : RuleGraph) (rule : Rule) {n : Nat}
    {source source' : Source} (h : source.Behind n source') :
    ((cx.freshFor source').matchAt graph rule n).1 =
        ((cx.freshFor source).matchAt graph rule 0).1.mapError (.shift n) ∧
      ((cx.freshFor source').matchAt graph rule n).2.toTrail =
        ((cx.freshFor source).matchAt graph rule 0).2.toTrail.shift n := by
  have halike := Rule.attemptWithin_behind (s := (cx.freshFor source).toSetup) h graph
    cx.maxDepth rule
  have houtcome := halike.eq_of_same 0 {}
  rw [Nat.zero_add] at houtcome
  exact ⟨congrArg Prod.fst houtcome, congrArg Prod.snd houtcome⟩

/-- A match in a new context looks at nothing before its position: it comes to what it comes to at
the start of the rest of the input, so many bytes further on, whatever stands before. -/
theorem matchAt_translation (cx : Context) (graph : RuleGraph) (rule : Rule) {pos : Nat}
    (hpos : pos ≤ cx.source.size) :
    ((cx.fresh.matchAt graph rule pos).1 =
        ((cx.freshFor (cx.source.rest pos)).matchAt graph rule 0).1.mapError (.shift pos) ∧
      (cx.fresh.matchAt graph rule pos).2.toTrail =
        ((cx.freshFor (cx.source.rest pos)).matchAt graph rule 0).2.toTrail.shift pos) ∧
    ∀ source : Source, pos ≤ source.size → source.suffix pos = cx.source.suffix pos →
      ((cx.freshFor source).matchAt graph rule pos).1 = (cx.fresh.matchAt graph rule pos).1 ∧
      ((cx.freshFor source).matchAt graph rule pos).2.toTrail =
        (cx.fresh.matchAt graph rule pos).2.toTrail := by
  obtain ⟨hresult, htrail⟩ := cx.matchAt_behind graph rule (Source.behind_rest hpos)
  refine ⟨⟨hresult, htrail⟩, fun source hsource hsuffix => ?_⟩
  have hbehind : (cx.source.rest pos).Behind pos source := by
    rw [Source.rest, ← hsuffix]
    exact Source.behind_rest hsource
  obtain ⟨hresult', htrail'⟩ := cx.matchAt_behind graph rule hbehind
  exact ⟨hresult'.trans hresult.symm, htrail'.trans htrail.symm⟩

/-- A pattern that is tied to the beginning matches in the middle, and the failure behind it and the
overflow after that are those of the rest of the input. -/
theorem matchAt_translation_anchor :
    ∃ p, Pattern.ofText? "^(?:\\Ab)" = some p ∧
      let graph : RuleGraph := fun _ => some (.reference "s" "s" (some "s"))
      let rule : Rule := .concat "r" [.pattern "p" p, .optional "c?" (.literal "c" [99]),
        .reference "s" "s" (some "s")]
      let cx : Context := { source := .ofBytes [97, 98, 100], maxDepth := 2 }
      let rest : Context := cx.freshFor (cx.source.rest 1)
      1 ≤ cx.source.size ∧
        rest.source = .ofBytes [98, 100] ∧
        (rest.matchAt graph rule 0).2.toTrail =
          ⟨some ⟨1, ["'c'"], "d"⟩, some ⟨1, ["nesting depth within 2"], "d"⟩⟩ ∧
        (cx.fresh.matchAt graph rule 1).2.toTrail =
          ⟨some ⟨2, ["'c'"], "d"⟩, some ⟨2, ["nesting depth within 2"], "d"⟩⟩ ∧
        ((cx.freshFor (.ofBytes [98, 98, 100])).matchAt graph rule 1).2.toTrail =
          (cx.fresh.matchAt graph rule 1).2.toTrail := by
  refine ⟨(Pattern.ofText? "^(?:\\Ab)").get rfl, rfl, ?_⟩
  intro graph rule cx rest
  have hpos : 1 ≤ cx.source.size := by decide
  have hrest : (rest.matchAt graph rule 0).2.toTrail =
      ⟨some ⟨1, ["'c'"], "d"⟩, some ⟨1, ["nesting depth within 2"], "d"⟩⟩ := by
    decide +kernel
  obtain ⟨⟨-, htrail⟩, hsame⟩ := cx.matchAt_translation graph rule hpos
  refine ⟨hpos, rfl, hrest, ?_, (hsame (.ofBytes [98, 98, 100]) (by decide) rfl).2⟩
  rw [htrail, hrest]
  rfl

end Context

end Peg
