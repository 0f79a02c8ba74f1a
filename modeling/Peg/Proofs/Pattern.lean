import Peg.Proofs.Source

/-!
# Lengths of matches

A run of a program accepts at positions of the window only. So a pattern consumes as many bytes of
the input as its match is long, and none only if the program accepts before the first of them.
-/

namespace Peg

namespace Regex.Program

variable {p : Program} {w : Window}

/-- A run ends with the best match from before, or with a later one inside of the window. -/
lemma run_eq_some {fuel pos n : Nat} {threads : List Thread} {reached : Array Nat}
    {best : Option Nat} (h : p.run w fuel pos threads reached best = some n) :
    best = some n ∨ pos ≤ n ∧ n < pos + fuel := by
  induction fuel generalizing pos threads reached best with
  | zero => exact Or.inl h
  | succ fuel ih =>
    cases threads with
    | nil => exact Or.inl h
    | cons t threads =>
      simp only [run] at h
      rcases ih h with hbest | ⟨hle, hlt⟩
      · split at hbest
        · obtain rfl := Option.some.inj hbest
          exact Or.inr ⟨Nat.le_refl pos, by omega⟩
        · exact Or.inl hbest
      · exact Or.inr ⟨by omega, by omega⟩

lemma matchLength?_le_size {n : Nat} (h : p.matchLength? w = some n) : n ≤ w.size := by
  rcases run_eq_some h with hbest | ⟨-, hlt⟩
  · cases hbest
  · omega

/-- The first step of a run. -/
def firstStep (p : Program) (w : Window) : Frontier :=
  p.step w 0 [{ target := p.start, wait := 0 }] { reached := Array.replicate p.code.size 0 }

/-- A program that does not accept at once does not match nothing. -/
lemma matchLength?_ne_zero (h : (p.firstStep w).accepted = false) : p.matchLength? w ≠ some 0 := by
  intro hzero
  simp only [matchLength?, run] at hzero
  rcases run_eq_some hzero with hbest | ⟨hle, -⟩
  · rw [firstStep] at h
    simp [h] at hbest
  · omega

end Regex.Program

namespace Pattern

variable {p : Pattern} {source : Source} {pos : Nat}

/-- A match consumes no bytes if and only if its length is zero. -/
lemma matchPattern?_eq_some_nil :
    source.matchPattern? p pos = some [] ↔
      pos ≤ source.size ∧ p.matchLength? (.ofList (source.suffix pos)) = some 0 := by
  by_cases hpos : pos ≤ source.size
  · rw [Source.matchPattern?_eq hpos]
    simp only [hpos, true_and, Option.map_eq_some_iff]
    constructor
    · rintro ⟨n, hn, hnil⟩
      have hle : n ≤ (source.suffix pos).length := Regex.Program.matchLength?_le_size hn
      have hlength := congrArg List.length hnil
      rw [List.length_take, List.length_nil, Nat.min_eq_left hle] at hlength
      rw [hn, hlength]
    · exact fun h => ⟨0, h, List.take_zero⟩
  · simp [Source.matchPattern?, hpos]

/-- No match of the pattern is empty unless its matches have no least length but zero. -/
def TellsEmpty (p : Pattern) : Prop :=
  p.mayBeEmpty = false → ∀ (source : Source) (pos : Nat), source.matchPattern? p pos ≠ some []

lemma tellsEmpty_of_firstStep (h : ∀ w, (p.program.firstStep w).accepted = false) :
    p.TellsEmpty := by
  intro _ source pos hnil
  exact Regex.Program.matchLength?_ne_zero (h _) (matchPattern?_eq_some_nil.mp hnil).2

end Pattern

end Peg
