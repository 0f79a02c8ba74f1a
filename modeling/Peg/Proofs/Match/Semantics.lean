import Peg.Proofs.Match.Series
import Peg.Proofs.Source
import Peg.Rule

/-!
# The semantics of parsing expressions

`Derives source lenient graph rule pos outcome` says what a rule does at a position, by rules alone:
there is no trail, no limit on the nesting of references, and no bound on repetitions. The outcome
is the match, or `none` for a failure. A rule that refers to itself without end has no outcome.

The rules look at the input from the position on only.
-/

namespace Peg

section

variable (source : Source) (lenient : Bool) (graph : RuleGraph)

mutual

/-- What a rule does at a position. -/
inductive Derives : Rule → Nat → Option Match → Prop where
  | literal {name : String} {bytes : List UInt8} {pos : Nat} (h : bytes <+: source.suffix pos) :
      Derives (.literal name bytes) pos (some (.terminal name bytes))
  | noLiteral {name : String} {bytes : List UInt8} {pos : Nat}
      (h : ¬ bytes <+: source.suffix pos) : Derives (.literal name bytes) pos none
  /-- The preferred match of the pattern that starts where the suffix starts. -/
  | pattern {name : String} {p : Pattern} {pos n : Nat}
      (h : p.matchLength? (.ofList (source.suffix pos)) = some n) :
      Derives (.pattern name p) pos (some (.terminal name ((source.suffix pos).take n)))
  | noPattern {name : String} {p : Pattern} {pos : Nat}
      (h : p.matchLength? (.ofList (source.suffix pos)) = none) : Derives (.pattern name p) pos none
  /-- A reference is its target. -/
  | reference {name target key : String} {rule : Rule} {pos : Nat} {outcome : Option Match}
      (h : graph key = some rule) (hrule : Derives rule pos outcome) :
      Derives (.reference name target (some key)) pos outcome
  | dangling {name target : String} {link : Option String} {pos : Nat}
      (h : link.bind graph = none) : Derives (.reference name target link) pos none
  | concat {name : String} {parts : List Rule} {pos : Nat} {matched : Series}
      (h : DerivesAll parts pos (some matched)) :
      Derives (.concat name parts) pos (some (.joined name matched))
  | noConcat {name : String} {parts : List Rule} {pos : Nat} (h : DerivesAll parts pos none) :
      Derives (.concat name parts) pos none
  | plus {name : String} {child : Rule} {pos : Nat} {first : Match} {rest : Series}
      (h : Derives child pos (some first)) (hpos : 0 < first.length)
      (hrest : Repeats child (pos + first.length) rest) :
      Derives (.plus name child) pos (some (.repeated name (first.before rest)))
  /-- An empty first match is kept, and no other one is tried. -/
  | plusEmpty {name : String} {child : Rule} {pos : Nat} {first : Match}
      (h : Derives child pos (some first)) (hempty : first.length = 0) :
      Derives (.plus name child) pos (some (.repeated name (first.before {})))
  | noPlus {name : String} {child : Rule} {pos : Nat} (h : Derives child pos none) :
      Derives (.plus name child) pos none
  | star {name : String} {child : Rule} {pos : Nat} {rounds : Series}
      (h : Repeats child pos rounds) : Derives (.star name child) pos (some (.repeated name rounds))
  | optional {name : String} {child : Rule} {pos : Nat} {m : Match}
      (h : Derives child pos (some m)) : Derives (.optional name child) pos (some m)
  | noOptional {name : String} {child : Rule} {pos : Nat} (h : Derives child pos none) :
      Derives (.optional name child) pos (some {})
  | left {name : String} {left right : Rule} {pos : Nat} {m : Match}
      (h : Derives left pos (some m)) : Derives (.alternate name left right) pos (some m)
  | right {name : String} {left right : Rule} {pos : Nat} {outcome : Option Match}
      (h : Derives left pos none) (hright : Derives right pos outcome) :
      Derives (.alternate name left right) pos outcome
  | discard {name : String} {child : Rule} {pos : Nat} {m : Match}
      (h : Derives child pos (some m)) :
      Derives (.discard name child) pos (some { length := m.length })
  | lenientDiscard {name : String} {child : Rule} {pos : Nat} (h : Derives child pos none)
      (hlenient : lenient = true) : Derives (.discard name child) pos (some {})
  | noDiscard {name : String} {child : Rule} {pos : Nat} (h : Derives child pos none)
      (hlenient : lenient = false) : Derives (.discard name child) pos none

/-- What rules do one after the other, each from where the one before it stopped. -/
inductive DerivesAll : List Rule → Nat → Option Series → Prop where
  | nil {pos : Nat} : DerivesAll [] pos (some {})
  | cons {rule : Rule} {rules : List Rule} {pos : Nat} {m : Match} {matched : Series}
      (h : Derives rule pos (some m)) (hrest : DerivesAll rules (pos + m.length) (some matched)) :
      DerivesAll (rule :: rules) pos (some (m.before matched))
  | noHead {rule : Rule} {rules : List Rule} {pos : Nat} (h : Derives rule pos none) :
      DerivesAll (rule :: rules) pos none
  | noTail {rule : Rule} {rules : List Rule} {pos : Nat} {m : Match}
      (h : Derives rule pos (some m)) (hrest : DerivesAll rules (pos + m.length) none) :
      DerivesAll (rule :: rules) pos none

/-- What a rule matches from a position on until it fails or matches nothing. -/
inductive Repeats : Rule → Nat → Series → Prop where
  | fail {rule : Rule} {pos : Nat} (h : Derives rule pos none) : Repeats rule pos {}
  | empty {rule : Rule} {pos : Nat} {m : Match} (h : Derives rule pos (some m))
      (hempty : m.length = 0) : Repeats rule pos {}
  | more {rule : Rule} {pos : Nat} {m : Match} {rest : Series} (h : Derives rule pos (some m))
      (hpos : 0 < m.length) (hrest : Repeats rule (pos + m.length) rest) :
      Repeats rule pos (m.before rest)

end

end

variable {source : Source} {lenient : Bool} {graph : RuleGraph}

/-! ### Matches stay inside of the input -/

mutual

lemma Derives.end_le {rule : Rule} {pos : Nat} {outcome : Option Match}
    (h : Derives source lenient graph rule pos outcome) (hpos : pos ≤ source.size) :
    ∀ m ∈ outcome, pos + m.length ≤ source.size := by
  match h with
  | .literal h =>
    rintro _ ⟨⟩
    have := h.length_le
    simp at this ⊢
    omega
  | .pattern _ =>
    rintro _ ⟨⟩
    simp
    omega
  | .reference _ h => exact h.end_le hpos
  | .concat h =>
    rintro _ ⟨⟩
    exact h.end_le hpos _ rfl
  | .plus h _ hrest =>
    rintro _ ⟨⟩
    have := hrest.end_le (h.end_le hpos _ rfl)
    simp
    omega
  | .plusEmpty h _ =>
    rintro _ ⟨⟩
    simpa using h.end_le hpos _ rfl
  | .star h =>
    rintro _ ⟨⟩
    exact h.end_le hpos
  | .optional h => exact h.end_le hpos
  | .noOptional _ =>
    rintro _ ⟨⟩
    simpa using hpos
  | .left h => exact h.end_le hpos
  | .right _ h => exact h.end_le hpos
  | .discard h =>
    rintro _ ⟨⟩
    have := h.end_le hpos _ rfl
    exact this
  | .lenientDiscard _ _ =>
    rintro _ ⟨⟩
    simpa using hpos
  | .noLiteral _ | .noPattern _ | .dangling _ | .noConcat _ | .noPlus _ | .noDiscard _ _ => simp

lemma DerivesAll.end_le {rules : List Rule} {pos : Nat} {outcome : Option Series}
    (h : DerivesAll source lenient graph rules pos outcome) (hpos : pos ≤ source.size) :
    ∀ matched ∈ outcome, pos + matched.length ≤ source.size := by
  match h with
  | .nil =>
    rintro _ ⟨⟩
    simpa using hpos
  | .cons h hrest =>
    rintro _ ⟨⟩
    have := hrest.end_le (h.end_le hpos _ rfl) _ rfl
    simp
    omega
  | .noHead _ => simp
  | .noTail _ _ => simp

lemma Repeats.end_le {rule : Rule} {pos : Nat} {rounds : Series}
    (h : Repeats source lenient graph rule pos rounds) (hpos : pos ≤ source.size) :
    pos + rounds.length ≤ source.size := by
  match h with
  | .fail _ => simpa using hpos
  | .empty _ _ => simpa using hpos
  | .more h _ hrest =>
    have := hrest.end_le (h.end_le hpos _ rfl)
    simp
    omega

end
end Peg
