import Peg.Regex.Reader
import Peg.Regex.Search

/-!
# Patterns

A pattern is the text of a regular expression together with the program that matches it. Only
well-formed texts whose automaton is not too large have a pattern.
-/

namespace Peg

/-- A compiled regular expression. -/
structure Pattern where
  text : String
  regex : Regex
  program : Regex.Program
  parsed : Regex.parse? text = some regex
  compiled : program = regex.compile

namespace Pattern

/-- The pattern of a text, if it is well-formed and not too large, as far as the estimate of its
size tells. -/
def ofText? (text : String) : Option Pattern :=
  match h : Regex.parse? text with
  | some regex =>
    if regex.automatonSize ≤ Regex.sizeLimit then
      some { text, regex, program := regex.compile, parsed := h, compiled := rfl }
    else none
  | none => none

/-- Whether the pattern may match no bytes, as far as the lengths of its matches tell. -/
def mayBeEmpty (p : Pattern) : Bool := p.regex.minLength? == some 0

/-- The length of the preferred match at the start of the window. -/
def matchLength? (p : Pattern) (w : Regex.Window) : Option Nat := p.program.matchLength? w

@[ext]
theorem ext {p q : Pattern} (h : p.text = q.text) : p = q := by
  obtain ⟨text, regex, program, parsed, compiled⟩ := p
  obtain ⟨text', regex', program', parsed', compiled'⟩ := q
  obtain rfl : text = text' := h
  obtain rfl : regex = regex' := Option.some.inj (parsed.symm.trans parsed')
  subst compiled compiled'
  rfl

end Pattern

end Peg
