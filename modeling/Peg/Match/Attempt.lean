import Peg.Match.Error
import Peg.Source
import Peg.Tree

/-!
# Attempts

An attempt tries to match at a position. It succeeds with the number of bytes matched and the tree
built from them, or it fails. Either way it leaves a trail: the furthest failure so far, and the
failure that ended everything, if the nesting of references went too deep. Once that has happened
every further attempt fails with the same error and leaves the trail as it is.

The combinators of this module are those of parsing expressions: sequence, repetition, option,
ordered choice and discarding.
-/

namespace Peg

/-- What a successful attempt matched: the number of bytes, and the tree built from them if they
left one. -/
structure Match where
  tree : Option ParseTree := none
  length : Nat := 0

/-- What is remembered from one attempt to the next. -/
structure Trail where
  /-- The furthest failure of a literal, a pattern or a reference without a rule. -/
  furthest : Option MatchError := none
  /-- The first failure of a reference nested too deeply. -/
  overflow : Option MatchError := none
deriving DecidableEq, Repr

/-- A success or a failure, and the trail after it. -/
abbrev Outcome := Except MatchError Match × Trail

/-- A way to match at a position, given the trail so far. -/
abbrev Attempt := Nat → Trail → Outcome

/-- What attempts depend on and do not change. -/
structure Setup where
  source : Source
  /-- How many bytes of the input an error quotes. -/
  width : Nat := 10
  /-- Whether a discarded rule that fails counts as an empty match. -/
  lenientDiscard : Bool := false
  /-- How many references may be nested inside one another. -/
  maxDepth : Nat := 256
  /-- How many references the attempt is nested in. -/
  depth : Nat := 0

namespace Setup

def errorAt (s : Setup) (pos : Nat) (expected : String) : MatchError where
  position := pos
  expected := [expected]
  neighborhood := Utf8.decodeLossy (s.source.neighborhood pos s.width)

/-- Fails, and remembers the failure if it is the furthest. -/
def fail (s : Setup) (expected : String) : Attempt := fun pos trail =>
  let e := s.errorAt pos expected
  (.error e, { trail with furthest := some ((trail.furthest.map (·.furthest e)).getD e) })

/-- Fails because references are nested too deeply, and remembers that. -/
def overflow (s : Setup) : Attempt := fun pos trail =>
  let e := s.errorAt pos s!"nesting depth within {s.maxDepth}"
  (.error e, { trail with overflow := some e })

end Setup

namespace Attempt

/-- Fails at once if references have been nested too deeply before. -/
def unlessOverflown (a : Attempt) : Attempt := fun pos trail =>
  match trail.overflow with
  | some e => (.error e, trail)
  | none => a pos trail

/-- Matches the bytes that are found at the position; they are a leaf unless there are none. -/
def terminal (s : Setup) (name expected : String) (find? : Nat → Option (List UInt8)) : Attempt :=
  fun pos trail =>
    match find? pos with
    | some bytes =>
      let tree := if bytes.isEmpty then none else some (.leaf name bytes)
      (.ok { tree, length := bytes.length }, trail)
    | none => s.fail expected pos trail

/-- No tree for no trees, the tree itself for one, and a node for more. -/
def joinTrees (name : String) : List ParseTree → Option ParseTree
  | [] => none
  | [t] => some t
  | ts => some (.node name ts)

/-- Matches all of the attempts, each where the one before it stopped; `length` bytes and the trees
`built`, the last one first, come from those already done. -/
def sequenceFrom (name : String) (start : Nat) :
    List Attempt → List ParseTree → Nat → Trail → Outcome
  | [], built, length, trail => (.ok { tree := joinTrees name built.reverse, length }, trail)
  | a :: rest, built, length, trail =>
    match a (start + length) trail with
    | (.ok m, trail) =>
      sequenceFrom name start rest (m.tree.toList ++ built) (length + m.length) trail
    | (.error e, trail) => (.error e, trail)

/-- Matches all of the attempts, one after the other. -/
def sequence (name : String) (attempts : List Attempt) : Attempt := fun pos trail =>
  sequenceFrom name pos attempts [] 0 trail

/-- Matches at most `fuel` times, until a match fails or is empty: the trees built, the last one
first, the position reached, and the trail. -/
def collect (a : Attempt) : Nat → Nat → List ParseTree → Trail → (List ParseTree × Nat) × Trail
  | 0, pos, built, trail => ((built, pos), trail)
  | fuel + 1, pos, built, trail =>
    match a pos trail with
    | (.ok m, trail) =>
      if m.length = 0 then ((built, pos), trail)
      else collect a fuel (pos + m.length) (m.tree.toList ++ built) trail
    | (.error _, trail) => ((built, pos), trail)

/-- Matches as often as possible after a match that ended at `pos`. No more than one match for
every byte left and one more are tried. -/
def collectFrom (s : Setup) (name : String) (a : Attempt) (start pos : Nat)
    (built : List ParseTree) (trail : Trail) : Outcome :=
  let ((built, stop), trail) := collect a (s.source.size - pos + 1) pos built trail
  (.ok { tree := some (.node name built.reverse), length := stop - start }, trail)

/-- Matches as often as possible. -/
def star (s : Setup) (name : String) (a : Attempt) : Attempt := fun pos trail =>
  collectFrom s name a pos pos [] trail

/-- Matches once, and then as often as possible unless the first match was empty. -/
def plus (s : Setup) (name : String) (a : Attempt) : Attempt := fun pos trail =>
  match a pos trail with
  | (.ok m, trail) =>
    if m.length = 0 then (.ok { tree := some (.node name m.tree.toList), length := 0 }, trail)
    else collectFrom s name a pos (pos + m.length) m.tree.toList trail
  | (.error e, trail) => (.error e, trail)

/-- Matches, or else matches nothing. -/
def optional (a : Attempt) : Attempt := fun pos trail =>
  match a pos trail with
  | (.ok m, trail) => (.ok m, trail)
  | (.error _, trail) => (.ok {}, trail)

/-- Matches with the first attempt, or else with the second. -/
def orElse (a b : Attempt) : Attempt := fun pos trail =>
  match a pos trail with
  | (.ok m, trail) => (.ok m, trail)
  | (.error e, trail) =>
    match b pos trail with
    | (.ok m, trail) => (.ok m, trail)
    | (.error e', trail) => (.error (e.furthest e'), trail)

/-- Matches without leaving a tree; where discarding is lenient, a failure is an empty match. -/
def discard (s : Setup) (a : Attempt) : Attempt := fun pos trail =>
  match a pos trail with
  | (.ok m, trail) => (.ok { length := m.length }, trail)
  | (.error e, trail) => if s.lenientDiscard then (.ok {}, trail) else (.error e, trail)

end Attempt

end Peg
