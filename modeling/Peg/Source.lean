import Peg.Pattern

/-!
# Input

The bytes being matched, looked at from explicit positions. What a look-up finds at a position
depends on the bytes from there on only: a pattern is matched against the window that starts at
the position.
-/

namespace Peg

/-- The input of a match. -/
structure Source where
  bytes : Array UInt8
deriving DecidableEq

namespace Source

def ofBytes (bytes : List UInt8) : Source := ⟨bytes.toArray⟩

def size (s : Source) : Nat := s.bytes.size

/-- The bytes from `start` up to `stop`, or up to the end of the input. -/
def slice (s : Source) (start stop : Nat) : List UInt8 := (s.bytes.extract start stop).toList

/-- Whether the bytes of the literal are in the input from the position on. -/
def startsWith (s : Source) : List UInt8 → Nat → Bool
  | [], _ => true
  | b :: rest, pos => s.bytes[pos]? == some b && s.startsWith rest (pos + 1)

/-- The bytes at the position that equal the literal; there are none beyond the end of the
input. -/
def matchLiteral? (s : Source) (literal : List UInt8) (pos : Nat) : Option (List UInt8) :=
  if pos ≤ s.size ∧ s.startsWith literal pos then some literal else none

/-- The bytes at the position that the pattern matches. -/
def matchPattern? (s : Source) (p : Pattern) (pos : Nat) : Option (List UInt8) :=
  if pos ≤ s.size then
    (p.matchLength? (.ofArray s.bytes pos)).map fun n => s.slice pos (pos + n)
  else none

/-- At most `width` bytes from the position on. -/
def neighborhood (s : Source) (pos width : Nat) : List UInt8 := s.slice pos (pos + width)

end Source

end Peg
