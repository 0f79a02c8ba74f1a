/-!
# Sets of code points

A set of code points is an increasing list of disjoint, non-adjacent closed ranges. The set
operations keep that form, and `contains` stops at the first range that lies above the code
point it looks for.
-/

namespace Peg.Unicode

/-- A set of code points, as increasing, disjoint and non-adjacent ranges `(first, last)`. -/
structure CharSet where
  ranges : List (Nat × Nat)
deriving DecidableEq, Repr

namespace CharSet

def empty : CharSet := ⟨[]⟩

/-- The code points from `lo` to `hi`; none if `hi < lo`. -/
def range (lo hi : Nat) : CharSet := if lo ≤ hi then ⟨[(lo, hi)]⟩ else empty

def singleton (c : Nat) : CharSet := ⟨[(c, c)]⟩

def isEmpty (s : CharSet) : Bool := s.ranges.isEmpty

/-- The least code point of the set. -/
def least? (s : CharSet) : Option Nat := s.ranges.head?.map (·.1)

/-! ### Membership -/

def containsIn (c : Nat) : List (Nat × Nat) → Bool
  | [] => false
  | (lo, hi) :: rest => if c < lo then false else if c ≤ hi then true else containsIn c rest

def contains (s : CharSet) (c : Nat) : Bool := containsIn c s.ranges

/-! ### Union -/

/-- Adds the range `(lo, hi)`, joining every range that it touches. -/
def insertIn (lo hi : Nat) : List (Nat × Nat) → List (Nat × Nat)
  | [] => [(lo, hi)]
  | (a, b) :: rest =>
    if hi + 1 < a then (lo, hi) :: (a, b) :: rest
    else if b + 1 < lo then (a, b) :: insertIn lo hi rest
    else insertIn (min lo a) (max hi b) rest

def union (s t : CharSet) : CharSet :=
  ⟨t.ranges.foldr (fun r acc => insertIn r.1 r.2 acc) s.ranges⟩

def insert (s : CharSet) (c : Nat) : CharSet := ⟨insertIn c c s.ranges⟩

/-! ### Difference and intersection -/

/-- Takes the code points from `lo` to `hi` out. -/
def removeIn (lo hi : Nat) : List (Nat × Nat) → List (Nat × Nat)
  | [] => []
  | (a, b) :: rest =>
    if hi < a then (a, b) :: rest
    else if b < lo then (a, b) :: removeIn lo hi rest
    else
      let above := if hi < b then (hi + 1, b) :: rest else removeIn lo hi rest
      if a < lo then (a, lo - 1) :: above else above

def diff (s t : CharSet) : CharSet :=
  ⟨t.ranges.foldl (fun acc r => removeIn r.1 r.2 acc) s.ranges⟩

def inter (s t : CharSet) : CharSet := s.diff (s.diff t)

/-- The code points in exactly one of the sets. -/
def symmDiff (s t : CharSet) : CharSet := (s.diff t).union (t.diff s)

/-! ### Universes -/

/-- All scalar values, that is, all code points but the surrogates. -/
def scalars : CharSet := ⟨[(0, 0xD7FF), (0xE000, 0x10FFFF)]⟩

/-- All byte values. -/
def bytes : CharSet := ⟨[(0, 0xFF)]⟩

def ascii : CharSet := ⟨[(0, 0x7F)]⟩

/-! ### Tables

A table is a text of hexadecimal numbers: `A` stands for a code point, `A-B` for a range, and
`A:B` for every second code point from `A` to `B`. Its entries are increasing and separated by
blanks or line ends. -/

/-- What has been read of a table: finished ranges, newest first, and the entry under way. -/
structure TableReader where
  finished : List (Nat × Nat) := []
  first : Option Nat := none
  everySecond : Bool := false
  number : Option Nat := none

/-- The code points `lo`, `lo + 2`, ... that do not exceed `hi`, newest first. -/
def everySecondFrom (lo hi : Nat) (acc : List (Nat × Nat)) : List (Nat × Nat) :=
  (List.range ((hi - lo) / 2 + 1)).foldl (fun acc i => (lo + 2 * i, lo + 2 * i) :: acc) acc

def TableReader.finishEntry (r : TableReader) : List (Nat × Nat) :=
  match r.number, r.first, r.everySecond with
  | none, _, _ => r.finished
  | some n, none, _ => (n, n) :: r.finished
  | some n, some lo, false => (lo, n) :: r.finished
  | some n, some lo, true => everySecondFrom lo n r.finished

/-- The value of a hexadecimal digit in upper case. -/
def TableReader.digit (c : Char) : Nat :=
  if c ≤ '9' then c.toNat - '0'.toNat else c.toNat - 'A'.toNat + 10

def TableReader.step (r : TableReader) (c : Char) : TableReader :=
  if c = ' ' ∨ c = '\n' then { finished := r.finishEntry }
  else if c = '-' then { finished := r.finished, first := r.number }
  else if c = ':' then { finished := r.finished, first := r.number, everySecond := true }
  else { r with number := some (16 * r.number.getD 0 + TableReader.digit c) }

/-- The set that a table describes. -/
def ofTable (table : String) : CharSet :=
  ⟨(table.toList.foldl TableReader.step {}).finishEntry.reverse⟩

end CharSet

end Peg.Unicode
