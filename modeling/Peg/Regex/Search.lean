import Peg.Regex.Program
import Peg.Text.Utf8
import Peg.Unicode.Property

/-!
# Matching programs

A program is run against the bytes of a window, from its start. All ways to go on are followed at
the same time, one byte after the other and in order of preference, and of two ways that come to
the same instruction at the same position only the preferred one is kept. A way that has reached
the end of the program hides all that come after it. `Program.matchLength?` is the length of the
match that is preferred over all others.
-/

namespace Peg.Regex

open Unicode

/-- A stretch of bytes; nothing outside of it can be seen. -/
structure Window where
  size : Nat
  get? : Nat → Option UInt8

/-- The bytes from `offset` on, as a window. -/
def Window.ofArray (bytes : Array UInt8) (offset : Nat) : Window :=
  { size := bytes.size - offset, get? := fun i => bytes[offset + i]? }

namespace Window

/-- Up to four bytes from a position on. -/
def lookAhead (w : Window) (pos : Nat) : List UInt8 :=
  [pos, pos + 1, pos + 2, pos + 3].filterMap w.get?

/-- The character at a position, if the bytes there start with a well-formed one. -/
def charAt? (w : Window) (pos : Nat) : Option Char :=
  match w.lookAhead pos with
  | [] => none
  | b :: rest => (Utf8.next b rest).1

/-- The position of the last byte before `pos`, of at most four, that does not continue a
character; the first of them if there is none. -/
def charStart (w : Window) : Nat → Nat → Nat
  | 0, pos => pos
  | n + 1, pos =>
    match w.get? pos with
    | some b => if Utf8.isContinuation b ∧ 0 < pos then w.charStart n (pos - 1) else pos
    | none => pos

/-- The character that starts last before a position, if it is well-formed and ends there or
earlier. -/
def charBefore? (w : Window) (pos : Nat) : Option Char :=
  let start := w.charStart 3 (pos - 1)
  match (w.lookAhead start).take (pos - start) with
  | [] => none
  | b :: rest => (Utf8.next b rest).1

/-! ### Assertions -/

def isWordByte (b : UInt8) : Bool := b < 0x80 && (Char.ofNat b.toNat).isWordCharacter

/-- Whether a word goes on up to the position, and whether one goes on from it. -/
def wordSides (w : Window) (unicode : Bool) (pos : Nat) : Bool × Bool :=
  if unicode then
    ((w.charBefore? pos).any Char.isWordCharacter, (w.charAt? pos).any Char.isWordCharacter)
  else
    (decide (0 < pos) && (w.get? (pos - 1)).any isWordByte, (w.get? pos).any isWordByte)

/-- Whether the position is the start or end of the window or next to a well-formed character, on
the left side and on the right side. -/
def wellFormedSides (w : Window) (unicode : Bool) (pos : Nat) : Bool × Bool :=
  if unicode then
    (pos == 0 || (w.charBefore? pos).isSome, decide (w.size ≤ pos) || (w.charAt? pos).isSome)
  else (true, true)

/-- Whether the assertion holds at the position. Next to bytes that form no character, a position
is neither inside nor outside of words. -/
def satisfies (w : Window) (pos : Nat) : Assertion → Bool
  | .textStart => pos == 0
  | .textEnd => pos == w.size
  | .lineStart => pos == 0 || w.get? (pos - 1) == some 0x0A
  | .lineEnd => pos == w.size || w.get? pos == some 0x0A
  | .anyLineStart =>
    pos == 0 || w.get? (pos - 1) == some 0x0A ||
      (w.get? (pos - 1) == some 0x0D && w.get? pos != some 0x0A)
  | .anyLineEnd =>
    pos == w.size || w.get? pos == some 0x0D ||
      (w.get? pos == some 0x0A && (pos == 0 || w.get? (pos - 1) != some 0x0D))
  | .word edge unicode =>
    let (before, after) := w.wordSides unicode pos
    let (left, right) := w.wellFormedSides unicode pos
    match edge with
    | .boundary => before != after
    | .notBoundary => left && right && before == after
    | .start => !before && after
    | .finish => before && !after
    | .startHalf => left && !before
    | .finishHalf => right && !after

end Window

/-! ### Threads -/

/-- A way to go on: the instruction to come to after so many more bytes. -/
structure Thread where
  target : Nat
  wait : Nat
deriving DecidableEq, Repr

/-- The threads that go on at the next position, last one first, and for every instruction the
number of the last step at which it was reached. -/
structure Frontier where
  threads : List Thread := []
  reached : Array Nat
  accepted : Bool := false

/-- Follows the instructions on the stack, the top one first, up to those that consume bytes. -/
def Program.follow (p : Program) (w : Window) (pos : Nat) :
    Nat → List Nat → Frontier → Frontier
  | 0, _, f => f
  | _ + 1, [], f => f
  | fuel + 1, pc :: stack, f =>
    if f.accepted then f
    else if f.reached[pc]? = some (pos + 1) then p.follow w pos fuel stack f
    else
      let f := { f with reached := f.reached.setIfInBounds pc (pos + 1) }
      match p.code[pc]? with
      | none => p.follow w pos fuel stack f
      | some .accept => { f with accepted := true }
      | some (.fork first second) => p.follow w pos fuel (first :: second :: stack) f
      | some (.test a next) =>
        p.follow w pos fuel (if w.satisfies pos a then next :: stack else stack) f
      | some (.char s next) =>
        match w.charAt? pos with
        | some c =>
          if s.contains c.toNat then
            let t : Thread := { target := next, wait := c.utf8Size - 1 }
            p.follow w pos fuel stack { f with threads := t :: f.threads }
          else p.follow w pos fuel stack f
        | none => p.follow w pos fuel stack f
      | some (.byte s next) =>
        match w.get? pos with
        | some b =>
          if s.contains b.toNat then
            let t : Thread := { target := next, wait := 0 }
            p.follow w pos fuel stack { f with threads := t :: f.threads }
          else p.follow w pos fuel stack f
        | none => p.follow w pos fuel stack f

/-- Moves every thread, in order, over the position; threads after an accepting one are lost. -/
def Program.step (p : Program) (w : Window) (pos : Nat) : List Thread → Frontier → Frontier
  | [], f => f
  | t :: rest, f =>
    if f.accepted then f
    else match t.wait with
      | wait + 1 =>
        p.step w pos rest { f with threads := { t with wait } :: f.threads }
      | 0 => p.step w pos rest (p.follow w pos (2 * p.code.size + 2) [t.target] f)

/-- Runs the threads from a position on; `best` is the end of the best match so far. -/
def Program.run (p : Program) (w : Window) :
    Nat → Nat → List Thread → Array Nat → Option Nat → Option Nat
  | 0, _, _, _, best => best
  | _ + 1, _, [], _, best => best
  | fuel + 1, pos, threads, reached, best =>
    let f := p.step w pos threads { reached }
    p.run w fuel (pos + 1) f.threads.reverse f.reached (if f.accepted then some pos else best)

/-- The length of the preferred match at the start of the window. -/
def Program.matchLength? (p : Program) (w : Window) : Option Nat :=
  p.run w (w.size + 1) 0 [{ target := p.start, wait := 0 }] (Array.replicate p.code.size 0) none

end Peg.Regex
