import Peg.Unicode.CharSet

/-!
# Regular expressions

The abstract syntax of patterns. A character set matches one UTF-8 encoded character and a byte
set one byte; an assertion matches no bytes and looks at the bytes around its position.
-/

namespace Peg

open Unicode

namespace Regex

/-- Which side of a word the position is at. -/
inductive WordEdge where
  | boundary
  | notBoundary
  | start
  | finish
  /-- No word character before the position. -/
  | startHalf
  /-- No word character after the position. -/
  | finishHalf
deriving DecidableEq, Repr

/-- A condition on a position. -/
inductive Assertion where
  | textStart
  | textEnd
  | lineStart
  | lineEnd
  /-- The start of a line where `\r\n`, `\n` and `\r` end lines. -/
  | anyLineStart
  | anyLineEnd
  /-- `unicode` says whether words are made of characters or of ASCII bytes. -/
  | word (edge : WordEdge) (unicode : Bool)
deriving DecidableEq, Repr

end Regex

/-- A regular expression. -/
inductive Regex where
  | empty
  | chars (set : CharSet)
  | bytes (set : CharSet)
  | assertion (a : Regex.Assertion)
  | group (r : Regex)
  | cat (first second : Regex)
  | either (first second : Regex)
  /-- Between `min` and `max` times `r`, any number of times from `min` on if `max` is `none`; as
  often as possible if `greedy`, as rarely as possible otherwise. -/
  | repetition (r : Regex) (min : Nat) (max : Option Nat) (greedy : Bool)
deriving DecidableEq, Repr

namespace Regex

/-- The number of bytes that encode the code point. -/
def encodedLength (c : Nat) : Nat :=
  if c < 0x80 then 1 else if c < 0x800 then 2 else if c < 0x10000 then 3 else 4

/-- A lower bound on the number of bytes of a match; `none` if some part of the expression can
match nothing at all. -/
def minLength? : Regex → Option Nat
  | .empty => some 0
  | .chars set => set.least?.map encodedLength
  | .bytes set => set.least?.map fun _ => 1
  | .assertion _ => some 0
  | .group r => r.minLength?
  | .cat r s => do return (← r.minLength?) + (← s.minLength?)
  | .either r s => do return min (← r.minLength?) (← s.minLength?)
  | .repetition r n _ _ => r.minLength?.map (n * ·)

/-- Whether the expression is known to match no bytes only. -/
def isZeroWidth : Regex → Bool
  | .empty | .assertion _ => true
  | .chars _ | .bytes _ => false
  | .group r => r.isZeroWidth
  | .cat r s | .either r s => r.isZeroWidth && s.isZeroWidth
  | .repetition r _ _ _ => r.isZeroWidth

/-- The repetition of `r`. What matches no bytes need not be repeated more than once. -/
def repeated (r : Regex) (min : Nat) (max : Option Nat) (greedy : Bool) : Regex :=
  let min := if r.isZeroWidth then Nat.min min 1 else min
  let max := if r.isZeroWidth then some (Nat.min (max.getD 1) 1) else max
  if max = some 0 then .empty
  else if min = 1 ∧ max = some 1 then r
  else .repetition r min max greedy

/-- Any of the expressions, the earlier ones first. -/
def choice : List Regex → Regex
  | [] => .empty
  | [r] => r
  | r :: rest => .either r (choice rest)

/-- All of the expressions, one after the other. -/
def sequence : List Regex → Regex
  | [] => .empty
  | [r] => r
  | r :: rest => .cat r (sequence rest)

/-- The expressions that a choice is made of. -/
def alternatives : Regex → List Regex
  | .either r s => r.alternatives ++ s.alternatives
  | r => [r]

/-- The union of the character sets, if all of the expressions are character sets. -/
def unionOfChars? : List Regex → Option CharSet
  | [] => some .empty
  | .chars s :: rest => (unionOfChars? rest).map s.union
  | _ => none

/-- The union of the byte sets, if all of the expressions are byte sets. -/
def unionOfBytes? : List Regex → Option CharSet
  | [] => some .empty
  | .bytes s :: rest => (unionOfBytes? rest).map s.union
  | _ => none

/-- Any of the expressions; a choice between sets is their union. -/
def oneOf (rs : List Regex) : Regex :=
  let rs := rs.flatMap alternatives
  if rs.length < 2 then choice rs
  else match unionOfChars? rs, unionOfBytes? rs with
    | some s, _ => .chars s
    | none, some s => .bytes s
    | none, none => choice rs

/-! ### Size

Whether an expression is too large is told by an estimate of the byte automaton it would take; no
such automaton is built here. The estimate follows a common layout, in which a state takes 32 bytes,
each transition of a state that may have several 8 more, and each way out of a choice 4 more. Where
the number of states depends on more than the form of the expression, a typical one is put in its
place. So close to the limit the answer may not be that of an automaton that is built.
-/

/-- An estimate of the room that a byte automaton for the character set takes, in bytes. One
character takes a state for each byte of its encoding. Any other set takes a state to begin and one
to end with, and a transition for each range if all of it is ASCII. Beyond that a range takes
several states, some of them shared with other ranges: 54 bytes for each range, and 600 more if a
range reaches over more than a plane, are typical and not exact. -/
def charsSize (s : CharSet) : Nat :=
  match s.ranges with
  | [(lo, hi)] => if lo = hi then 32 * encodedLength lo else if hi < 0x80 then 72 else
      118 + if hi - lo > 0xFFFF then 600 else 0
  | ranges =>
    if ranges.all (·.2 < 0x80) then 64 + 8 * ranges.length
    else 64 + 54 * ranges.length + if ranges.any fun r => r.2 - r.1 > 0xFFFF then 600 else 0

/-- An estimate of the room that an automaton for the expression takes, in bytes, with every
repetition written out. An assertion is one state, and a group has one at each end. A choice has a
state and a way out more than its alternatives. Every round that a repetition may leave out has a
state and two ways out more, and the last of them ends in one more state. The 108 bytes around a
repetition without end are a typical number. -/
def automatonSize : Regex → Nat
  | .empty => 32
  | .chars s => charsSize s
  | .bytes s => if s.ranges.length ≤ 1 then 32 else 64 + 8 * s.ranges.length
  | .assertion _ => 32
  | .group r => 64 + r.automatonSize
  | .cat r s => r.automatonSize + s.automatonSize
  | .either r s => 36 + r.automatonSize + s.automatonSize
  | .repetition r min none _ => max 1 min * r.automatonSize + 108
  | .repetition r min (some n) _ => n * r.automatonSize + 40 * (n - min) + 32

/-- The largest room an automaton may take, as far as `automatonSize` tells: ten mebibytes. -/
def sizeLimit : Nat := 10 * 1024 * 1024

end Regex

end Peg
