import Peg.Regex.Syntax

/-!
# Programs of regular expressions

A program is an array of instructions that name their successors. `Regex.emit` writes the
instructions of an expression in front of those that go on after it, so a successor is always known
when an instruction is written; only the instruction that closes a loop is filled in afterwards.
Of two successors the first is preferred.
-/

namespace Peg.Regex

open Unicode

/-- An instruction of a program. -/
inductive Instruction where
  /-- Consume one character of the set. -/
  | char (set : CharSet) (next : Nat)
  /-- Consume one byte of the set. -/
  | byte (set : CharSet) (next : Nat)
  /-- Go on if the assertion holds here. -/
  | test (a : Assertion) (next : Nat)
  /-- Go on at `first`, or else at `second`. -/
  | fork (first second : Nat)
  | accept
deriving DecidableEq, Repr

/-- The instructions and the one to start at. -/
structure Program where
  code : Array Instruction
  start : Nat
deriving DecidableEq, Repr

/-- Writes an expression whose matches go on at the given place: the place where the expression
starts, and the longer program. -/
abbrev Emitter := Nat → Array Instruction → Nat × Array Instruction

def write (i : Instruction) (code : Array Instruction) : Nat × Array Instruction :=
  (code.size, code.push i)

/-- A fork between going into an expression and going past it. -/
def forkTo (greedy : Bool) (into past : Nat) : Instruction :=
  if greedy then .fork into past else .fork past into

/-- `n` copies in a row. -/
def emitCopies (e : Emitter) : Nat → Emitter
  | 0, next, code => (next, code)
  | n + 1, next, code =>
    let (next, code) := emitCopies e n next code
    e next code

/-- Up to `n` copies in a row, each of which may be the last. -/
def emitUpTo (e : Emitter) (greedy : Bool) : Nat → Emitter
  | 0, next, code => (next, code)
  | n + 1, next, code =>
    let (more, code) := emitUpTo e greedy n next code
    let (into, code) := e more code
    write (forkTo greedy into next) code

/-- One or more copies: the place where they start, and the place of the fork after a copy. -/
def emitLoop (e : Emitter) (greedy : Bool) (next : Nat) (code : Array Instruction) :
    (Nat × Nat) × Array Instruction :=
  let (loop, code) := write .accept code
  let (into, code) := e loop code
  ((into, loop), code.setIfInBounds loop (forkTo greedy into next))

/-- The emitter of an expression. A loop around an expression that may match no bytes is entered
through a fork of its own, so that going round it without progress ends the loop. -/
def emit : Regex → Emitter
  | .empty, next, code => (next, code)
  | .chars s, next, code => write (.char s next) code
  | .bytes s, next, code => write (.byte s next) code
  | .assertion a, next, code => write (.test a next) code
  | .group r, next, code => emit r next code
  | .cat r s, next, code =>
    let (middle, code) := emit s next code
    emit r middle code
  | .either r s, next, code =>
    let (second, code) := emit s next code
    let (first, code) := emit r next code
    write (.fork first second) code
  | .repetition r 0 none greedy, next, code =>
    let ((into, loop), code) := emitLoop (emit r) greedy next code
    if (r.minLength?.getD 0) = 0 then write (forkTo greedy into next) code else (loop, code)
  | .repetition r (n + 1) none greedy, next, code =>
    let ((into, _), code) := emitLoop (emit r) greedy next code
    emitCopies (emit r) n into code
  | .repetition r min (some max) greedy, next, code =>
    let (more, code) := emitUpTo (emit r) greedy (max - min) next code
    emitCopies (emit r) min more code

/-- The program of an expression. -/
def compile (r : Regex) : Program :=
  let (start, code) := emit r 0 #[.accept]
  { code, start }

end Peg.Regex
