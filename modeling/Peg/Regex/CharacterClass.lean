import Peg.Regex.Escape

/-!
# Bracketed character classes

A class in brackets is a union of characters, ranges, named classes and further classes in
brackets. Unions are combined by `&&`, `--` and `~~`, which bind equally and to the left. The
members are collected while the class is read.
-/

namespace Peg.Regex

open Unicode

/-- How two unions are combined. -/
inductive ClassOperator where
  | intersection
  | difference
  | symmetricDifference
deriving DecidableEq, Repr

def ClassOperator.apply : ClassOperator → CharSet → CharSet → CharSet
  | .intersection => CharSet.inter
  | .difference => CharSet.diff
  | .symmetricDifference => CharSet.symmDiff

/-- The items of a union read so far: their members, their number, and how deeply they nest. -/
structure ClassUnion where
  members : CharSet := .empty
  count : Nat := 0
  depth : Nat := 0

def ClassUnion.add (u : ClassUnion) (s : CharSet) (depth : Nat := 0) : ClassUnion :=
  { members := u.members.union s, count := u.count + 1, depth := max u.depth depth }

/-- How deeply the union nests; only two items or more make a level of their own. -/
def ClassUnion.nesting (u : ClassUnion) : Nat := if 2 ≤ u.count then u.depth + 1 else u.depth

/-- A class whose closing bracket has not been read. -/
structure OpenClass where
  negated : Bool
  /-- The union that the class is an item of, if it is inside another class. -/
  outer : ClassUnion
  /-- The left operand of the operator that is waiting for its right operand: its members, how
  deeply it nests, and the operator. -/
  waiting : Option (CharSet × Nat × ClassOperator) := none

/-- The members and the nesting of everything since the opening bracket. -/
def Flags.finishUnion (f : Flags) (c : OpenClass) (u : ClassUnion) : CharSet × Nat :=
  match c.waiting with
  | none => (u.members, u.nesting)
  | some (left, depth, op) =>
    (op.apply (f.foldCase left) (f.foldCase u.members), max depth u.nesting + 1)

/-- The members of a character or byte literal, in a class. -/
def Flags.classLiteral? (f : Flags) (l : Literal) : Option Nat :=
  if f.unicode then some l.char.toNat else l.byte?

/-- The names of classes of ASCII characters. -/
def asciiClass? (name : List Char) : Option CharSet :=
  match String.ofList name with
  | "alnum" => some ⟨[(0x30, 0x39), (0x41, 0x5A), (0x61, 0x7A)]⟩
  | "alpha" => some asciiLetters
  | "ascii" => some .ascii
  | "blank" => some ⟨[(0x9, 0x9), (0x20, 0x20)]⟩
  | "cntrl" => some ⟨[(0x0, 0x1F), (0x7F, 0x7F)]⟩
  | "digit" => some (.range 0x30 0x39)
  | "graph" => some (.range 0x21 0x7E)
  | "lower" => some (.range 0x61 0x7A)
  | "print" => some (.range 0x20 0x7E)
  | "punct" => some ⟨[(0x21, 0x2F), (0x3A, 0x40), (0x5B, 0x60), (0x7B, 0x7E)]⟩
  | "space" => some ⟨[(0x9, 0xD), (0x20, 0x20)]⟩
  | "upper" => some (.range 0x41 0x5A)
  | "word" => some ⟨[(0x30, 0x39), (0x41, 0x5A), (0x5F, 0x5F), (0x61, 0x7A)]⟩
  | "xdigit" => some ⟨[(0x30, 0x39), (0x41, 0x46), (0x61, 0x66)]⟩
  | _ => none

/-- Reads a class such as `[:alpha:]` or `[:^alpha:]`, after its opening bracket. Anything else is
left for other readers. -/
def Flags.readAsciiClass (f : Flags) (cs : List Char) : Option (CharSet × List Char) :=
  match cs with
  | ':' :: rest =>
    let (negated, rest) := match rest with
      | '^' :: rest => (true, rest)
      | rest => (false, rest)
    match rest.dropWhile (· != ':') with
    | ':' :: ']' :: after => do
      let members ← asciiClass? (rest.takeWhile (· != ':'))
      return (f.negate negated (f.foldCase members), after)
    | _ => none
  | _ => none

/-- Reads a character or an escape inside a class. -/
def Flags.readClassItem (f : Flags) : List Char → Option (Primitive × List Char)
  | [] => none
  | '\\' :: rest => f.readEscape rest
  | c :: rest => some (.literal { char := c }, rest)

/-- The first character that counts after the current one. Where layout does not count, a comment
hides only its mark: the look ahead goes on inside of it. -/
def Flags.peek (f : Flags) (cs : List Char) : Option Char :=
  if !f.extended then cs.head?
  else
    let afterMark := match cs.dropWhile isBlank with
      | '#' :: rest => rest.dropWhile isBlank
      | rest => rest
    afterMark.head? <|> cs.head?

/-- Reads a range or a single item of a class. -/
def Flags.readClassRange (f : Flags) (cs : List Char) : Option (CharSet × List Char) := do
  let (first, rest) ← f.readClassItem cs
  match f.skip rest with
  | [] => none
  | c :: rest' =>
    let next := f.peek rest'
    if c != '-' || next == some ']' || next == some '-' then
      match first with
      | .literal l => return (.singleton (← f.classLiteral? l), c :: rest')
      | .class s => return (s, c :: rest')
      | _ => none
    else
      let (last, rest) ← f.readClassItem (f.skip rest')
      match first, last with
      | .literal a, .literal b =>
        if b.char < a.char then none
        else
          let members := CharSet.range (← f.classLiteral? a) (← f.classLiteral? b)
          return (if f.unicode then members.inter .scalars else members, rest)
      | _, _ => none

/-- Reads hyphens at the start of a class, which stand for themselves. -/
def Flags.readHyphens (f : Flags) : Nat → ClassUnion → List Char → ClassUnion × List Char
  | fuel + 1, u, '-' :: rest => f.readHyphens fuel (u.add (.singleton 0x2D)) (f.skip rest)
  | _, u, rest => (u, rest)

/-- Reads the start of a class after its opening bracket: the mark of negation, then literal
hyphens, at most `fuel` of them, or a literal closing bracket. -/
def Flags.readClassStart (f : Flags) (fuel : Nat) (cs : List Char) :
    Bool × ClassUnion × List Char :=
  let (negated, rest) := match f.skip cs with
    | '^' :: rest => (true, f.skip rest)
    | rest => (false, rest)
  let (u, rest) := f.readHyphens fuel {} rest
  match u.count, rest with
  | 0, ']' :: rest => (negated, u.add (.singleton 0x5D), f.skip rest)
  | _, rest => (negated, u, rest)

/-- Closes the innermost class: its members and how deeply it nests. -/
def Flags.closeClass (f : Flags) (c : OpenClass) (u : ClassUnion) : CharSet × Nat :=
  let (members, depth) := f.finishUnion c u
  (f.negate c.negated (f.foldCase members), depth + 1)

/-- Reads a class up to its closing bracket; `c` is the innermost open class, `u` its union so far
and `outer` are the classes around it. -/
def Flags.readClassBody (f : Flags) :
    Nat → OpenClass → List OpenClass → ClassUnion → List Char →
      Option ((CharSet × Nat) × List Char)
  | 0, _, _, _, _ => none
  | fuel + 1, c, outer, u, cs =>
    let operator (op : ClassOperator) (rest : List Char) :=
      let (left, depth) := f.finishUnion c u
      f.readClassBody fuel { c with waiting := some (left, depth, op) } outer {} rest
    match f.skip cs with
    | [] => none
    | '[' :: rest =>
      match f.readAsciiClass rest with
      | some (s, rest) => f.readClassBody fuel c outer (u.add s) rest
      | none =>
        let (negated, inner, rest) := f.readClassStart fuel rest
        f.readClassBody fuel { negated, outer := u } (c :: outer) inner rest
    | ']' :: rest =>
      let (members, depth) := f.closeClass c u
      match outer with
      | [] => some ((members, depth), rest)
      | c' :: outer => f.readClassBody fuel c' outer (c.outer.add members depth) rest
    | '&' :: '&' :: rest => operator .intersection rest
    | '-' :: '-' :: rest => operator .difference rest
    | '~' :: '~' :: rest => operator .symmetricDifference rest
    | rest => match f.readClassRange rest with
      | some (s, rest) => f.readClassBody fuel c outer (u.add s) rest
      | none => none

/-- Reads a class after its opening bracket: its members, how deeply it nests, and what follows. -/
def Flags.readClass (f : Flags) (cs : List Char) : Option ((CharSet × Nat) × List Char) :=
  let fuel := cs.length + 1
  let (negated, u, rest) := f.readClassStart fuel cs
  f.readClassBody fuel { negated, outer := {} } [] u rest

end Peg.Regex
