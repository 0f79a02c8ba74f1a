import Peg.Regex.CharacterClass

/-!
# Reading patterns

A pattern is read from left to right. The state of the reader holds the expressions of the group
under way and, for every open group around it, what was read of it before. `Regex.parse?` gives the
expression of a pattern, or `none` if the pattern is malformed or nests too deeply.
-/

namespace Peg.Regex

open Unicode

/-- The deepest nesting of a pattern that is accepted. -/
def nestingLimit : Nat := 250

/-- An expression together with how deeply its source nests. -/
structure Nested where
  regex : Regex
  depth : Nat := 0
  /-- The expression is no more than a change of flags, which cannot be repeated. -/
  isFlags : Bool := false

/-- The expressions read in a row, the last one first, as one. -/
def Nested.ofSequence : List Nested → Nested
  | [] => { regex := .empty }
  | [n] => { n with isFlags := false }
  | ns => {
      regex := sequence (ns.reverse.map (·.regex))
      depth := (ns.map (·.depth)).foldl max 0 + 1 }

/-- The alternatives read, the last one first, as one. -/
def Nested.ofAlternatives : List Nested → Nested
  | [] => { regex := .empty }
  | [n] => n
  | ns => {
      regex := oneOf (ns.reverse.map (·.regex))
      depth := (ns.map (·.depth)).foldl max 0 + 1 }

/-- What has been read of a group: the alternatives that are complete and the expressions of the
one under way, both last one first. -/
structure Body where
  alternatives : List Nested := []
  items : List Nested := []

def Body.push (b : Body) (n : Nested) : Body := { b with items := n :: b.items }

def Body.nextAlternative (b : Body) : Body :=
  { alternatives := .ofSequence b.items :: b.alternatives }

def Body.finish (b : Body) : Nested := .ofAlternatives b.nextAlternative.alternatives

/-- A group whose closing parenthesis has not been read. -/
structure OpenGroup where
  /-- The flags to return to. -/
  flags : Flags
  numbered : Bool
  /-- What was read before the group. -/
  before : Body

/-- The state of the reader. -/
structure Reading where
  flags : Flags := {}
  body : Body := {}
  groups : List OpenGroup := []
  names : List (List Char) := []

/-! ### Groups and flags -/

/-- Sets or clears a flag by its letter. -/
def Flags.set? (f : Flags) (on : Bool) : Char → Option Flags
  | 'i' => some { f with ignoreCase := on }
  | 'm' => some { f with multiLine := on }
  | 's' => some { f with dotAll := on }
  | 'U' => some { f with swapGreed := on }
  | 'u' => some { f with unicode := on }
  | 'R' => some { f with crlf := on }
  | 'x' => some { f with extended := on }
  | _ => none

/-- Reads flag letters up to `:` or `)`, which stay; letters after a hyphen clear their flags. No
letter may occur twice, and something must follow a hyphen. -/
def Flags.readFlags (f : Flags) (on : Bool) (seen : List Char) :
    List Char → Option (Flags × List Char × List Char)
  | [] => none
  | c :: rest =>
    if c = ':' ∨ c = ')' then
      if seen.head? = some '-' then none else some (f, seen, c :: rest)
    else if seen.contains c then none
    else if c = '-' then f.readFlags false ('-' :: seen) rest
    else do (← f.set? on c).readFlags on (c :: seen) rest

def isGroupNameStart (c : Char) : Bool := c == '_' || c.isLetter

def isGroupNameChar (c : Char) : Bool :=
  c == '_' || c == '.' || c == '[' || c == ']' || c.isAlphabeticOrNumeric

/-- Reads the name of a group and the bracket after it. -/
def readGroupName (cs : List Char) : Option (List Char × List Char) :=
  match cs.takeWhile (· != '>'), cs.dropWhile (· != '>') with
  | c :: name, '>' :: rest =>
    if isGroupNameStart c && name.all isGroupNameChar then some (c :: name, rest) else none
  | _, _ => none

def Reading.openGroup (r : Reading) (flags : Flags) (numbered : Bool) : Reading :=
  { r with
    flags
    body := {}
    groups := { flags := r.flags, numbered, before := r.body } :: r.groups }

/-- Reads what follows an opening parenthesis: the start of a group, or flags for the rest of the
group around it. -/
def Reading.readOpening (r : Reading) (cs : List Char) : Option (Reading × List Char) :=
  let named (rest : List Char) : Option (Reading × List Char) := do
    let (name, rest) ← readGroupName rest
    if r.names.contains name then none
    else return ({ r.openGroup r.flags true with names := name :: r.names }, rest)
  match r.flags.skip cs with
  | '?' :: '=' :: _ | '?' :: '!' :: _ | '?' :: '<' :: '=' :: _ | '?' :: '<' :: '!' :: _ => none
  | '?' :: 'P' :: '<' :: rest => named rest
  | '?' :: '<' :: rest => named rest
  | '?' :: rest => do
    let (flags, seen, rest) ← r.flags.readFlags true [] rest
    match rest with
    | ')' :: rest =>
      if seen.isEmpty then none
      else
        let directive : Nested := { regex := .empty, isFlags := true }
        return ({ r with flags, body := r.body.push directive }, rest)
    | _ :: rest => return (r.openGroup flags false, rest)
    | [] => none
  | rest => some (r.openGroup r.flags true, rest)

/-- Closes the innermost group. -/
def Reading.closeGroup (r : Reading) : Option Reading :=
  match r.groups with
  | [] => none
  | g :: groups =>
    let inner := r.body.finish
    let regex := if g.numbered then .group inner.regex else inner.regex
    some { r with
      flags := g.flags
      body := g.before.push { regex, depth := inner.depth + 1 }
      groups }

/-! ### Repetitions -/

/-- Puts the last expression into a repetition; there has to be one. -/
def Reading.repeatLast (r : Reading) (min : Nat) (max : Option Nat) (lazy : Bool) :
    Option Reading :=
  match r.body.items with
  | [] => none
  | n :: items =>
    if n.isFlags then none
    else
      let regex := repeated n.regex min max (lazy == r.flags.swapGreed)
      some { r with body := { r.body with items := { regex, depth := n.depth + 1 } :: items } }

/-- A question mark after a repetition makes it lazy. -/
def lazyMark : List Char → Bool × List Char
  | '?' :: rest => (true, rest)
  | rest => (false, rest)

/-- Reads the bounds of a repetition, after the opening brace. -/
def Flags.readBounds (f : Flags) (cs : List Char) : Option ((Nat × Option Nat) × List Char) := do
  let (min, rest) ← f.readDecimal (f.skip cs)
  let (max, rest) ← match rest with
    | ',' :: rest => match f.skip rest with
      | '\x7d' :: rest => pure (none, '\x7d' :: rest)
      | rest => do
        let (max, rest) ← f.readDecimal rest
        pure (some max, rest)
    | rest => pure (some min, rest)
  match rest with
  | '\x7d' :: rest => if max.all (min ≤ ·) then return ((min, max), f.skip rest) else none
  | _ => none

/-! ### Single expressions -/

/-- The expression of a character that stands for itself. -/
def Flags.literal (f : Flags) (l : Literal) : Regex :=
  let c := l.char.toNat
  if f.unicode then .chars (f.foldCase (.singleton c))
  else match l.byte? with
    | some b => if b < 0x80 then .chars (f.foldCase (.singleton b)) else .bytes (.singleton b)
    | none => .chars (.singleton c)

/-- The expression of a set of characters or bytes. -/
def Flags.class (f : Flags) (members : CharSet) : Regex :=
  if f.unicode then .chars members else .bytes members

/-- The expression of the dot. -/
def Flags.dot (f : Flags) : Regex :=
  let excluded : CharSet :=
    if f.dotAll then .empty
    else if f.crlf then ⟨[(0x0A, 0x0A), (0x0D, 0x0D)]⟩
    else .singleton 0x0A
  f.class (f.universe.diff excluded)

def Flags.primitive (f : Flags) : Primitive → Regex
  | .literal l => f.literal l
  | .class s => f.class s
  | .assertion a => .assertion a
  | .dot => f.dot

def Flags.lineStart (f : Flags) : Assertion :=
  if !f.multiLine then .textStart else if f.crlf then .anyLineStart else .lineStart

def Flags.lineEnd (f : Flags) : Assertion :=
  if !f.multiLine then .textEnd else if f.crlf then .anyLineEnd else .lineEnd

def Reading.push (r : Reading) (n : Nested) : Reading := { r with body := r.body.push n }

/-! ### Whole patterns -/

/-- Reads the next part of the pattern, which starts with `c`. -/
def Reading.step (r : Reading) (c : Char) (rest : List Char) : Option (Reading × List Char) :=
  let repeated (min : Nat) (max : Option Nat) (rest : List Char) := do
    let (lazy, rest) := lazyMark rest
    return (← r.repeatLast min max lazy, rest)
  match c with
  | '(' => r.readOpening rest
  | ')' => r.closeGroup.map fun r => (r, rest)
  | '|' => some ({ r with body := r.body.nextAlternative }, rest)
  | '[' => do
    let ((members, depth), rest) ← r.flags.readClass rest
    return (r.push { regex := r.flags.class members, depth }, rest)
  | '?' => repeated 0 (some 1) rest
  | '*' => repeated 0 none rest
  | '+' => repeated 1 none rest
  | '\x7b' => do
    let ((min, max), rest) ← r.flags.readBounds rest
    repeated min max rest
  | '\\' => do
    let (p, rest) ← r.flags.readEscape rest
    return (r.push { regex := r.flags.primitive p }, rest)
  | '.' => some (r.push { regex := r.flags.dot }, rest)
  | '^' => some (r.push { regex := .assertion r.flags.lineStart }, rest)
  | '$' => some (r.push { regex := .assertion r.flags.lineEnd }, rest)
  | c => some (r.push { regex := r.flags.literal { char := c } }, rest)

/-- Reads the rest of a pattern; every step but the last uses a character up. -/
def Reading.run : Nat → Reading → List Char → Option Reading
  | 0, _, _ => none
  | fuel + 1, r, cs => match r.flags.skip cs with
    | [] => some r
    | c :: rest => do
      let (r, rest) ← r.step c rest
      r.run fuel rest

/-- The expression of a pattern, if the pattern is well-formed. -/
def parse? (pattern : String) : Option Regex := do
  let cs := pattern.toList
  let r ← Reading.run (cs.length + 1) {} cs
  if r.groups.isEmpty then
    let whole := r.body.finish
    if whole.depth ≤ nestingLimit then return whole.regex else none
  else none

end Peg.Regex
