import Peg.Regex.Syntax
import Peg.Text.Hex
import Peg.Unicode.CaseFolding
import Peg.Unicode.Lookup

/-!
# Characters and escapes of patterns

Reading the smallest parts of a pattern: layout, numbers, escapes. Every reader takes the rest of
the pattern and gives back what it read and what follows, or `none` if the pattern is malformed.
-/

namespace Peg.Regex

open Unicode Text

/-- The flags in force at a place of the pattern. -/
structure Flags where
  ignoreCase : Bool := false
  multiLine : Bool := false
  /-- The dot matches line ends too. -/
  dotAll : Bool := false
  /-- Repetitions are lazy unless marked, instead of greedy. -/
  swapGreed : Bool := false
  unicode : Bool := true
  /-- `\r\n` and `\r` end lines too. -/
  crlf : Bool := false
  /-- Blanks and comments in the pattern do not count. -/
  extended : Bool := false
deriving DecidableEq, Repr

def isBlank (c : Char) : Bool :=
  if c.toNat < 0x80 then c == ' ' || (9 ≤ c.toNat && c.toNat ≤ 13)
  else whiteSpace.contains c.toNat

/-- Skips blanks and comments; `inComment` says whether the text starts inside a comment. -/
def dropLayout (inComment : Bool) : List Char → List Char
  | [] => []
  | c :: cs =>
    if inComment then dropLayout (c != '\n') cs
    else if isBlank c then dropLayout false cs
    else if c = '#' then dropLayout true cs
    else c :: cs

/-- What follows the layout at this place, if layout does not count. -/
def Flags.skip (f : Flags) (cs : List Char) : List Char :=
  if f.extended then dropLayout false cs else cs

/-! ### Literals -/

/-- A character that stands for itself. -/
structure Literal where
  char : Char
  /-- Written as `\x` and two digits, which is a byte where characters are bytes. -/
  hexByte : Bool := false
deriving DecidableEq, Repr

/-- The value of the literal in a set of bytes: a code point if it is below 0x80 or was written as
a byte. -/
def Literal.byte? (l : Literal) : Option Nat :=
  if l.char.toNat < 0x80 ∨ l.hexByte ∧ l.char.toNat ≤ 0xFF then some l.char.toNat else none

/-- The least part of a pattern. -/
inductive Primitive where
  | literal (l : Literal)
  /-- A named class; its members are characters, or bytes where characters are bytes. -/
  | class (set : CharSet)
  | assertion (a : Assertion)
  | dot
deriving DecidableEq, Repr

/-! ### Classes by name -/

/-- All members that a class may have under the flags. -/
def Flags.universe (f : Flags) : CharSet := if f.unicode then .scalars else .bytes

def asciiLetters : CharSet := ⟨[(0x41, 0x5A), (0x61, 0x7A)]⟩

/-- The set with both cases of every letter in it. -/
def Flags.foldCase (f : Flags) (s : CharSet) : CharSet :=
  if !f.ignoreCase then s
  else if f.unicode then s.closeUnderCase
  else
    let upper := s.inter (.range 0x41 0x5A)
    let lower := s.inter (.range 0x61 0x7A)
    (s.union ⟨upper.ranges.map fun r => (r.1 + 32, r.2 + 32)⟩).union
      ⟨lower.ranges.map fun r => (r.1 - 32, r.2 - 32)⟩

def Flags.negate (f : Flags) (negated : Bool) (s : CharSet) : CharSet :=
  if negated then f.universe.diff s else s

/-- The class that a letter after a backslash stands for. -/
def Flags.letterClass (f : Flags) (c : Char) : CharSet :=
  let members : CharSet := match c.toLower, f.unicode with
    | 'd', true => digit
    | 's', true => whiteSpace
    | 'w', true => word
    | 'd', false => .range 0x30 0x39
    | 's', false => ⟨[(0x9, 0xD), (0x20, 0x20)]⟩
    | _, _ => ⟨[(0x30, 0x39), (0x41, 0x5A), (0x5F, 0x5F), (0x61, 0x7A)]⟩
  f.negate c.isUpper members

/-- The text before the first place where the predicate holds of the rest, and that rest. -/
def splitWhere (p : List Char → Bool) : List Char → Option (List Char × List Char)
  | [] => none
  | c :: cs =>
    if p (c :: cs) then some ([], c :: cs)
    else (splitWhere p cs).map fun (front, rest) => (c :: front, rest)

/-- The members of a class named in braces: a name, or a name and a value separated by `!=`, `:`
or `=`. -/
def namedClass? (name : List Char) : Option CharSet :=
  match splitWhere (['!', '='].isPrefixOf ·) name with
  | some (name, rest) => valued? name (rest.drop 2)
  | none => match splitWhere ([':'].isPrefixOf ·) name with
    | some (name, rest) => valued? name (rest.drop 1)
    | none => match splitWhere (['='].isPrefixOf ·) name with
      | some (name, rest) => valued? name (rest.drop 1)
      | none => named? name

/-- Reads up to the closing brace. -/
def Flags.braced (f : Flags) : Nat → List Char → Option (List Char × List Char)
  | 0, _ => none
  | fuel + 1, cs => match f.skip cs with
    | [] => none
    | '\x7d' :: rest => some ([], rest)
    | c :: rest => (f.braced fuel rest).map fun (front, rest) => (c :: front, rest)

/-- Reads the name of a class, and gives its members: one letter, or a name in braces. -/
def Flags.readClassName (f : Flags) (cs : List Char) : Option (CharSet × List Char) :=
  match f.skip cs with
  | [] => none
  | '\x7b' :: rest => do
    let (name, rest) ← f.braced (rest.length + 1) rest
    return (← namedClass? name, rest)
  | '\\' :: _ => none
  | c :: rest => (named? [c]).map fun members => (members, f.skip rest)

/-- Reads the class after `\p` or `\P`; a byte has no properties. -/
def Flags.readNamedClass (f : Flags) (negated : Bool) (cs : List Char) :
    Option (CharSet × List Char) := do
  let (members, rest) ← f.readClassName cs
  if f.unicode then return (f.negate negated (f.foldCase members), rest) else none

/-! ### Numbers -/

/-- The character with that code point. -/
def scalar? (n : Nat) : Option Char := if h : n.isValidChar then some (Char.ofNatAux n h) else none

/-- Reads exactly `n` hexadecimal digits. -/
def Flags.hexDigits (f : Flags) : Nat → List Char → Option (List Char × List Char)
  | 0, cs => some ([], cs)
  | n + 1, cs => match f.skip cs with
    | [] => none
    | c :: rest => do
      let _ ← hexDigit? c
      let (digits, rest) ← f.hexDigits n rest
      return (c :: digits, rest)

/-- Reads the code point after `\x`, `\u` or `\U`: `n` digits, or any number in braces. -/
def Flags.readHex (f : Flags) (n : Nat) (cs : List Char) : Option (Literal × List Char) :=
  match f.skip cs with
  | '\x7b' :: rest => do
    let (digits, rest) ← f.braced (rest.length + 1) rest
    if digits.isEmpty then none
    else return ({ char := ← scalar? (← hexValue? digits) }, f.skip rest)
  | rest => do
    let (digits, rest) ← f.hexDigits n rest
    return ({ char := ← scalar? (← hexValue? digits), hexByte := n == 2 }, f.skip rest)

/-- Reads decimal digits, and the layout after each. -/
def Flags.decimalDigits (f : Flags) : Nat → List Char → List Char × List Char
  | 0, cs => ([], cs)
  | _ + 1, [] => ([], [])
  | fuel + 1, c :: rest =>
    if c.isDigit then
      let (digits, rest) := f.decimalDigits fuel (f.skip rest)
      (c :: digits, rest)
    else ([], c :: rest)

/-- Reads blanks, and where layout does not count the layout after each. -/
def Flags.dropBlanks (f : Flags) : Nat → List Char → List Char
  | 0, cs => cs
  | _ + 1, [] => []
  | fuel + 1, c :: rest =>
    if isBlank c then f.dropBlanks fuel (f.skip rest) else c :: rest

/-- Reads a decimal number below 2^32, with blanks around it. -/
def Flags.readDecimal (f : Flags) (cs : List Char) : Option (Nat × List Char) :=
  let (digits, rest) := f.decimalDigits cs.length (cs.dropWhile isBlank)
  let n := digits.foldl (fun n c => 10 * n + (c.toNat - '0'.toNat)) 0
  if digits.isEmpty ∨ UInt32.size ≤ n then none else some (n, f.dropBlanks rest.length rest)

/-! ### Escapes -/

def isMeta (c : Char) : Bool := "\\.+*?()|[]\x7b\x7d^$#&-~".toList.contains c

/-- Characters that a backslash leaves as they are. -/
def isEscapable (c : Char) : Bool :=
  isMeta c || (c.toNat < 0x80 && !c.isAlphanum && c != '<' && c != '>')

def isEdgeNameChar (c : Char) : Bool :=
  c == '-' || ('A' ≤ c && c ≤ 'Z') || ('a' ≤ c && c ≤ 'z')

/-- Reads the characters of the name of a word edge. -/
def Flags.edgeName (f : Flags) : Nat → List Char → List Char × List Char
  | 0, cs => ([], cs)
  | _ + 1, [] => ([], [])
  | fuel + 1, c :: rest =>
    if isEdgeNameChar c then
      let (name, rest) := f.edgeName fuel (f.skip rest)
      (c :: name, rest)
    else ([], c :: rest)

/-- Reads what follows `\b`: the name of a word edge in braces, or nothing. A brace that cannot
start a name is left alone, since it may start a repetition. -/
def Flags.readWordEdge (f : Flags) (cs : List Char) : Option (WordEdge × List Char) :=
  match cs with
  | '\x7b' :: rest => match f.skip rest with
    | [] => none
    | c :: rest' =>
      if !isEdgeNameChar c then some (.boundary, cs)
      else match f.edgeName (rest'.length + 1) (c :: rest') with
        | (name, '\x7d' :: rest) => do
          let edge ← match String.ofList name with
            | "start" => some WordEdge.start
            | "end" => some .finish
            | "start-half" => some .startHalf
            | "end-half" => some .finishHalf
            | _ => none
          return (edge, rest)
        | _ => none
  | _ => some (.boundary, cs)

/-- Reads what follows a backslash. -/
def Flags.readEscape (f : Flags) : List Char → Option (Primitive × List Char)
  | [] => none
  | c :: rest =>
    let special (n : Nat) : Option (Primitive × List Char) :=
      some (.literal { char := Char.ofNat n }, rest)
    let edge (e : WordEdge) : Option (Primitive × List Char) :=
      some (.assertion (.word e f.unicode), rest)
    match c with
    | 'x' => (f.readHex 2 rest).map fun (l, rest) => (.literal l, rest)
    | 'u' => (f.readHex 4 rest).map fun (l, rest) => (.literal l, rest)
    | 'U' => (f.readHex 8 rest).map fun (l, rest) => (.literal l, rest)
    | 'p' | 'P' => (f.readNamedClass (c == 'P') rest).map fun (s, rest) => (.class s, rest)
    | 'd' | 's' | 'w' | 'D' | 'S' | 'W' => some (.class (f.letterClass c), rest)
    | 'a' => special 0x07
    | 't' => special 0x09
    | 'n' => special 0x0A
    | 'v' => special 0x0B
    | 'f' => special 0x0C
    | 'r' => special 0x0D
    | 'A' => some (.assertion .textStart, rest)
    | 'z' => some (.assertion .textEnd, rest)
    | 'b' => (f.readWordEdge rest).map fun (e, rest) => (.assertion (.word e f.unicode), rest)
    | 'B' => edge .notBoundary
    | '<' => edge .start
    | '>' => edge .finish
    | c => if isEscapable c then some (.literal { char := c }, rest) else none

end Peg.Regex
