/-!
# UTF-8

Reading text out of bytes. `scalars` splits bytes into characters and ill-formed pieces;
`decode?` accepts well-formed bytes only, and `decodeLossy` puts the replacement character in the
place of every ill-formed piece. A piece is as long as it can be while some character still starts
with it, and at least one byte.
-/

namespace Peg.Utf8

/-- A byte that continues a character. -/
def isContinuation (b : UInt8) : Bool := 0x80 ≤ b && b ≤ 0xBF

/-- What may follow the first byte of a character of several bytes. -/
structure Lead where
  /-- The bits of the code point that the first byte carries. -/
  bits : Nat
  /-- How many bytes follow. -/
  following : Nat
  /-- The least second byte. -/
  low : UInt8 := 0x80
  /-- The greatest second byte. -/
  high : UInt8 := 0xBF
deriving DecidableEq, Repr

/-- How the character goes on after its first byte, if a character can start with that byte and
goes on after it. The bounds on the second byte keep out overlong forms, surrogates, and whatever
lies beyond the last code point. -/
def lead? (b : UInt8) : Option Lead :=
  if 0xC2 ≤ b ∧ b ≤ 0xDF then some { bits := b.toNat - 0xC0, following := 1 }
  else if b = 0xE0 then some { bits := 0, following := 2, low := 0xA0 }
  else if b = 0xED then some { bits := 0xD, following := 2, high := 0x9F }
  else if 0xE1 ≤ b ∧ b ≤ 0xEF then some { bits := b.toNat - 0xE0, following := 2 }
  else if b = 0xF0 then some { bits := 0, following := 3, low := 0x90 }
  else if 0xF1 ≤ b ∧ b ≤ 0xF3 then some { bits := b.toNat - 0xF0, following := 3 }
  else if b = 0xF4 then some { bits := 4, following := 3, high := 0x8F }
  else none

/-- Reads `n` more bytes of a character whose leading bits are `bits`. On failure the rest starts
at the byte that does not belong to the character. -/
def continuations : Nat → Nat → List UInt8 → Option Char × List UInt8
  | 0, bits, rest => (some (Char.ofNat bits), rest)
  | _ + 1, _, [] => (none, [])
  | n + 1, bits, b :: rest =>
    if isContinuation b then continuations n (64 * bits + (b.toNat - 0x80)) rest
    else (none, b :: rest)

/-- The first character, or `none` for an ill-formed piece, and the bytes after it. -/
def next : UInt8 → List UInt8 → Option Char × List UInt8
  | b, rest =>
    if b < 0x80 then (some (Char.ofNat b.toNat), rest)
    else match lead? b, rest with
      | none, rest => (none, rest)
      | some _, [] => (none, [])
      | some l, c :: rest =>
        if l.low ≤ c ∧ c ≤ l.high then
          continuations (l.following - 1) (64 * l.bits + (c.toNat - 0x80)) rest
        else (none, c :: rest)

/-- At most `fuel` characters and ill-formed pieces of the bytes. -/
def scalarsWithin : Nat → List UInt8 → List (Option Char)
  | 0, _ => []
  | _ + 1, [] => []
  | fuel + 1, b :: rest =>
    let (c, rest) := next b rest
    c :: scalarsWithin fuel rest

/-- The characters of the bytes, with `none` for each ill-formed piece. -/
def scalars (bytes : List UInt8) : List (Option Char) := scalarsWithin bytes.length bytes

/-- The text that the bytes encode, if they are well-formed. -/
def decode? (bytes : List UInt8) : Option String :=
  ((scalars bytes).mapM id).map String.ofList

/-- The text of the bytes, with the replacement character for every ill-formed piece. -/
def decodeLossy (bytes : List UInt8) : String :=
  String.ofList ((scalars bytes).map fun c => c.getD '\uFFFD')

/-- The bytes of a text. -/
def encode (text : List Char) : List UInt8 := text.flatMap String.utf8EncodeChar

/-- The number of bytes of a text. -/
def size (text : List Char) : Nat := text.foldr (fun c n => c.utf8Size + n) 0

end Peg.Utf8
