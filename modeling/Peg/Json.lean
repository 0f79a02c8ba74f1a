import Peg.Text.Hex

/-!
# JSON documents

Values of JSON, and reading them from text. Numbers are kept as they are written, so that nothing
is lost of a large one; of the grammar of numbers only the characters are checked here, and
`Json.natural?` reads those that are whole and not negative.
-/

namespace Peg

/-- A value of JSON. The members of an object stand in the order of the text. -/
inductive Json where
  | null
  | bool (b : Bool)
  | number (digits : List Char)
  | string (s : String)
  | array (items : List Json)
  | object (members : List (String × Json))

namespace Json

/-! ### Characters -/

def isBlank (c : Char) : Bool := c == ' ' || c == '\n' || c == '\r' || c == '\t'

def dropBlanks (cs : List Char) : List Char := cs.dropWhile isBlank

/-- The number of four hexadecimal digits. -/
def codeUnit? : List Char → Option (Nat × List Char)
  | a :: b :: c :: d :: rest => (Text.hexValue? [a, b, c, d]).map fun n => (n, rest)
  | _ => none

/-- The character of an escape by code unit; beyond 16 bits two units make a character. -/
def codeUnits? (cs : List Char) : Option (Char × List Char) := do
  let (high, rest) ← codeUnit? cs
  if 0xD800 ≤ high ∧ high < 0xDC00 then
    match rest with
    | '\\' :: 'u' :: rest => do
      let (low, rest) ← codeUnit? rest
      if 0xDC00 ≤ low ∧ low < 0xE000 then
        return (Char.ofNat (0x10000 + 1024 * (high - 0xD800) + (low - 0xDC00)), rest)
      else none
    | _ => none
  else if 0xDC00 ≤ high ∧ high < 0xE000 then none
  else return (Char.ofNat high, rest)

/-- The character that follows a backslash in a string. -/
def escape? : List Char → Option (Char × List Char)
  | '"' :: rest => some ('"', rest)
  | '\\' :: rest => some ('\\', rest)
  | '/' :: rest => some ('/', rest)
  | 'b' :: rest => some ('\x08', rest)
  | 'f' :: rest => some ('\x0c', rest)
  | 'n' :: rest => some ('\n', rest)
  | 'r' :: rest => some ('\r', rest)
  | 't' :: rest => some ('\t', rest)
  | 'u' :: rest => codeUnits? rest
  | _ => none

/-- The characters of a string up to its closing quotation mark. -/
def stringChars? : Nat → List Char → Option (List Char × List Char)
  | 0, _ => none
  | _ + 1, [] => none
  | fuel + 1, c :: rest =>
    if c = '"' then some ([], rest)
    else if c = '\\' then do
      let (c, rest) ← escape? rest
      let (cs, rest) ← stringChars? fuel rest
      return (c :: cs, rest)
    else if c.toNat < 0x20 then none
    else do
      let (cs, rest) ← stringChars? fuel rest
      return (c :: cs, rest)

/-- The string after its opening quotation mark. -/
def string? (cs : List Char) : Option (String × List Char) := do
  let (s, rest) ← stringChars? (cs.length + 1) cs
  return (String.ofList s, rest)

/-! ### Numbers -/

def isNumberChar (c : Char) : Bool :=
  c.isDigit || c == '-' || c == '+' || c == '.' || c == 'e' || c == 'E'

/-- Whether the characters are an integer, with any number of leading zeros. -/
def isInteger : List Char → Bool
  | '-' :: digits | digits => !digits.isEmpty && digits.all Char.isDigit

/-- Whether the characters are a number. -/
def isNumber (cs : List Char) : Bool :=
  let mantissa := cs.takeWhile fun c => c != 'e' && c != 'E'
  let whole := mantissa.takeWhile (· != '.')
  let fraction := mantissa.dropWhile (· != '.')
  let exponent := cs.dropWhile fun c => c != 'e' && c != 'E'
  isInteger whole &&
    (match fraction with
      | [] => true
      | _ :: digits => !digits.isEmpty && digits.all Char.isDigit) &&
    (match exponent with
      | [] => true
      | _ :: '+' :: digits => isInteger digits && digits.head? != some '-'
      | _ :: digits => isInteger digits)

/-- The number, if it is whole, not negative, and below 2^64. -/
def natural? : Json → Option Nat
  | .number ('-' :: digits) => if digits.all (· == '0') then some 0 else none
  | .number digits =>
    let n := digits.foldl (fun n c => 10 * n + (c.toNat - '0'.toNat)) 0
    if digits.all Char.isDigit ∧ n < UInt64.size then some n else none
  | _ => none

/-! ### Values -/

mutual

/-- The value at the start of the text, and the text after it. -/
def value? : Nat → List Char → Option (Json × List Char)
  | 0, _ => none
  | fuel + 1, cs =>
    match dropBlanks cs with
    | 'n' :: 'u' :: 'l' :: 'l' :: rest => some (.null, rest)
    | 't' :: 'r' :: 'u' :: 'e' :: rest => some (.bool true, rest)
    | 'f' :: 'a' :: 'l' :: 's' :: 'e' :: rest => some (.bool false, rest)
    | '"' :: rest => (string? rest).map fun (s, rest) => (.string s, rest)
    | '[' :: rest =>
      match dropBlanks rest with
      | ']' :: rest => some (.array [], rest)
      | rest => (items? fuel rest).map fun (vs, rest) => (.array vs, rest)
    | '\x7b' :: rest =>
      match dropBlanks rest with
      | '\x7d' :: rest => some (.object [], rest)
      | rest => (members? fuel rest).map fun (ms, rest) => (.object ms, rest)
    | rest =>
      let digits := rest.takeWhile isNumberChar
      if isNumber digits then some (.number digits, rest.dropWhile isNumberChar) else none

/-- The items of an array up to its closing bracket. -/
def items? : Nat → List Char → Option (List Json × List Char)
  | 0, _ => none
  | fuel + 1, cs => do
    let (v, rest) ← value? fuel cs
    match dropBlanks rest with
    | ']' :: rest => return ([v], rest)
    | ',' :: rest =>
      let (vs, rest) ← items? fuel rest
      return (v :: vs, rest)
    | _ => none

/-- The members of an object up to its closing brace. -/
def members? : Nat → List Char → Option (List (String × Json) × List Char)
  | 0, _ => none
  | fuel + 1, cs =>
    match dropBlanks cs with
    | '"' :: rest => do
      let (key, rest) ← string? rest
      match dropBlanks rest with
      | ':' :: rest => do
        let (v, rest) ← value? fuel rest
        match dropBlanks rest with
        | '\x7d' :: rest => return ([(key, v)], rest)
        | ',' :: rest =>
          let (ms, rest) ← members? fuel rest
          return ((key, v) :: ms, rest)
        | _ => none
      | _ => none
    | _ => none

end

/-- The value of a document; nothing but blanks may follow it. -/
def parse? (text : String) : Option Json := do
  let cs := text.toList
  let (v, rest) ← value? (cs.length + 1) cs
  if (dropBlanks rest).isEmpty then return v else none

end Json

end Peg
