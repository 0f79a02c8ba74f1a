import Peg.Token

/-!
# Splitting grammar texts into tokens

`Token.readAll` gives the items of a grammar text: its tokens in order, ended by one
token of kind `finish`, or by one error at the first place where no token can be read.
-/

namespace Peg.Token

/-- An item of a grammar text. -/
abbrev Item := Except LexError Token

def isIdentifierChar (c : Char) : Bool := c.isAlphabeticOrNumeric || c == '_'

def isSpaceChar (c : Char) : Bool := c == ' ' || c == '\t'

/-- The text up to the quote that closes it, and what follows the quote. A backslash takes the
meaning of a quote from the character after it. -/
def quotedText : List Char → Option (List Char × List Char)
  | [] => none
  | '\'' :: rest => some ([], rest)
  | '\\' :: c :: rest => (quotedText rest).map fun (text, rest) => ('\\' :: c :: text, rest)
  | '\\' :: [] => none
  | c :: rest => (quotedText rest).map fun (text, rest) => (c :: text, rest)

/-- The token at an offset, of which `c` is the first character, and what follows it. -/
def readOne (offset : Nat) (c : Char) (rest : List Char) : Except LexError (Token × List Char) :=
  let token (kind : Kind) (text rest : List Char) : Except LexError (Token × List Char) :=
    .ok ({ kind, text := String.ofList text, offset }, rest)
  let unexpected : Except LexError (Token × List Char) := .error (.unexpectedChar c offset)
  match c with
  | ' ' | '\t' => token .whitespace (c :: rest.takeWhile isSpaceChar) (rest.dropWhile isSpaceChar)
  | '\n' => token .newline [c] rest
  | '\r' =>
    match rest with
    | '\n' :: rest => token .newline [c, '\n'] rest
    | rest => token .newline [c] rest
  | '<' =>
    match rest with
    | '-' :: rest => token .assignment [c, '-'] rest
    | _ => unexpected
  | '*' => token .closure [c] rest
  | '+' => token .plus [c] rest
  | '/' => token .alternate [c] rest
  | '?' => token .optional [c] rest
  | '^' => token .discard [c] rest
  | '(' => token .openGroup [c] rest
  | ')' => token .closeGroup [c] rest
  | '\'' =>
    match quotedText rest with
    | some (text, rest) => token .literal text rest
    | none => .error (.unterminatedLiteral offset)
  | '~' =>
    match rest with
    | [] => unexpected
    | d :: rest =>
      if d = '\'' then
        match quotedText rest with
        | some (text, rest) => token .regexp text rest
        | none => .error (.unterminatedRegexp offset)
      else if isIdentifierChar d then
        token .reference (d :: rest.takeWhile isIdentifierChar) (rest.dropWhile isIdentifierChar)
      else unexpected
  | c =>
    if isIdentifierChar c then
      token .identifier (c :: rest.takeWhile isIdentifierChar) (rest.dropWhile isIdentifierChar)
    else unexpected

/-- The items of the characters from an offset on; every token but the last takes at least one
character, so that more than `fuel` items are never needed. -/
def readFrom : Nat → Nat → List Char → List Item
  | 0, _, _ => []
  | _ + 1, offset, [] => [.ok { kind := .finish, text := "", offset }]
  | fuel + 1, offset, c :: rest =>
    match readOne offset c rest with
    | .ok (t, rest) => .ok t :: readFrom fuel (offset + Utf8.size t.written) rest
    | .error e => [.error e]

/-- The items of a grammar text. -/
def readAll (text : String) : List Item := readFrom (text.toList.length + 1) 0 text.toList

/-- The tokens of a grammar text, or the error that ends them. -/
def tokenize (text : String) : Except LexError (List Token) := (readAll text).mapM id

end Peg.Token
