import Peg.Text.Quoted
import Peg.Text.Utf8

/-!
# Tokens of grammar texts

A grammar text is a sequence of tokens; each knows the text between its marks and the offset of its
first byte. `Token.written` is the token as it stands in the grammar text.
-/

namespace Peg

/-- The kinds of tokens. -/
inductive Token.Kind where
  /-- A run of letters, numbers and underscores. -/
  | identifier
  /-- A run of spaces and tabs. -/
  | whitespace
  /-- One of the line ends `\n`, `\r\n` and `\r`. -/
  | newline
  /-- The arrow `<-` of a definition. -/
  | assignment
  /-- A text in quotes. -/
  | literal
  /-- A regular expression, as in `~'[a-z]+'`. -/
  | regexp
  /-- The name of a rule after a tilde. -/
  | reference
  /-- The star of any number of repetitions. -/
  | closure
  | plus
  /-- The slash between alternatives. -/
  | alternate
  /-- The question mark of an optional part. -/
  | optional
  /-- The circumflex of a part that leaves no tree. -/
  | discard
  | openGroup
  | closeGroup
  /-- The end of the grammar text. -/
  | finish
deriving DecidableEq, Repr

/-- The name of the kind in log messages. -/
def Token.Kind.name : Token.Kind → String
  | .identifier => "Identifier"
  | .whitespace => "Whitespace"
  | .newline => "Newline"
  | .assignment => "Assignment"
  | .literal => "Literal"
  | .regexp => "Regexp"
  | .reference => "Reference"
  | .closure => "Closure"
  | .plus => "Plus"
  | .alternate => "Alternate"
  | .optional => "Optional"
  | .discard => "Discard"
  | .openGroup => "OpenGroup"
  | .closeGroup => "CloseGroup"
  | .finish => "End"

/-- A token: its kind, its text without quotes and tildes, and the offset of its first byte. -/
structure Token where
  kind : Token.Kind
  text : String
  offset : Nat
deriving DecidableEq, Repr

namespace Token

/-- The characters of the token in the grammar text. -/
def written (t : Token) : List Char :=
  match t.kind with
  | .literal => '\'' :: (t.text.toList ++ ['\''])
  | .regexp => '~' :: '\'' :: (t.text.toList ++ ['\''])
  | .reference => '~' :: t.text.toList
  | _ => t.text.toList

/-- The message that the token was read. -/
def traceMessage (t : Token) : String :=
  s!"token {t.kind.name} {Text.quote t.text} at {t.offset}"

end Token

/-- Why a grammar text cannot be split into tokens. -/
inductive LexError where
  | unterminatedLiteral (offset : Nat)
  | unterminatedRegexp (offset : Nat)
  | unexpectedChar (c : Char) (offset : Nat)
deriving DecidableEq, Repr

namespace LexError

/-- The offset of the token that could not be read. -/
def offset : LexError → Nat
  | .unterminatedLiteral o | .unterminatedRegexp o | .unexpectedChar _ o => o

def message : LexError → String
  | .unterminatedLiteral o => s!"unterminated literal starting at offset {o}"
  | .unterminatedRegexp o => s!"unterminated regexp starting at offset {o}"
  | .unexpectedChar c o => s!"unexpected character {Text.quoteChar c} at offset {o}"

end LexError

end Peg
