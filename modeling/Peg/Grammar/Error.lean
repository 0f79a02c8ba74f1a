import Peg.Token

/-!
# Grammar errors

Why a grammar text or a list of definitions is not a grammar, and how that is said.
-/

namespace Peg

/-- What is wrong with the references between definitions. -/
inductive ValidationError where
  /-- A reference to a rule that is not defined. -/
  | undefinedRule (name referencedIn : String)
  | undefinedEntry (name : String)
  /-- Rules that reach themselves before anything is matched. -/
  | leftRecursion (rules : List String)
deriving DecidableEq, Repr

def ValidationError.message : ValidationError → String
  | .undefinedRule name referencedIn =>
    s!"rule '{name}' not found (referenced in rule '{referencedIn}')"
  | .undefinedEntry name => s!"entry rule '{name}' not found"
  | .leftRecursion rules => "left recursion through rules " ++ " -> ".intercalate rules

/-- What a grammar text has to go on with. -/
inductive Expected where
  | ruleName
  | arrow
  | expression
  | closeGroup
  | newline
deriving DecidableEq, Repr

def Expected.text : Expected → String
  | .ruleName => "rule name"
  | .arrow => "'<-'"
  | .expression => "expression"
  | .closeGroup => "')'"
  | .newline => "newline"

/-- How a token is called in errors. -/
def Token.description (t : Token) : String :=
  match t.kind with
  | .finish => "end of grammar"
  | .newline => "newline"
  | _ => "'" ++ t.text ++ "'"

/-- Why there is no grammar. -/
inductive GrammarError where
  /-- The text cannot be split into tokens. -/
  | lex (e : LexError)
  /-- A token that cannot stand where it does. -/
  | unexpected (expected : Expected) (found : Token)
  /-- A second definition of a rule, at the offset. -/
  | duplicateRule (name : String) (offset : Nat)
  /-- A regular expression that is malformed or too large. -/
  | invalidPattern (pattern : String) (offset : Nat)
  /-- There are no definitions. -/
  | empty
  | validation (e : ValidationError)
  /-- The options are malformed. -/
  | config
deriving DecidableEq, Repr

namespace GrammarError

/-- The error in words. What is wrong with a regular expression or with options is not said. -/
def message : GrammarError → String
  | .lex e => "lexical error: " ++ e.message
  | .unexpected expected found =>
    s!"expected {expected.text} but found {found.description} at offset {found.offset}"
  | .duplicateRule name offset =>
    s!"rule '{name}' defined twice (second definition at offset {offset})"
  | .invalidPattern pattern offset => s!"invalid pattern ~'{pattern}' at offset {offset}: "
  | .empty => "grammar defines no rules"
  | .validation e => "validation error: " ++ e.message
  | .config => "config error: "

/-- The error in words that lies behind this one. -/
def cause? : GrammarError → Option String
  | .lex e => some e.message
  | .validation e => some e.message
  | _ => none

end GrammarError

end Peg
