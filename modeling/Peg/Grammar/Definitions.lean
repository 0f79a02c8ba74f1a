import Peg.Grammar.Error
import Peg.Rule
import Peg.Token.Lexer

/-!
# Definitions from tokens

A grammar text is a list of definitions, each a name, an arrow and an expression up to the end of
its line:

    program    <- (definition newline)* definition?
    definition <- identifier '<-' expression
    expression <- sequence ('/' sequence)*
    sequence   <- postfix+
    postfix    <- primary ('*' / '+' / '?' / '^')*
    primary    <- literal / regexp / identifier / reference / '(' expression ')'

Blanks may stand between all parts but before a suffix; inside of a group, so may line ends. The
tokens are taken one at a time, and every error is found at the first token that no grammar text
has at that place: `Draft.step` says what a token does to the definitions read so far.
-/

namespace Peg.Definitions

open Token (Item)

/-! ### Texts of tokens -/

/-- The text of a literal, with a character after a backslash in the place of both. -/
def unescape : List Char → List Char
  | [] => []
  | '\\' :: 'n' :: rest => '\n' :: unescape rest
  | '\\' :: 't' :: rest => '\t' :: unescape rest
  | '\\' :: 'r' :: rest => '\r' :: unescape rest
  | '\\' :: '0' :: rest => '\x00' :: unescape rest
  | '\\' :: c :: rest => c :: unescape rest
  | c :: rest => c :: unescape rest

/-- The text of a regular expression, with a quote in the place of a backslash and a quote. -/
def unescapeQuotes : List Char → List Char
  | [] => []
  | '\\' :: '\'' :: rest => '\'' :: unescapeQuotes rest
  | c :: rest => c :: unescapeQuotes rest

/-- A regular expression, tied to the position it is matched at. -/
def anchored (pattern : String) : String := "^(?:" ++ pattern ++ ")"

/-! ### Expressions under way -/

/-- An expression of which the end has not been read: the alternatives that are complete, and the
parts of the one that is not, both last one first. -/
structure Expression where
  alternatives : List Rule := []
  parts : List Rule := []

namespace Expression

def push (e : Expression) (r : Rule) : Expression := { e with parts := r :: e.parts }

/-- The parts of the last alternative as one rule; a single part is that rule. -/
def lastAlternative? (e : Expression) (rule : String) : Option Rule :=
  match e.parts.reverse with
  | [] => none
  | [r] => some r
  | rs => some (.concat rule rs)

/-- Begins a new alternative, unless the last one is empty. -/
def nextAlternative? (e : Expression) (rule : String) : Option Expression :=
  (e.lastAlternative? rule).map fun r => { alternatives := r :: e.alternatives }

/-- The whole expression as a rule, unless the last alternative is empty. Choices nest to the
right. -/
def finish? (e : Expression) (rule : String) : Option Rule :=
  (e.lastAlternative? rule).map fun last =>
    e.alternatives.foldl (fun choice left => .alternate rule left choice) last

end Expression

/-! ### Definitions under way -/

/-- What of a definition has been read. -/
inductive Stage where
  /-- Nothing; the next definition has not begun. -/
  | between
  /-- The name, at the offset. -/
  | named (name : String) (offset : Nat)
  /-- The name, the arrow and the beginning of the expression: the innermost open expression, those
  around it, the innermost first, and whether a suffix may follow. -/
  | body (name : String) (offset : Nat) (current : Expression) (outer : List Expression)
      (afterPrimary : Bool)

/-- The definitions that are complete, last one first, and what has been read of the next one. -/
structure Draft where
  definitions : List Rule := []
  stage : Stage := .between

/-- Where a token leads: on to more tokens, or to the end of the grammar text. -/
inductive Step where
  | more (d : Draft)
  | finished (definitions : List Rule)

/-- The rule that a suffix makes of the rule before it. -/
def suffix? (kind : Token.Kind) (r : Rule) : Option Rule :=
  match kind with
  | .closure => some (.star (r.name ++ "*") r)
  | .plus => some (.plus (r.name ++ "+") r)
  | .optional => some (.optional (r.name ++ "?") r)
  | .discard => some (.discard (r.name ++ "^") r)
  | _ => none

/-- The rule of a token that is an expression by itself. -/
def primary? (t : Token) : Option (Except GrammarError Rule) :=
  match t.kind with
  | .literal =>
    some <| .ok <| .literal ("'" ++ t.text ++ "'") (Utf8.encode (unescape t.text.toList))
  | .regexp =>
    let pattern := String.ofList (unescapeQuotes t.text.toList)
    match Pattern.ofText? (anchored pattern) with
    | some p => some (.ok (.pattern ("~'" ++ t.text ++ "'") p))
    | none => some (.error (.invalidPattern pattern t.offset))
  | .identifier | .reference => some (.ok (.reference t.text t.text none))
  | _ => none

namespace Draft

/-- Completes a definition. -/
def define (d : Draft) (name : String) (offset : Nat) (body : Rule) : Except GrammarError Draft :=
  if d.definitions.any (·.name == name) then .error (.duplicateRule name offset)
  else .ok { definitions := body.rename name :: d.definitions }

/-- What can stand in an expression in the place of a token that cannot. -/
def expectedIn (current : Expression) (outer : List Expression) : Expected :=
  if current.parts.isEmpty then .expression
  else if outer.isEmpty then .newline
  else .closeGroup

/-- Takes a token of the expression of a definition. -/
def stepBody (d : Draft) (name : String) (offset : Nat) (current : Expression)
    (outer : List Expression) (afterPrimary : Bool) (t : Token) : Except GrammarError Step :=
  let body (current : Expression) (outer : List Expression) (afterPrimary : Bool) : Step :=
    .more { d with stage := .body name offset current outer afterPrimary }
  let unexpected : Except GrammarError Step := .error (.unexpected (expectedIn current outer) t)
  match t.kind with
  | .whitespace => .ok (body current outer false)
  | .literal | .regexp | .identifier | .reference =>
    match primary? t with
    | some (.ok r) => .ok (body (current.push r) outer true)
    | some (.error e) => .error e
    | none => unexpected
  | .closure | .plus | .optional | .discard =>
    match current.parts, afterPrimary with
    | r :: parts, true =>
      match suffix? t.kind r with
      | some r => .ok (body { current with parts := r :: parts } outer true)
      | none => unexpected
    | _, _ => unexpected
  | .openGroup => .ok (body {} (current :: outer) false)
  | .alternate =>
    match current.nextAlternative? name with
    | some e => .ok (body e outer false)
    | none => unexpected
  | .closeGroup =>
    match outer, current.finish? name with
    | e :: outer, some r => .ok (body (e.push r) outer true)
    | _, _ => unexpected
  | .newline =>
    match outer, current.finish? name with
    | _ :: _, _ => .ok (body current outer false)
    | [], some r => (d.define name offset r).map .more
    | [], none => unexpected
  | .finish =>
    match outer, current.finish? name with
    | [], some r => (d.define name offset r).map fun d => .finished d.definitions.reverse
    | _, _ => unexpected
  | .assignment => unexpected

/-- Takes a token. -/
def step (d : Draft) (t : Token) : Except GrammarError Step :=
  match d.stage with
  | .between =>
    match t.kind with
    | .whitespace | .newline => .ok (.more d)
    | .identifier => .ok (.more { d with stage := .named t.text t.offset })
    | .finish =>
      if d.definitions.isEmpty then .error .empty else .ok (.finished d.definitions.reverse)
    | _ => .error (.unexpected .ruleName t)
  | .named name offset =>
    match t.kind with
    | .whitespace => .ok (.more d)
    | .assignment => .ok (.more { d with stage := .body name offset {} [] false })
    | _ => .error (.unexpected .arrow t)
  | .body name offset current outer afterPrimary =>
    d.stepBody name offset current outer afterPrimary t

end Draft

/-! ### Whole grammar texts -/

/-- What came of reading definitions: the definitions or the error, all definitions that had been
completed, and how many items were taken. -/
structure Reading where
  result : Except GrammarError (List Rule)
  registered : List Rule
  taken : Nat

/-- Reads on after `taken` items, the last of them at the offset `last`. Items that stop without an
end are ended where the last one began. -/
def Draft.read (d : Draft) (taken last : Nat) : List Item → Reading
  | [] =>
    let result := match d.step { kind := .finish, text := "", offset := last } with
      | .ok (.finished rules) => .ok rules
      | .ok (.more d) => .ok d.definitions.reverse
      | .error e => .error e
    { result, registered := result.toOption.getD d.definitions.reverse, taken }
  | .error e :: _ =>
    { result := .error (.lex e), registered := d.definitions.reverse, taken := taken + 1 }
  | .ok t :: rest =>
    match d.step t with
    | .ok (.more d) => d.read (taken + 1) t.offset rest
    | .ok (.finished rules) => { result := .ok rules, registered := rules, taken := taken + 1 }
    | .error e =>
      { result := .error e, registered := d.definitions.reverse, taken := taken + 1 }

/-- Reads the definitions of a grammar text from its items. -/
def ofItems (items : List Item) : Reading := Draft.read {} 0 0 items

end Peg.Definitions
