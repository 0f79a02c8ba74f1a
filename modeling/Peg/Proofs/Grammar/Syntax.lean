import Peg.Grammar.Definitions

/-!
# The syntax of grammar texts

    program    <- (layout* definition)* layout* end
    definition <- identifier whitespace* '<-' expression whitespace* (newline / &end)
    expression <- sequence (blank* '/' sequence)*
    sequence   <- (blank* postfix)+
    postfix    <- primary ('*' / '+' / '?' / '^')*
    primary    <- literal / regexp / identifier / reference / '(' expression blank* ')'

Layout is white space and newlines. A blank is white space, and inside of parentheses a newline as
well. The relations say which tokens are an expression, a definition or a program, and which rules
they stand for; they speak of no order in which the tokens are taken.
-/

namespace Peg.Syntax

open Definitions (unescape unescapeQuotes anchored)

/-- Nothing but white space, and newlines where they count as blanks. -/
def Blanks (newlines : Bool) (ts : List Token) : Prop :=
  ∀ t ∈ ts, t.kind = .whitespace ∨ newlines = true ∧ t.kind = .newline

/-- What a suffix of the kind makes of a rule. Its mark goes behind the name of the rule. -/
inductive IsSuffix : Token.Kind → Rule → Rule → Prop where
  | star {r : Rule} : IsSuffix .closure r (.star (r.name ++ "*") r)
  | plus {r : Rule} : IsSuffix .plus r (.plus (r.name ++ "+") r)
  | optional {r : Rule} : IsSuffix .optional r (.optional (r.name ++ "?") r)
  | discard {r : Rule} : IsSuffix .discard r (.discard (r.name ++ "^") r)

section

-- The name of the definition that the expressions are part of.
variable (name : String)

mutual

inductive IsPrimary : List Token → Rule → Prop where
  | literal {t : Token} (h : t.kind = .literal) :
      IsPrimary [t] (.literal ("'" ++ t.text ++ "'") (Utf8.encode (unescape t.text.toList)))
  | regexp {t : Token} {p : Pattern} (h : t.kind = .regexp)
      (hp : Pattern.ofText? (anchored (String.ofList (unescapeQuotes t.text.toList))) = some p) :
      IsPrimary [t] (.pattern ("~'" ++ t.text ++ "'") p)
  | reference {t : Token} (h : t.kind = .identifier ∨ t.kind = .reference) :
      IsPrimary [t] (.reference t.text t.text none)
  | group {left right : Token} {ts blanks : List Token} {r : Rule} (hleft : left.kind = .openGroup)
      (h : IsExpression true ts r) (hblanks : Blanks true blanks)
      (hright : right.kind = .closeGroup) : IsPrimary (left :: (ts ++ blanks ++ [right])) r

inductive IsPostfix : List Token → Rule → Prop where
  | primary {ts : List Token} {r : Rule} (h : IsPrimary ts r) : IsPostfix ts r
  /-- The suffix stands right behind what it is applied to. -/
  | suffix {t : Token} {ts : List Token} {r r' : Rule} (h : IsPostfix ts r)
      (ht : IsSuffix t.kind r r') : IsPostfix (ts ++ [t]) r'

/-- The parts of a sequence. -/
inductive AreParts : Bool → List Token → List Rule → Prop where
  | nil {newlines : Bool} : AreParts newlines [] []
  | cons {newlines : Bool} {blanks ts rest : List Token} {r : Rule} {rs : List Rule}
      (hblanks : Blanks newlines blanks) (h : IsPostfix ts r) (hrest : AreParts newlines rest rs) :
      AreParts newlines (blanks ++ ts ++ rest) (r :: rs)

/-- A single part is the sequence. -/
inductive IsSequence : Bool → List Token → Rule → Prop where
  | single {newlines : Bool} {ts : List Token} {r : Rule} (h : AreParts newlines ts [r]) :
      IsSequence newlines ts r
  | concat {newlines : Bool} {ts : List Token} {r s : Rule} {rs : List Rule}
      (h : AreParts newlines ts (r :: s :: rs)) :
      IsSequence newlines ts (.concat name (r :: s :: rs))

/-- A single alternative is the expression; choices nest to the right. -/
inductive IsExpression : Bool → List Token → Rule → Prop where
  | single {newlines : Bool} {ts : List Token} {r : Rule} (h : IsSequence newlines ts r) :
      IsExpression newlines ts r
  | choice {newlines : Bool} {slash : Token} {ts blanks rest : List Token} {r s : Rule}
      (h : IsSequence newlines ts r) (hblanks : Blanks newlines blanks)
      (hslash : slash.kind = .alternate) (hrest : IsExpression newlines rest s) :
      IsExpression newlines (ts ++ blanks ++ slash :: rest) (.alternate name r s)

end

end

/-- The rule of a definition has its name. -/
inductive IsDefinition : List Token → Rule → Prop where
  | intro {t arrow : Token} {before ts after : List Token} {r : Rule} (ht : t.kind = .identifier)
      (hbefore : Blanks false before) (harrow : arrow.kind = .assignment)
      (h : IsExpression t.text false ts r) (hafter : Blanks false after) :
      IsDefinition (t :: (before ++ arrow :: (ts ++ after))) (r.rename t.text)

/-- The tokens of a whole grammar text, the end included. Only the last definition may do without a
newline. -/
inductive IsProgram : List Token → List Rule → Prop where
  | finish {t : Token} {layout : List Token} (hlayout : Blanks true layout)
      (ht : t.kind = .finish) : IsProgram (layout ++ [t]) []
  | line {t : Token} {layout ts rest : List Token} {r : Rule} {rs : List Rule}
      (hlayout : Blanks true layout) (h : IsDefinition ts r) (ht : t.kind = .newline)
      (hrest : IsProgram rest rs) : IsProgram (layout ++ ts ++ t :: rest) (r :: rs)
  | last {t : Token} {layout ts : List Token} {r : Rule} (hlayout : Blanks true layout)
      (h : IsDefinition ts r) (ht : t.kind = .finish) : IsProgram (layout ++ ts ++ [t]) [r]

end Peg.Syntax
