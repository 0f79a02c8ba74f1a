import Peg.Pattern
import Peg.Text.Quoted
import Peg.Text.Utf8

/-!
# Rules

A rule says what it matches. Its name labels the trees it builds. A reference stands for another
rule; once it is linked it holds a key, and a graph of rules gives the rule of every key.
-/

namespace Peg

/-- A rule, with the rules it is built from. -/
inductive Rule where
  /-- Exactly these bytes. -/
  | literal (name : String) (bytes : List UInt8)
  /-- What the pattern matches at the position. -/
  | pattern (name : String) (pattern : Pattern)
  /-- The rule called `target`; `link` is the key that stands for it, once it is known. -/
  | reference (name : String) (target : String) (link : Option String)
  /-- The rules, one after the other. -/
  | concat (name : String) (parts : List Rule)
  /-- The rule, once or more. -/
  | plus (name : String) (child : Rule)
  /-- The rule, any number of times. -/
  | star (name : String) (child : Rule)
  /-- The rule, or nothing. -/
  | optional (name : String) (child : Rule)
  /-- The left rule, or else the right one. -/
  | alternate (name : String) (left right : Rule)
  /-- The rule, without its tree. -/
  | discard (name : String) (child : Rule)

/-- The rules that keys stand for. -/
abbrev RuleGraph := String → Option Rule

namespace Rule

def name : Rule → String
  | .literal n _ | .pattern n _ | .reference n _ _ | .concat n _ | .plus n _ | .star n _
  | .optional n _ | .alternate n _ _ | .discard n _ => n

/-- The same rule under another name. -/
def rename (name : String) : Rule → Rule
  | .literal _ b => .literal name b
  | .pattern _ p => .pattern name p
  | .reference _ t l => .reference name t l
  | .concat _ rs => .concat name rs
  | .plus _ r => .plus name r
  | .star _ r => .star name r
  | .optional _ r => .optional name r
  | .alternate _ r s => .alternate name r s
  | .discard _ r => .discard name r

/-- The name of the kind of rule. -/
def typeName : Rule → String
  | .literal .. => "LITERAL"
  | .pattern .. => "PATTERN"
  | .reference .. => "REFERENCE"
  | .concat .. => "CONCAT"
  | .plus .. => "PLUS"
  | .star .. => "STAR"
  | .optional .. => "OPTIONAL"
  | .alternate .. => "ALTERNATE"
  | .discard .. => "DISCARD"

/-- Whether the rule matches input directly. -/
def isTerminal : Rule → Bool
  | .literal .. | .pattern .. => true
  | _ => false

/-- The rules it is built from. -/
def dependencies : Rule → List Rule
  | .literal .. | .pattern .. | .reference .. => []
  | .concat _ rs => rs
  | .plus _ r | .star _ r | .optional _ r | .discard _ r => [r]
  | .alternate _ r s => [r, s]

mutual

/-- Whether every reference in the rule is linked. -/
def isResolved : Rule → Bool
  | .literal .. | .pattern .. => true
  | .reference _ _ link => link.isSome
  | .concat _ rs => allResolved rs
  | .plus _ r | .star _ r | .optional _ r | .discard _ r => r.isResolved
  | .alternate _ r s => r.isResolved && s.isResolved

def allResolved : List Rule → Bool
  | [] => true
  | r :: rs => r.isResolved && allResolved rs

end

mutual

/-- The targets of all references in the rule, from left to right. -/
def targets : Rule → List String
  | .literal .. | .pattern .. => []
  | .reference _ target _ => [target]
  | .concat _ rs => allTargets rs
  | .plus _ r | .star _ r | .optional _ r | .discard _ r => r.targets
  | .alternate _ r s => r.targets ++ s.targets

def allTargets : List Rule → List String
  | [] => []
  | r :: rs => r.targets ++ allTargets rs

end

/-! ### What a rule expects -/

/-- The pattern without the frame that ties it to its position. -/
def unanchored (pattern : String) : String :=
  match "^(?:".toList.isPrefixOf? pattern.toList with
  | some rest => if rest.getLast? = some ')' then String.ofList rest.dropLast else pattern
  | none => pattern

/-- What the rule would have accepted, in error messages. -/
def expectation : Rule → String
  | .literal _ bytes => "'" ++ Text.escape (Utf8.decodeLossy bytes) ++ "'"
  | .pattern _ p => "~'" ++ unanchored p.text ++ "'"
  | r => r.name

end Rule

end Peg
