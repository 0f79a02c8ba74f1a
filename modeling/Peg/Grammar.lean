import Peg.Grammar.Definitions
import Peg.Grammar.Nullability
import Peg.Match.Engine
import Peg.Options

/-!
# Grammars

A grammar is a list of named rules whose references are linked to each other, together with the
rule that matching starts from. `Grammar.ofDefinitions` links and checks definitions,
`Grammar.ofText` reads them first. Both tell what they logged on the way.
-/

namespace Peg

/-! ### Linking references -/

mutual

/-- The references in a rule, from left to right: their targets, and whether they are linked. -/
def Rule.references : Rule → List (String × Bool)
  | .literal .. | .pattern .. => []
  | .reference _ target link => [(target, link.isSome)]
  | .concat _ rs => Rule.allReferences rs
  | .plus _ r | .star _ r | .optional _ r | .discard _ r => r.references
  | .alternate _ r s => r.references ++ s.references

def Rule.allReferences : List Rule → List (String × Bool)
  | [] => []
  | r :: rs => r.references ++ Rule.allReferences rs

end

mutual

/-- The rule with every reference linked to the rule that it names; a link that is there stays. -/
def Rule.link : Rule → Rule
  | .literal n b => .literal n b
  | .pattern n p => .pattern n p
  | .reference n target l => .reference n target (l <|> some target)
  | .concat n rs => .concat n (Rule.linkAll rs)
  | .plus n r => .plus n r.link
  | .star n r => .star n r.link
  | .optional n r => .optional n r.link
  | .alternate n r s => .alternate n r.link s.link
  | .discard n r => .discard n r.link

def Rule.linkAll : List Rule → List Rule
  | [] => []
  | r :: rs => r.link :: Rule.linkAll rs

end

/-- A message to the user, by its level. -/
inductive LogMessage where
  | registered (r : Rule)
  | linked (target rule : String)
  | unreachable (rule : String)
  /-- The reader of tokens went on after their taker had stopped. -/
  | hungUp

def LogMessage.text : LogMessage → String
  | .registered r => s!"registered rule '{r.name}' ({r.typeName})"
  | .linked target rule => s!"linked '{target}' in rule '{rule}'"
  | .unreachable rule => s!"unreachable rule '{rule}'"
  | .hungUp => "token consumer hung up before end of grammar"

def LogMessage.isWarning : LogMessage → Bool
  | .unreachable _ => true
  | _ => false

namespace Definitions

def find? (rules : List Rule) (name : String) : Option Rule := rules.find? (·.name == name)

/-- The first name that an earlier rule has already. -/
def firstDuplicate? (seen : List String) : List Rule → Option String
  | [] => none
  | r :: rs => if seen.contains r.name then some r.name else firstDuplicate? (r.name :: seen) rs

/-- What linking the references of a rule logs, and the first one that cannot be linked. -/
def linkReferences (defined : String → Bool) (rule : String) :
    List (String × Bool) → List LogMessage × Option String
  | [] => ([], none)
  | (target, isLinked) :: rest =>
    if defined target then
      let (log, missing?) := linkReferences defined rule rest
      (if isLinked then log else .linked target rule :: log, missing?)
    else ([], some target)

/-- What linking all references logs, and the error of the first one that cannot be linked. -/
def linkAll (defined : String → Bool) : List Rule → List LogMessage × Option ValidationError
  | [] => ([], none)
  | r :: rs =>
    match linkReferences defined r.name r.references with
    | (log, some missing) => (log, some (.undefinedRule missing r.name))
    | (log, none) =>
      let (log', error?) := linkAll defined rs
      (log ++ log', error?)

end Definitions

/-! ### Grammars -/

/-- Named rules with linked references, and the rule that matching starts from. -/
structure Grammar where
  rules : List Rule
  root : Rule
  options : Options

namespace Grammar

/-- The rule of a name. -/
def rule? (g : Grammar) (name : String) : Option Rule := Definitions.find? g.rules name

/-- The graph in which the names of the rules are the keys. -/
def graph (g : Grammar) : RuleGraph := g.rule?

/-- A grammar or why there is none, and what was logged meanwhile. -/
abbrev Logged := Except GrammarError Grammar × List LogMessage

/-- The grammar of definitions. The checks are made in this order: there is a definition, no name
is defined twice, the entry rule is defined, every reference names a definition, and no rule calls
itself at one position. -/
def ofDefinitions (rules : List Rule) (options : Options) : Logged :=
  match rules with
  | [] => (.error .empty, [])
  | first :: _ =>
    match Definitions.firstDuplicate? [] rules with
    | some name => (.error (.duplicateRule name 0), [])
    | none =>
      let entry := options.entry.getD first.name
      match Definitions.find? rules entry with
      | none => (.error (.validation (.undefinedEntry entry)), [])
      | some root =>
        let defined (name : String) : Bool := (Definitions.find? rules name).isSome
        match Definitions.linkAll defined rules with
        | (log, some e) => (.error (.validation e), log)
        | (log, none) =>
          let warnings := (Definitions.unreachable rules entry).map fun r =>
            LogMessage.unreachable r.name
          match Definitions.leftRecursion? options.lenientDiscard rules with
          | some cycle => (.error (.validation (.leftRecursion cycle)), log ++ warnings)
          | none =>
            (.ok { rules := rules.map Rule.link, root := root.link, options }, log ++ warnings)

/-- The items of a grammar text and what came of reading definitions from them. -/
structure TextReading where
  items : List Token.Item
  definitions : Definitions.Reading

def readText (text : String) : TextReading :=
  let items := Token.readAll text
  { items, definitions := Definitions.ofItems items }

/-- The tokens that were handed on or waited to be: one item is always read ahead. -/
def TextReading.tokens (r : TextReading) : List Token :=
  (r.items.take (r.definitions.taken + 1)).filterMap Except.toOption

/-- Whether an item waited to be handed on when no more were taken. -/
def TextReading.isHungUp (r : TextReading) : Bool := r.definitions.taken < r.items.length

/-- The messages of the reading of definitions. -/
def TextReading.log (r : TextReading) : List LogMessage :=
  r.definitions.registered.map .registered ++ if r.isHungUp then [.hungUp] else []

/-- The grammar of a text. -/
def ofText (text : String) (options : Options) : Logged :=
  let r := readText text
  match r.definitions.result with
  | .error e => (.error e, r.log)
  | .ok rules =>
    let (result, log) := ofDefinitions rules options
    (result, r.log ++ log)

/-! ### Matching -/

/-- The context of a match on the input, under the grammar's options. -/
def context (g : Grammar) (source : Source) : Context where
  source
  width := g.options.neighborhoodWidth
  lenientDiscard := g.options.lenientDiscard
  maxDepth := g.options.depthLimit

/-- Matches a rule at the start of the input. Once references were nested too deeply the match has
failed, whatever came of it; another failure is reported as the furthest one. -/
def run (g : Grammar) (rule : Rule) (source : Source) : Except MatchError Match :=
  let (result, cx) := (g.context source).matchAt g.graph rule 0
  match cx.overflow with
  | some e => .error e
  | none =>
    match result with
    | .ok m => .ok m
    | .error e => .error (cx.toReport.getD e)

/-- Matches the entry rule at the start of the input. -/
def matchPrefix (g : Grammar) (source : Source) : Except MatchError Match := g.run g.root source

/-- The tree of a match of the rule; an empty node if the match left none. -/
def treeOf (rule : Rule) (m : Match) : ParseTree := m.tree.getD (.node rule.name [])

/-- The tree of the entry rule at the start of the input. -/
def parse (g : Grammar) (source : Source) : Except MatchError ParseTree :=
  (g.matchPrefix source).map (treeOf g.root)

end Grammar

/-- Why an input has no tree. -/
inductive ParseError where
  /-- The input could not be read. -/
  | unreadable (reason : String)
  | mismatch (e : MatchError)
  | unknownRule (name : String)
deriving DecidableEq, Repr

namespace ParseError

def message : ParseError → String
  | .unreadable reason => "failed to read input: " ++ reason
  | .mismatch e => e.message
  | .unknownRule name => s!"no rule named '{name}'"

/-- The error in words that lies behind this one. -/
def cause? : ParseError → Option String
  | .unreadable reason => some reason
  | .mismatch e => some e.message
  | .unknownRule _ => none

end ParseError

namespace Grammar

/-- The tree of a named rule at the start of the input. -/
def parseRule (g : Grammar) (name : String) (source : Source) : Except ParseError ParseTree :=
  match g.rule? name with
  | none => .error (.unknownRule name)
  | some rule =>
    match g.run rule source with
    | .ok m => .ok (treeOf rule m)
    | .error e => .error (.mismatch e)

/-- The tree of the entry rule on an input that may have failed to be read. -/
def parseReading (g : Grammar) (input : Except String Source) : Except ParseError ParseTree :=
  match input with
  | .error reason => .error (.unreadable reason)
  | .ok source => (g.parse source).mapError .mismatch

end Grammar

end Peg
