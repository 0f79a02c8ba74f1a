/-!
# Command line arguments

    <grammar> <input> [--config FILE] [--log LEVEL]

Options and positional arguments may be mixed. An option takes the next argument or what follows an
equals sign in its own; every parameter, positional or not, can be given as an option. After `--`
all arguments are positional.
-/

namespace Peg.CommandLine

/-- What the arguments ask for. -/
structure Arguments where
  grammar : String
  input : String
  config : Option String := none
  log : Option String := none
deriving DecidableEq, Repr

/-- The parameters of the command line. -/
inductive Parameter where
  | grammar
  | input
  | config
  | log
deriving DecidableEq, Repr

/-- The values given so far. -/
structure GivenArguments where
  grammar : Option String := none
  input : Option String := none
  config : Option String := none
  log : Option String := none

def GivenArguments.set (g : GivenArguments) (p : Parameter) (value : String) : GivenArguments :=
  match p with
  | .grammar => { g with grammar := some value }
  | .input => { g with input := some value }
  | .config => { g with config := some value }
  | .log => { g with log := some value }

/-- Gives the value to the first positional parameter that has none. -/
def GivenArguments.setPositional? (g : GivenArguments) (value : String) : Option GivenArguments :=
  if g.grammar.isNone then some (g.set .grammar value)
  else if g.input.isNone then some (g.set .input value)
  else none

/-- The arguments, if the required ones were given. -/
def GivenArguments.complete? (g : GivenArguments) : Option Arguments := do
  return { grammar := ← g.grammar, input := ← g.input, config := g.config, log := g.log }

/-- Whether the letters are one word: no capital after a small letter, and no small letter after
two capitals. -/
def isOneWord : List Char → Bool
  | a :: b :: c :: rest =>
    !(a.isLower && b.isUpper) && !(a.isUpper && b.isUpper && c.isLower) &&
      isOneWord (b :: c :: rest)
  | [a, b] => !(a.isLower && b.isUpper)
  | _ => true

/-- The parameter that an option names; the letters of a word may be all small, all capital, or
capital first, and signs around the word do not count. -/
def parameter? (name : List Char) : Option Parameter :=
  let isSign (c : Char) : Bool := !c.isAlphanum
  let word := ((name.dropWhile isSign).reverse.dropWhile isSign).reverse
  if !isOneWord word then none
  else match String.ofList (word.map Char.toLower) with
    | "grammar" => some .grammar
    | "input" => some .input
    | "config" => some .config
    | "log" => some .log
    | _ => none

/-- Takes the arguments one after the other. -/
def takeArguments (positionalOnly : Bool) (g : GivenArguments) : List String → Option GivenArguments
  | [] => some g
  | arg :: rest =>
    if positionalOnly then do takeArguments true (← g.setPositional? arg) rest
    else match arg.toList with
      | ['-', '-'] => takeArguments true g rest
      | '-' :: '-' :: option =>
        match option.span (· != '=') with
        | (name, _ :: value) => do
          takeArguments false (g.set (← parameter? name) (String.ofList value)) rest
        | (name, []) =>
          match rest with
          | value :: rest => do takeArguments false (g.set (← parameter? name) value) rest
          | [] => none
      | '-' :: _ => none
      | _ => do takeArguments false (← g.setPositional? arg) rest

/-- The meaning of the arguments, if they are right. -/
def Arguments.parse? (args : List String) : Option Arguments := do
  (← takeArguments false {} args).complete?

end Peg.CommandLine
