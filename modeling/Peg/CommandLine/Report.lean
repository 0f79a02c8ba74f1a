/-!
# Reports

How the command line tells what went wrong: the failure, and below it the failures that caused it,
numbered if there are several. Every line of a cause is indented.
-/

namespace Peg.CommandLine

/-- A failure and its causes, the nearest first. -/
structure Failure where
  message : String
  causes : List String := []
deriving DecidableEq, Repr

/-- The lines of a text. -/
def lines (cs : List Char) : List (List Char) :=
  cs.foldr (fun c acc =>
    if c = '\n' then [] :: acc
    else match acc with
      | [] => [[c]]
      | line :: rest => (c :: line) :: rest) [[]]

/-- The text, with something in front of its first line and something else in front of the
others. -/
def indent (first later : String) (text : String) : String :=
  match lines text.toList with
  | [] => first
  | line :: rest =>
    first ++ String.ofList line ++
      String.join (rest.map fun line => "\n" ++ later ++ String.ofList line)

/-- The number in a column of five characters. -/
def numberColumn (n : Nat) : String :=
  let digits := toString n
  String.ofList (List.replicate (5 - digits.length) ' ') ++ digits ++ ": "

/-- The failure with its causes, as the last thing the program writes. -/
def Failure.render (f : Failure) : String :=
  let causes := match f.causes with
    | [] => ""
    | [cause] => "\n\nCaused by:\n" ++ indent "    " "    " cause
    | causes => "\n\nCaused by:" ++ String.join (causes.zipIdx.map fun (cause, i) =>
        "\n" ++ indent (numberColumn i) "       " cause)
  "Error: " ++ f.message ++ causes ++ "\n"

end Peg.CommandLine
