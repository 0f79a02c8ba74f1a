import Peg.CommandLine.Arguments
import Peg.CommandLine.Report
import Peg.Grammar
import Peg.Options.Reader

/-!
# The command line

Reads a grammar and an input and prints the tree of the input. `CommandLine.run` is the whole
program as a function of its arguments and of what its files hold; the log goes before the report
of a failure.
-/

namespace Peg.CommandLine

/-- What trying to read a file came to. -/
inductive FileContents where
  /-- The file could not be opened. -/
  | missing (reason : String)
  /-- The file was opened, but reading it failed. -/
  | unreadable (reason : String)
  | bytes (contents : List UInt8)

/-- What the program leaves behind. -/
structure Result where
  code : Nat := 0
  stdout : String := ""
  stderr : String := ""
deriving DecidableEq, Repr

/-! ### Log -/

/-- The levels of log messages, from no messages to all. -/
inductive LogLevel where
  | off
  | error
  | warn
  | info
  | debug
  | trace
deriving DecidableEq, Repr

def LogLevel.rank : LogLevel → Nat
  | .off => 0
  | .error => 1
  | .warn => 2
  | .info => 3
  | .debug => 4
  | .trace => 5

def LogLevel.name : LogLevel → String
  | .off => "OFF"
  | .error => "ERROR"
  | .warn => "WARN"
  | .info => "INFO"
  | .debug => "DEBUG"
  | .trace => "TRACE"

/-- The level of a name, in small or capital letters. -/
def LogLevel.ofName? (name : String) : Option LogLevel :=
  [off, error, warn, info, debug, trace].find? fun l =>
    l.name.toList.map Char.toLower = name.toList.map Char.toLower

/-- A line of the log. From the level `debug` on it names its origin. -/
structure LogLine where
  level : LogLevel
  origin : String := ""
  text : String

def LogLine.render (l : LogLine) : String :=
  let origin := if LogLevel.debug.rank ≤ l.level.rank then l.origin ++ ": " else ""
  s!" [{l.level.name}] {origin}{l.text}\n"

/-- The line of a message. The reader of tokens runs beside the rest of the program. -/
def LogLine.ofMessage (m : LogMessage) : LogLine :=
  match m with
  | .registered _ => { level := .debug, origin := "(1) peggle::grammar::builder", text := m.text }
  | .linked .. => { level := .debug, origin := "(1) peggle::validate", text := m.text }
  | .unreachable _ => { level := .warn, text := m.text }
  | .hungUp => { level := .debug, origin := "(2) peggle::lexer", text := m.text }

def LogLine.ofToken (t : Token) : LogLine :=
  { level := .trace, origin := "(2) peggle::lexer", text := t.traceMessage }

/-! ### The program -/

/-- The text of a file. -/
def readText (read : String → FileContents) (path : String) : Except Failure String :=
  match read path with
  | .missing reason | .unreadable reason =>
    .error { message := "reading " ++ path, causes := [reason] }
  | .bytes contents =>
    match Utf8.decode? contents with
    | some text => .ok text
    | none =>
      .error { message := "reading " ++ path, causes := ["stream did not contain valid UTF-8"] }

/-- The options of the configuration file, if there is one. -/
def readOptions (read : String → FileContents) (config : Option String) : Except Failure Options :=
  match config with
  | none => .ok {}
  | some path => do
    match Options.ofJson? (← readText read path) with
    | some o => .ok o
    | none => .error { message := GrammarError.config.message }

/-- The input of the match; a hyphen stands for standard input. -/
def readInput (read : String → FileContents) (stdin : List UInt8) (path : String) :
    Except Failure (Except String Source) :=
  if path = "-" then .ok (.ok (.ofBytes stdin))
  else match read path with
    | .missing reason => .error { message := "opening " ++ path, causes := [reason] }
    | .unreadable reason => .ok (.error reason)
    | .bytes contents => .ok (.ok (.ofBytes contents))

/-- What the program logs, and the text it prints or why it fails. -/
def execute (read : String → FileContents) (stdin : List UInt8) (args : Arguments) :
    List LogLine × Except Failure String :=
  match readOptions read args.config with
  | .error f => ([], .error f)
  | .ok options =>
    match readText read args.grammar with
    | .error f => ([], .error f)
    | .ok text =>
      let tokens := (Grammar.readText text).tokens.map LogLine.ofToken
      let (result, messages) := Grammar.ofText text options
      let log := tokens ++ messages.map LogLine.ofMessage
      match result with
      | .error e =>
        (log, .error {
          message := "building grammar from " ++ args.grammar
          causes := e.message :: e.cause?.toList })
      | .ok g =>
        let loaded := s!"loaded {g.rules.length} rules, entry '{g.root.name}'"
        let log := log ++ [{ level := .info, text := loaded }]
        match readInput read stdin args.input with
        | .error f => (log, .error f)
        | .ok input =>
          match g.parseReading input with
          | .error e => (log, .error { message := e.message, causes := e.cause?.toList })
          | .ok t => (log, .ok t.render)

/-- The program without its log: a failure is reported and gives the exit code 1. -/
def conclude (log : String) : Except Failure String → Result
  | .ok text => { stdout := text ++ "\n", stderr := log }
  | .error f => { code := 1, stderr := log ++ f.render }

/-- Runs the program. -/
def run (read : String → FileContents) (stdin : List UInt8) (args : List String) : Result :=
  match Arguments.parse? args with
  | none => conclude "" (.error { message := "Could not parse CLI arguments" })
  | some args =>
    match LogLevel.ofName? (args.log.getD "warn") with
    | none =>
      conclude "" <| .error {
        message := "invalid log level"
        causes := ["attempted to convert a string that doesn't match an existing log level"] }
    | some level =>
      let (log, result) := execute read stdin args
      let shown := log.filter fun l => l.level.rank ≤ level.rank
      conclude (String.join (shown.map LogLine.render)) result

end Peg.CommandLine
