import Peg.CommandLine

/-!
# The program

Reads the files that the arguments name, runs the command line on them, and writes what comes out.
-/

namespace Peg.CommandLine

/-- What the operating system says when a directory is read. -/
def isDirectory : String := "Is a directory (os error 21)"

/-- Reads a file. -/
def readFile (path : String) : IO FileContents := do
  try
    return .bytes (← IO.FS.readBinFile path).toList
  catch e =>
    return match e with
      | .noFileOrDirectory .. => .missing "No such file or directory (os error 2)"
      | .permissionDenied .. => .missing "Permission denied (os error 13)"
      | .inappropriateType .. => .unreadable isDirectory
      | e => .unreadable (toString e)

/-- The files that the arguments name, with what they hold. -/
def readFiles (args : Option Arguments) : IO (List (String × FileContents)) :=
  match args with
  | some a => (a.grammar :: a.input :: a.config.toList).mapM fun p => return (p, ← readFile p)
  | none => return []

/-- Reads a stream to its end, after the bytes that were read before. -/
partial def readStream (stream : IO.FS.Stream) (before : ByteArray) : IO ByteArray := do
  let chunk ← stream.read 4096
  if chunk.isEmpty then return before else readStream stream (before ++ chunk)

/-- What standard input holds, if it is the input of the match. -/
def readStdin (args : Option Arguments) : IO (List UInt8) := do
  if args.any (·.input == "-") then
    return (← readStream (← IO.getStdin) .empty).toList
  else return []

end Peg.CommandLine

open Peg

def main (args : List String) : IO UInt32 := do
  let arguments := CommandLine.Arguments.parse? args
  let files ← CommandLine.readFiles arguments
  let stdin ← CommandLine.readStdin arguments
  let read (path : String) := (files.lookup path).getD (.missing "no such argument")
  let result := CommandLine.run read stdin args
  (← IO.getStdout).putStr result.stdout
  (← IO.getStderr).putStr result.stderr
  return result.code.toUInt32
