import Peg.Unicode.Property

/-!
# Quoted text

How text is shown inside quotation marks. A character that could not be read back from the screen
is written as an escape: control characters and quotation marks by a backslash and a letter or the
mark itself, and whatever has no visible form by its code point, as in `\u{200b}`.
-/

namespace Peg.Text

/-- Which characters of a text are escaped beside those that are always escaped. -/
structure Quoting where
  singleQuotes : Bool
  doubleQuotes : Bool
  /-- Escape characters that attach to the character before them. -/
  attached : Bool

/-- The code point of the character in hexadecimal digits, in braces. -/
def codePointEscape (c : Char) : List Char :=
  '\\' :: 'u' :: '\x7b' :: (Nat.toDigits 16 c.toNat ++ ['\x7d'])

/-- The character as it is written inside quotation marks. -/
def Quoting.char (q : Quoting) (c : Char) : List Char :=
  if c = '\x00' then ['\\', '0']
  else if c = '\t' then ['\\', 't']
  else if c = '\r' then ['\\', 'r']
  else if c = '\n' then ['\\', 'n']
  else if c = '\\' then ['\\', '\\']
  else if c = '"' then if q.doubleQuotes then ['\\', '"'] else ['"']
  else if c = '\'' then if q.singleQuotes then ['\\', '\''] else ['\'']
  else if q.attached && c.isAttached then codePointEscape c
  else if c.isPrintable then [c]
  else codePointEscape c

/-- The text in double quotation marks. -/
def quote (text : String) : String :=
  let q : Quoting := { singleQuotes := false, doubleQuotes := true, attached := true }
  String.ofList ('"' :: (text.toList.flatMap q.char ++ ['"']))

/-- The character in single quotation marks. -/
def quoteChar (c : Char) : String :=
  let q : Quoting := { singleQuotes := true, doubleQuotes := false, attached := true }
  String.ofList ('\'' :: (q.char c ++ ['\'']))

/-- The text with both kinds of quotation marks escaped. A character that attaches to the one
before it is escaped only at the start, where nothing is before it. -/
def escape (text : String) : String :=
  let q : Quoting := { singleQuotes := true, doubleQuotes := true, attached := false }
  match text.toList with
  | [] => ""
  | c :: rest => String.ofList ({ q with attached := true }.char c ++ rest.flatMap q.char)

end Peg.Text
