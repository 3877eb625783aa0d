import LiteralEnum.Text.Blank
import LiteralEnum.Text.Lines

/-! Doc text as a string literal in triple double quotes. -/

namespace LiteralEnum.Module.Docstring

def escapeBackslashes (text : List Char) : List Char :=
  text.flatMap fun c => if c = '\\' then ['\\', '\\'] else [c]

/-- A backslash before each of three double quotes in a row. -/
def escapeTriples : List Char → List Char
  | '"' :: '"' :: '"' :: rest => "\\\"\\\"\\\"".toList ++ escapeTriples rest
  | c :: rest => c :: escapeTriples rest
  | [] => []

/-- A backslash before a double quote at the end. -/
def escapeLast (text : List Char) : List Char :=
  if text.getLast? = some '"' then text.dropLast ++ ['\\', '"'] else text

/-- What stands between the quotes. -/
def body (text : List Char) : List Char :=
  escapeLast (escapeTriples (escapeBackslashes text))

/-- A line after the first. A blank line is left empty. -/
def laterLine (indent line : List Char) : List Char :=
  if (Text.strip line).isEmpty then [] else indent ++ line

def quotes : List Char := ['"', '"', '"']

/-- The lines of the literal. The closing quotes of several lines stand on a line of their
own.
-/
def lines (indent text : List Char) : List (List Char) :=
  match Text.splitAt '\n' (body text) with
  | [] => [indent ++ quotes ++ quotes]
  | [line] => [indent ++ quotes ++ line ++ quotes]
  | first :: later =>
      (indent ++ quotes ++ first) :: later.map (laterLine indent) ++ [indent ++ quotes]

end LiteralEnum.Module.Docstring

namespace LiteralEnum.Module

/-- The lines of a doc text as a literal. -/
def docstring (indent text : String) : List String :=
  (Docstring.lines indent.toList text.toList).map String.ofList

end LiteralEnum.Module
