import LiteralEnum.Console.Width
import LiteralEnum.Text.Blank
import LiteralEnum.Text.Lines

/-! Lines of text that fit in a number of columns. -/

namespace LiteralEnum.Console

/-- The columns of the terminal. -/
def terminalWidth : Nat := 1000

/-- Controls that a terminal would not show: bell, backspace, vertical tab, form feed and
carriage return.
-/
def isHidden (c : Char) : Bool := [7, 8, 11, 12, 13].contains c.toNat

/-- A text without hidden controls. -/
def sanitize (text : List Char) : List Char := text.filter (!isHidden ·)

-----------------------------------------------------------------------------------------
-- Tabs
-----------------------------------------------------------------------------------------

def tabSize : Nat := 8

/-- The pieces between tabs, each but the last filled up to a multiple of the tab size. -/
def fillPieces (column : Nat) : List (List Char) → List Char
  | [] => []
  | [piece] => piece
  | piece :: rest =>
      let ending := column + width piece
      let fill := tabSize - ending % tabSize
      piece ++ List.replicate fill ' ' ++ fillPieces (ending + fill) rest

def expandTabs (line : List Char) : List Char :=
  fillPieces 0 (Text.splitAt '\t' line)

-----------------------------------------------------------------------------------------
-- Breaking lines
-----------------------------------------------------------------------------------------

/-- The next word with the blanks around it, and the rest. Blanks alone are no word. -/
def takeWord? (text : List Char) : Option (List Char × List Char) :=
  let (before, body) := text.span Text.isBlank
  match body.span (!Text.isBlank ·) with
  | ([], _) => none
  | (word, rest) =>
      let (after, rest) := rest.span Text.isBlank
      some (before ++ word ++ after, rest)

/-- The words of a text; the number of characters is fuel enough. -/
def words : Nat → List Char → List (List Char)
  | 0, _ => []
  | fuel + 1, text =>
      match takeWord? text with
      | some (word, rest) => word :: words fuel rest
      | none => []

/-- Cuts a word into pieces of at most `limit` columns. -/
def chop (limit column : Nat) (piece : List Char) : List Char → List (List Char)
  | [] => [piece.reverse]
  | c :: rest =>
      if limit < column + charWidth c then piece.reverse :: chop limit (charWidth c) [c] rest
      else chop limit (column + charWidth c) (c :: piece) rest

/-- Where breaks go before the pieces of a word that starts at an offset. -/
def breaksBefore (start : Nat) : List (List Char) → List Nat
  | [] => []
  | piece :: rest =>
      (if start = 0 then [] else [start]) ++ breaksBefore (start + piece.length) rest

/-- Offsets of line breaks between words. A word that fits in no line is cut if `fold`
allows it.
-/
def breaks (limit : Nat) (fold : Bool) (start column : Nat) : List (List Char) → List Nat
  | [] => []
  | word :: rest =>
      let next := start + word.length
      let needed := width (Text.stripRight word)
      if column + needed ≤ limit then breaks limit fold next (column + width word) rest
      else if limit < needed then
        if fold then
          let pieces := chop limit 0 [] word
          breaksBefore start pieces
            ++ breaks limit fold next (width (pieces.getLastD [])) rest
        else breaksBefore start [word] ++ breaks limit fold next (width word) rest
      else if column ≠ 0 ∧ start ≠ 0 then start :: breaks limit fold next (width word) rest
      else breaks limit fold next column rest

/-- The parts of a text between offsets, the first of which is `start`. -/
def cutAt (start : Nat) (text : List Char) : List Nat → List (List Char)
  | [] => [text]
  | offset :: rest => text.take (offset - start) :: cutAt offset (text.drop (offset - start)) rest

/-- Takes away blanks at the end that are beyond a number of characters. -/
def stripEnd (limit : Nat) (line : List Char) : List Char :=
  let blanks := (line.reverse.takeWhile Text.isBlank).length
  line.take (line.length - min blanks (line.length - limit))

-----------------------------------------------------------------------------------------
-- Fitting lines
-----------------------------------------------------------------------------------------

/-- The start of a text that fits in a number of columns. -/
def fitting (limit : Nat) : List Char → List Char
  | [] => []
  | c :: rest => if limit < charWidth c then [] else c :: fitting (limit - charWidth c) rest

/-- Pads a text on the right. -/
def padRight (limit : Nat) (text : List Char) : List Char :=
  text ++ List.replicate (limit - width text) ' '

/-- Cuts or pads a text to a number of columns. -/
def setWidth (limit : Nat) (text : List Char) : List Char :=
  padRight limit (if limit < width text then fitting limit text else text)

/-- Cuts a text that does not fit; with `ellipsis`, the last column says so. -/
def truncate (limit : Nat) (ellipsis : Bool) (text : List Char) : List Char :=
  if width text ≤ limit then text
  else if ellipsis then setWidth (limit - 1) text ++ ['…']
  else setWidth limit text

inductive Justify where
  | none
  | left
  | center
  | right
deriving Repr, DecidableEq

def justifyLine (limit : Nat) (ellipsis : Bool) (justify : Justify) (line : List Char)
    : List Char :=
  match justify with
  | .none => truncate limit ellipsis line
  | .left => padRight limit (truncate limit ellipsis line)
  | .center =>
      let text := truncate limit ellipsis (Text.stripRight line)
      padRight limit (List.replicate ((limit - width text) / 2) ' ' ++ text)
  | .right =>
      let text := truncate limit ellipsis (Text.stripRight line)
      List.replicate (limit - width text) ' ' ++ text

/-- The lines of a text in a number of columns. Long words are cut, or else end in an
ellipsis.
-/
def wrap (limit : Nat) (ellipsis : Bool) (justify : Justify) (text : List Char)
    : List (List Char) :=
  (Text.splitAt '\n' text).flatMap fun line =>
    let line := expandTabs line
    let offsets := breaks limit (!ellipsis) 0 0 (words line.length line)
    (cutAt 0 line offsets).map fun part =>
      justifyLine limit ellipsis justify (stripEnd limit part)

/-- A text as it is printed by itself. -/
def paragraph (text : List Char) : String :=
  String.ofList ((wrap terminalWidth false .none (sanitize text)).flatMap (· ++ ['\n']))

end LiteralEnum.Console
