import LiteralEnum.Console.Emoji.Table
import LiteralEnum.Text.Blank

/-! Names of pictures between colons, which the terminal shows as the pictures. -/

namespace LiteralEnum.Console

namespace Emoji

def hexValue (digits : List Char) : Nat :=
  digits.foldl (fun value c =>
    value * 16 + if c.isDigit then c.toNat - 48 else c.toNat - 55) 0

/-- Characters whose code points are written with hyphens between them. -/
def readCodes (text : List Char) : List Char :=
  (text.splitOnP (· = '-')).map fun digits => Char.ofNat (hexValue digits)

/-- What follows a word that a text starts with. -/
def dropWord? : List Char → List Char → Option (List Char)
  | [], text => some text
  | c :: word, next :: text => if c = next then dropWord? word text else none
  | _ :: _, [] => none

/-- Looks for a name at the starts of entries; the number of characters is fuel enough. -/
def searchTable? (wanted : List Char) : Nat → List Char → Option (List Char)
  | 0, _ => none
  | _, [] => none
  | fuel + 1, text =>
      match dropWord? (wanted ++ ['=']) text with
      | some rest => some (readCodes (rest.takeWhile (· ≠ ' ')))
      | none => searchTable? wanted fuel ((text.dropWhile (· ≠ ' ')).drop 1)

def lowerChar (c : Char) : Char :=
  if 0xC0 ≤ c.toNat ∧ c.toNat ≤ 0xDE ∧ c.toNat ≠ 0xD7 then Char.ofNat (c.toNat + 32)
  else if c.toNat = 0x212A then 'k'
  else c.toLower

/-- The picture of a name, without regard to case. -/
def picture? (name : List Char) : Option (List Char) :=
  let table := nameTable.flatMap String.toList
  if name = [] then none else searchTable? (name.map lowerChar) table.length table

/-- The endings of names that ask for a form, and the selectors of the forms. -/
def forms : List (List Char × Char) :=
  [("-text".toList, '\uFE0E'), ("-emoji".toList, '\uFE0F')]

/-- A name without the ending that asks for a form, and the selector of the form. -/
def splitForm (code : List Char) : List Char × List Char :=
  match forms.find? fun form => form.1.isSuffixOf code with
  | some (ending, selector) => (code.take (code.length - ending.length), [selector])
  | none => (code, [])

/-- What stands between two colons. The first one has been taken. -/
def takeCode? (text : List Char) : Option (List Char × List Char) :=
  match text.span (fun c => c ≠ ':' && !Text.isBlank c) with
  | (code, ':' :: rest) => some (code, rest)
  | _ => none

/-- A code with its colons, or the picture if it has one. -/
def display (code : List Char) : List Char :=
  let (name, selector) := splitForm code
  match picture? name with
  | some picture => picture ++ selector
  | none => ':' :: code ++ [':']

/-- Replaces codes; the number of characters is fuel enough. -/
def replaceCodes : Nat → List Char → List Char
  | 0, text => text
  | _, [] => []
  | fuel + 1, c :: rest =>
      if c = ':' then
        match takeCode? rest with
        | some (code, after) => display code ++ replaceCodes fuel after
        | none => c :: replaceCodes fuel rest
      else c :: replaceCodes fuel rest

end Emoji

/-- The text with pictures for their names. -/
def showPictures (text : List Char) : List Char :=
  Emoji.replaceCodes text.length text

end LiteralEnum.Console
