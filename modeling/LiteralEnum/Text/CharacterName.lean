import LiteralEnum.Text.CharacterName.Alias
import LiteralEnum.Text.CharacterName.Alphabetic
import LiteralEnum.Text.CharacterName.Scripts
import LiteralEnum.Text.CharacterName.Supplementary
import LiteralEnum.Text.CharacterName.Symbols
import LiteralEnum.Text.Ranges

/-! Characters by name. A table lists names in the order of their code points. Each entry
is a mark that tells how many characters the name shares with the one before it, and the
rest of the name; a code point between commas stands where the sequence jumps.
-/

namespace LiteralEnum.Text

namespace CharacterName

/-- The marks for zero, one, two, … shared characters. None of them occurs in a name. -/
def marks : List Char :=
  "abcdefghijklmnopqrstuvwxyz!#$%&()*+./:;<=>?@[]^_|~".toList

def isNameCharacter (c : Char) : Bool := c.isUpper || c.isDigit || c = ' ' || c = '-'

/-- The value of an upper case hexadecimal number. -/
def hexValue (digits : List Char) : Nat :=
  digits.foldl (fun value c => value * 16 + (c.toNat - if c.isDigit then 48 else 55)) 0

/-- The code point that a table gives to a name; `previous` is the name before the entries
that are left, and `code` the next code point.
-/
def search? (wanted : List Char) (fuel code : Nat) (previous : List Char)
    : List Char → Option Nat
  | [] => none
  | mark :: rest =>
      match fuel with
      | 0 => none
      | fuel + 1 =>
          if mark = ',' then
            let digits := rest.takeWhile (· ≠ ',')
            search? wanted fuel (hexValue digits) [] (rest.drop (digits.length + 1))
          else
            let ending := rest.takeWhile isNameCharacter
            let name := previous.take (marks.idxOf mark) ++ ending
            if name = wanted then some code
            else search? wanted fuel (code + 1) name (rest.drop ending.length)

def searchTable? (wanted : List Char) (table : List String) : Option Nat :=
  let text := table.flatMap String.toList
  search? wanted text.length 0 [] text

/-- Ideographs that are named by their code points in a fixed form. -/
def unifiedIdeographs : Ranges :=
  [(0x3400, 0x4DBF), (0x4E00, 0x9FFF), (0x20000, 0x2A6DF), (0x2A700, 0x2B738),
   (0x2B740, 0x2B81D), (0x2B820, 0x2CEA1), (0x2CEB0, 0x2EBE0), (0x30000, 0x3134A)]

/-- Other characters that are named by their code points. -/
def numberedCharacters : List (String × Ranges) :=
  [("CJK COMPATIBILITY IDEOGRAPH-", [(0xF900, 0xFA6D), (0xFA70, 0xFAD9), (0x2F800, 0x2FA1D)]),
   ("KHITAN SMALL SCRIPT CHARACTER-", [(0x18B00, 0x18CD5)]),
   ("NUSHU CHARACTER-", [(0x1B170, 0x1B2FB)])]

/-- The code point at the end of a name, in upper case hexadecimal digits. -/
def numberBehind? (start : String) (name : List Char) : Option (List Char × Nat) :=
  if start.toList.isPrefixOf name then
    let digits := name.drop start.length
    if digits.all (fun c => c.isDigit || ('A' ≤ c && c ≤ 'F')) then some (digits, hexValue digits)
    else none
  else none

def unifiedIdeograph? (name : List Char) : Option Nat :=
  (numberBehind? "CJK UNIFIED IDEOGRAPH-" name).bind fun (digits, code) =>
    if (digits.length = 4 ∨ digits.length = 5) ∧ unifiedIdeographs.contains code then some code
    else none

def numberedCharacter? (name : List Char) : Option Nat :=
  numberedCharacters.findSome? fun (start, ranges) =>
    (numberBehind? start name).bind fun (digits, code) =>
      if digits.head? ≠ some '0' ∧ ranges.contains code then some code else none

def leadingConsonants : List String :=
  ["G", "GG", "N", "D", "DD", "R", "M", "B", "BB", "S", "SS", "", "J", "JJ", "C", "K", "T", "P",
    "H"]

def vowels : List String :=
  ["A", "AE", "YA", "YAE", "EO", "E", "YEO", "YE", "O", "WA", "WAE", "OE", "YO", "U", "WEO", "WE",
   "WI", "YU", "EU", "YI", "I"]

def finalConsonants : List String :=
  ["", "G", "GG", "GS", "N", "NJ", "NH", "D", "L", "LG", "LM", "LB", "LS", "LT", "LP", "LH", "M",
   "B", "BS", "S", "SS", "NG", "J", "C", "K", "T", "P", "H"]

/-- The index of the longest of the given sounds at the start of a text, and the rest. -/
def takeSound? (sounds : List String) (text : List Char) : Option (Nat × List Char) :=
  let indexed := sounds.zipIdx.filter fun (sound, _) => sound.toList.isPrefixOf text
  let longest := indexed.foldl (fun best (sound, index) => match best with
    | some (length, _) => if length < sound.length then some (sound.length, index) else best
    | none => some (sound.length, index)) (none : Option (Nat × Nat))
  longest.map fun (length, index) => (index, text.drop length)

/-- A Hangul syllable is named by its sounds. -/
def hangulSyllable? (name : List Char) : Option Nat :=
  let start := "HANGUL SYLLABLE "
  if start.toList.isPrefixOf name then
    (takeSound? leadingConsonants (name.drop start.length)).bind fun (first, rest) =>
    (takeSound? vowels rest).bind fun (second, rest) =>
    (takeSound? finalConsonants rest).bind fun (third, rest) =>
      if rest.isEmpty then some (0xAC00 + (first * 21 + second) * 28 + third) else none
  else none

/-- Variation selectors have short names with their numbers. -/
def variationSelectors : List (String × Nat) :=
  (List.range 256).map fun index =>
    (s!"VS{index + 1}", if index < 16 then 0xFE00 + index else 0xE0100 + (index - 16))

def alias? (name : List Char) : Option Nat :=
  let wanted := String.ofList name
  ((aliases.find? fun entry => entry.2 = wanted).map (·.1)).orElse fun _ =>
    (variationSelectors.find? fun entry => entry.1 = wanted).map (·.2)

end CharacterName

open CharacterName in
/-- The character with a name. Letters count in either case, but not in the fixed forms of
names of syllables and unified ideographs.
-/
def characterNamed? (name : List Char) : Option Nat :=
  let upper := name.map Char.toUpper
  (hangulSyllable? name).orElse fun _ =>
  (unifiedIdeograph? name).orElse fun _ =>
  (numberedCharacter? upper).orElse fun _ =>
  (alias? upper).orElse fun _ =>
  [alphabeticNames, symbolsNames, scriptsNames, supplementaryNames].findSome? (searchTable? upper)

end LiteralEnum.Text
