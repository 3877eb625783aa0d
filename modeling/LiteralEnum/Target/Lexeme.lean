import LiteralEnum.Target.Keyword
import LiteralEnum.Target.Token
import LiteralEnum.Text.Decomposition
import LiteralEnum.Text.Lines

/-! The lexemes of a Python module as its compiler sees them. Unlike the tokens of source
tools, they exist only for a text without any lexical error: brackets match, blocks are
indented consistently, strings and numbers are complete.
-/

namespace LiteralEnum.Target

/-- A lexeme; a name is in the form under which names are compared. -/
inductive Lexeme where
  | name (form : String)
  | keyword (word : String)
  | number (text : List Char)
  | string (text : List Char)
  | symbol (text : String)
  | newline
  | indent
  | dedent
deriving Repr, DecidableEq

namespace Lexeme

-----------------------------------------------------------------------------------------
-- Words and numbers
-----------------------------------------------------------------------------------------

/-- A character that the lexer takes into a word before it checks the word. -/
def isWordCharacter (c : Char) : Bool := c.isAlphanum || c = '_' || 128 ≤ c.toNat

def ofWord (text : List Char) : Lexeme :=
  let word := String.ofList text
  if isKeyword word then .keyword word else .name (Text.nameForm word)

/-- The word at the start of a text. A word beyond ASCII has to be a well-formed name. -/
def takeWord? (text : List Char) : Option (Lexeme × List Char) :=
  let word := text.takeWhile isWordCharacter
  if word.all (·.toNat < 128) || Text.isName word then
    some (ofWord word, text.drop word.length)
  else none

/-- Words that may follow a number without a blank. -/
def wordsBehindNumbers : List (List Char) :=
  [['a', 'n', 'd'], ['e', 'l', 's', 'e'], ['f', 'o', 'r'], ['i', 'f'], ['i', 'n'], ['i', 's'],
   ['o', 'r'], ['n', 'o', 't']]

/-- A number may end here. -/
def endsNumber (rest : List Char) : Bool :=
  wordsBehindNumbers.any (·.isPrefixOf rest) || !(rest.head?.any isWordCharacter)

/-- More digits after a digit. An underscore without a digit behind it is an error. -/
def takeMoreDigits? (isDigit : Char → Bool) (text : List Char) : Option (List Char × List Char) :=
  match spanMoreDigits isDigit text with
  | (_, '_' :: _) => none
  | found => some found

/-- The mark of an imaginary part, if present, and the end of the number. -/
def takeNumberEnd? (number rest : List Char) : Option (List Char × List Char) :=
  match rest with
  | c :: others =>
      if c = 'j' ∨ c = 'J' then
        if endsNumber others then some (number ++ [c], others) else none
      else if endsNumber rest then some (number, rest) else none
  | [] => some (number, [])

/-- The exponent, if present, and the end of the number. -/
def takeExponent? (number rest : List Char) : Option (List Char × List Char) :=
  match rest with
  | mark :: more =>
      if mark = 'e' ∨ mark = 'E' then
        match more with
        | c :: others =>
            if c = '+' ∨ c = '-' then
              if others.head?.any Char.isDigit then
                (takeMoreDigits? Char.isDigit others).bind fun (digits, others) =>
                  takeNumberEnd? (number ++ mark :: c :: digits) others
              else none
            else if c.isDigit then
              (takeMoreDigits? Char.isDigit more).bind fun (digits, others) =>
                takeNumberEnd? (number ++ mark :: digits) others
            else if endsNumber rest then some (number, rest) else none
        | [] => none
      else takeNumberEnd? number rest
  | [] => some (number, [])

/-- The digits behind a point, if present, and the end of the number. -/
def takeFraction? (number rest : List Char) : Option (List Char × List Char) :=
  if rest.head?.any Char.isDigit then
    (takeMoreDigits? Char.isDigit rest).bind fun (digits, others) =>
      takeExponent? (number ++ digits) others
  else takeExponent? number rest

/-- The end of a number that has a point, an exponent or the mark of an imaginary part
next.
-/
def takePointed? (number rest : List Char) : Option (List Char × List Char) :=
  match rest with
  | '.' :: others => takeFraction? (number ++ ['.']) others
  | _ => takeExponent? number rest

def continuesAsFloat (rest : List Char) : Bool :=
  rest.head?.any fun c => c = '.' || c = 'e' || c = 'E' || c = 'j' || c = 'J'

def takeBased? (mark : Char) (isDigit : Char → Bool) (text : List Char)
    : Option (List Char × List Char) :=
  match takeMoreDigits? isDigit text with
  | some ([], _) => none
  | some (digits, rest) => if endsNumber rest then some ('0' :: mark :: digits, rest) else none
  | none => none

/-- The number at the start of a text that starts with a digit. -/
def takeNumber? : List Char → Option (List Char × List Char)
  | '0' :: rest =>
      let mark := rest.headD ' '
      if mark = 'x' ∨ mark = 'X' then takeBased? mark isHexDigit rest.tail
      else if mark = 'o' ∨ mark = 'O' then takeBased? mark isOctalDigit rest.tail
      else if mark = 'b' ∨ mark = 'B' then takeBased? mark isBinaryDigit rest.tail
      else
        (takeMoreDigits? Char.isDigit rest).bind fun (digits, others) =>
          if continuesAsFloat others then takePointed? ('0' :: digits) others
          else if digits.all (fun c => c = '0' || c = '_') then
            takeNumberEnd? ('0' :: digits) others
          else none
  | first :: rest =>
      (takeMoreDigits? Char.isDigit rest).bind fun (digits, others) =>
        takePointed? (first :: digits) others
  | [] => none

-----------------------------------------------------------------------------------------
-- Strings and symbols
-----------------------------------------------------------------------------------------

/-- The rest of a string in single quotes, which a line end breaks unless it is escaped. -/
def closeString? (quote : Char) (read : List Char) : List Char → Option (List Char × List Char)
  | '\\' :: c :: rest => closeString? quote (c :: '\\' :: read) rest
  | c :: rest =>
      if c = quote then some ((c :: read).reverse, rest)
      else if c = '\n' ∨ c = '\\' then none
      else closeString? quote (c :: read) rest
  | [] => none

/-- The rest of a string in three quotes. -/
def closeLongString? (quote : Char) (read : List Char)
    : List Char → Option (List Char × List Char)
  | '\\' :: c :: rest => closeLongString? quote (c :: '\\' :: read) rest
  | c :: rest =>
      if c = quote ∧ rest.take 2 = [quote, quote] then
        some ((quote :: quote :: c :: read).reverse, rest.drop 2)
      else closeLongString? quote (c :: read) rest
  | [] => none

/-- The string at the start of a text: not a string, a broken one, or the string and the
rest.
-/
def takeString? (text : List Char) : Option (Option (List Char × List Char)) :=
  match openTriple? text with
  | some (opening, quote, rest) => some (closeLongString? quote opening.reverse rest)
  | none =>
      match openQuote? text with
      | some (letters, quote, rest) => some (closeString? quote (quote :: letters.reverse) rest)
      | none => none

/-- Symbols other than the brackets, longer ones first. -/
def symbols : List (List Char) :=
  operators.filter fun text => !(isOpeningText text || isClosingText text)

def takeSymbol? (text : List Char) : Option (Lexeme × List Char) :=
  (symbols.find? (·.isPrefixOf text)).map fun found =>
    (.symbol (String.ofList found), text.drop found.length)

-----------------------------------------------------------------------------------------
-- Lines and blocks
-----------------------------------------------------------------------------------------

/-- A column, counted with tabs to multiples of eight and with tabs as wide as a space. -/
structure Column where
  wide : Nat
  narrow : Nat
deriving Repr, DecidableEq

/-- The column behind the spacing at the start of a line. If the line is continued behind
spacing, the column before its first backslash counts, unless that is zero.
-/
def measure? (column : Column) (before : Nat) : List Char → Option (Column × List Char)
  | ' ' :: rest => measure? ⟨column.wide + 1, column.narrow + 1⟩ before rest
  | '\t' :: rest => measure? ⟨(column.wide / 8 + 1) * 8, column.narrow + 1⟩ before rest
  | '\x0c' :: rest => measure? ⟨0, 0⟩ before rest
  | '\\' :: '\n' :: c :: rest =>
      measure? column (if before = 0 then column.wide else before) (c :: rest)
  | '\\' :: _ => none
  | rest => some (if before = 0 then column else ⟨before, before⟩, rest)

/-- The most open blocks, and the most open brackets. -/
def maxBlocks : Nat := 99
def maxBrackets : Nat := 200

/-- Closes blocks until one starts at the column. -/
def closeTo? (column : Column) : List Column → Option (List Lexeme × List Column)
  | [] => if column = ⟨0, 0⟩ then some ([], []) else none
  | inner :: outer =>
      if column.wide < inner.wide then
        (closeTo? column outer).map fun (lexemes, left) => (.dedent :: lexemes, left)
      else if column = inner then some ([], inner :: outer)
      else none

/-- Opens or closes blocks at the start of a statement. -/
def changeBlocks? (column : Column) (blocks : List Column)
    : Option (List Lexeme × List Column) :=
  let current := blocks.headD ⟨0, 0⟩
  if current.wide < column.wide then
    if current.narrow < column.narrow ∧ blocks.length < maxBlocks then
      some ([.indent], column :: blocks)
    else none
  else closeTo? column blocks

/-- What is open at a place of a module. -/
structure Context where
  brackets : List Char := []
  blocks : List Column := []
deriving Repr, DecidableEq

/-- A text behind the comment at its start, if there is one. -/
def dropComment : List Char → List Char
  | '#' :: rest => rest.dropWhile (· ≠ '\n')
  | rest => rest

/-- The bracket at the start of a text. -/
def takeBracket? (context : Context) (c : Char) : Option Context :=
  if isOpeningBracket c then
    if context.brackets.length < maxBrackets then
      some { context with brackets := closingBracket c :: context.brackets }
    else none
  else match context.brackets with
    | expected :: outer => if c = expected then some { context with brackets := outer } else none
    | [] => none

/-- One lexeme within a line. -/
def takeLexeme? (context : Context) (text : List Char) : Option (Lexeme × Context × List Char) :=
  match takeString? text with
  | some found => found.map fun (text, rest) => (.string text, context, rest)
  | none =>
      match text with
      | [] => none
      | c :: rest =>
          if c.isDigit || (c = '.' && rest.head?.any Char.isDigit) then
            (if c = '.' then takeFraction? ['.'] rest else takeNumber? text).map
              fun (digits, others) => (.number digits, context, others)
          else if isWordCharacter c then
            (takeWord? text).map fun (word, others) => (word, context, others)
          else if isOpeningBracket c || isClosingBracket c then
            (takeBracket? context c).map fun next =>
              (.symbol (String.singleton c), next, rest)
          else (takeSymbol? text).map fun (lexeme, others) => (lexeme, context, others)

/-- The lexemes of the rest of a module. Each step but one at the start of a line takes a
character, so that twice the length is fuel enough.
-/
def scan? (fuel : Nat) (context : Context) (lineStart : Bool) (text : List Char)
    : Option (List Lexeme) :=
  match fuel with
  | 0 => none
  | fuel + 1 =>
      if lineStart then
        match measure? ⟨0, 0⟩ 0 text with
        | none => none
        | some (column, body) =>
            match body with
            | [] =>
                if context.brackets.isEmpty then
                  (changeBlocks? ⟨0, 0⟩ context.blocks).map (·.1)
                else none
            | c :: _ =>
                if c = '#' ∨ c = '\n' then
                  scan? fuel context true (dropComment body).tail
                else if context.brackets.isEmpty then
                  match changeBlocks? column context.blocks with
                  | none => none
                  | some (lexemes, blocks) =>
                      (scan? fuel { context with blocks } false body).map (lexemes ++ ·)
                else scan? fuel context false body
      else
        match dropComment (text.dropWhile isSpacing) with
        | [] => none
        | '\n' :: rest =>
            if context.brackets.isEmpty then (scan? fuel context true rest).map (.newline :: ·)
            else scan? fuel context true rest
        | '\\' :: '\n' :: c :: rest => scan? fuel context false (c :: rest)
        | body =>
            match takeLexeme? context body with
            | none => none
            | some (lexeme, next, rest) => (scan? fuel next false rest).map (lexeme :: ·)

/-- A text whose last line ends in a line feed. -/
def completeLine (text : List Char) : List Char :=
  if text.getLast? = some '\n' then text else text ++ ['\n']

/-- The lexemes of a module text, if it has no lexical error. All line breaks count as
line feeds.
-/
def ofText? (text : List Char) : Option (List Lexeme) :=
  if text.contains '\x00' then none
  else
    let lines := completeLine (Text.unifyBreaks text)
    scan? (2 * lines.length + 2) {} true lines

end Lexeme

end LiteralEnum.Target
