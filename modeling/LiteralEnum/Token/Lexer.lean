import LiteralEnum.Text.Blank
import LiteralEnum.Text.Letter
import LiteralEnum.Text.Numeral
import LiteralEnum.Token

/-! The tokens of a source. The lexer reads one character at a time; its mode tells what
the character is inside of, and holds the text collected so far, last character first.
-/

namespace LiteralEnum

inductive LexError.Cause where
  | unexpected (c : Char)
  | unknownEscape (c : Char)
  | brokenString
  | unclosedString
  | unclosedBlock
deriving Repr, DecidableEq

/-- What is wrong, and where the wrong character or the unfinished lexeme starts. -/
structure LexError where
  cause : LexError.Cause
  position : Position
deriving Repr, DecidableEq

def LexError.reason (error : LexError) : String :=
  match error.cause with
  | .unexpected c => s!"Unexpected character: {Text.quoted (String.singleton c)}"
  | .unknownEscape c => "Unknown escape sequence: \\" ++ String.singleton c
  | .brokenString => "Unterminated string (newline before closing quote)"
  | .unclosedString => "Unterminated string (hit EOF)"
  | .unclosedBlock => "Unterminated '\x7b' block (hit EOF)"

namespace Lexer

inductive Mode where
  /-- Between lexemes. -/
  | gap
  /-- After a number sign, before it is known which kind of comment it starts. -/
  | hash (start : Position)
  | comment
  | doc (start : Position) (text : List Char)
  | string (start : Position) (text : List Char)
  | escape (start : Position) (text : List Char) (backslash : Position)
  | block (start : Position) (text : List Char) (depth : Nat)
  /-- In a block, after an opening quote. -/
  | quoted (start : Position) (text : List Char) (depth : Nat) (quote : Char)
  | quotedEscape (start : Position) (text : List Char) (depth : Nat) (quote : Char)
  | word (start : Position) (text : List Char)
deriving Repr, DecidableEq

-----------------------------------------------------------------------------------------
-- Lexemes
-----------------------------------------------------------------------------------------

def isWordStart (c : Char) : Bool := Text.isLetter c || c = '_'

def isWordPart (c : Char) : Bool := Text.isLetter c || Text.isNumeral c || c = '_'

/-- The character that an escape in a string stands for. -/
def escaped? : Char → Option Char
  | 'n' => some '\n'
  | 't' => some '\t'
  | 'r' => some '\r'
  | '0' => some '\x00'
  | '\\' => some '\\'
  | '"' => some '"'
  | _ => none

/-- The text of a doc comment: without the carriage returns at its end, then without one
space at its start.
-/
def docText (text : List Char) : List Char :=
  match (text.reverse.dropWhile (· = '\r')).reverse with
  | ' ' :: rest => rest
  | rest => rest

def newlineToken (position : Position) : Token := ⟨.newline, "\\n", position⟩

def equalsToken (position : Position) : Token := ⟨.equals, "=", position⟩

def stringToken (start : Position) (text : List Char) : Token :=
  ⟨.string, String.ofList text, start⟩

def docToken (start : Position) (text : List Char) : Token :=
  ⟨.docComment, String.ofList (docText text), start⟩

def blockToken (start : Position) (text : List Char) : Token :=
  ⟨.block, String.ofList (Text.strip text), start⟩

/-- A word is an identifier, unless it is the keyword. -/
def wordToken (start : Position) (text : List Char) : Token :=
  ⟨if text = ['i', 'm', 'p', 'o', 'r', 't'] then .importWord else .identifier,
    String.ofList text, start⟩

-----------------------------------------------------------------------------------------
-- One character
-----------------------------------------------------------------------------------------

/-- A character between lexemes. -/
def stepGap (position : Position) (c : Char) : Except LexError (List Token × Mode) :=
  if c = ' ' ∨ c = '\t' ∨ c = '\r' then .ok ([], .gap)
  else if c = '#' then .ok ([], .hash position)
  else if c = '\n' then .ok ([newlineToken position], .gap)
  else if c = '"' then .ok ([], .string position [])
  else if c = '\x7b' then .ok ([], .block position [] 1)
  else if isWordStart c then .ok ([], .word position [c])
  else if c = '=' then .ok ([equalsToken position], .gap)
  else .error ⟨.unexpected c, position⟩

/-- A character of a block, outside quotes. The brace that closes the block ends it. -/
def stepBlock (start : Position) (text : List Char) (depth : Nat) (c : Char)
    : List Token × Mode :=
  if c = '\'' ∨ c = '"' then ([], .quoted start (c :: text) depth c)
  else if c = '\x7b' then ([], .block start (c :: text) (depth + 1))
  else if c = '\x7d' then
    if depth ≤ 1 then ([blockToken start text.reverse], .gap)
    else ([], .block start (c :: text) (depth - 1))
  else ([], .block start (c :: text) depth)

/-- The tokens that a character completes, and the mode after it. -/
def step (position : Position) (mode : Mode) (c : Char) : Except LexError (List Token × Mode) :=
  match mode with
  | .gap => stepGap position c
  | .hash start =>
      if c = ':' then .ok ([], .doc start [])
      else if c = '\n' then .ok ([newlineToken position], .gap)
      else .ok ([], .comment)
  | .comment => if c = '\n' then .ok ([newlineToken position], .gap) else .ok ([], .comment)
  | .doc start text =>
      if c = '\n' then .ok ([docToken start text.reverse, newlineToken position], .gap)
      else .ok ([], .doc start (c :: text))
  | .string start text =>
      if c = '"' then .ok ([stringToken start text.reverse], .gap)
      else if c = '\\' then .ok ([], .escape start text position)
      else if c = '\n' then .error ⟨.brokenString, start⟩
      else .ok ([], .string start (c :: text))
  | .escape start text backslash =>
      match escaped? c with
      | some value => .ok ([], .string start (value :: text))
      | none => .error ⟨.unknownEscape c, backslash⟩
  | .block start text depth => .ok (stepBlock start text depth c)
  | .quoted start text depth quote =>
      if c = '\\' then .ok ([], .quotedEscape start (c :: text) depth quote)
      else if c = quote then .ok ([], .block start (c :: text) depth)
      else .ok ([], .quoted start (c :: text) depth quote)
  | .quotedEscape start text depth quote => .ok ([], .quoted start (c :: text) depth quote)
  | .word start text =>
      if isWordPart c then .ok ([], .word start (c :: text))
      else (stepGap position c).map fun (tokens, next) =>
        (wordToken start text.reverse :: tokens, next)

-----------------------------------------------------------------------------------------
-- Whole sources
-----------------------------------------------------------------------------------------

/-- The tokens that the end of the source completes. -/
def finish (position : Position) (mode : Mode) : Except LexError (List Token) :=
  let ending : Token := ⟨.endOfSource, "", position⟩
  match mode with
  | .gap | .hash _ | .comment => .ok [ending]
  | .doc start text => .ok [docToken start text.reverse, ending]
  | .word start text => .ok [wordToken start text.reverse, ending]
  | .string start _ | .escape start _ _ => .error ⟨.unclosedString, start⟩
  | .block start _ _ | .quoted start _ _ _ | .quotedEscape start _ _ _ =>
      .error ⟨.unclosedBlock, start⟩

/-- The tokens of the rest of a source, from a place and a mode on. -/
def run (position : Position) (mode : Mode) : List Char → Except LexError (List Token)
  | [] => finish position mode
  | c :: rest => do
      let (tokens, next) ← step position mode c
      let others ← run (position.advance c) next rest
      return tokens ++ others

end Lexer

/-- The tokens of a source, the end of the source last. -/
def Token.ofSource (source : String) : Except LexError (List Token) :=
  Lexer.run .start .gap source.toList

end LiteralEnum
