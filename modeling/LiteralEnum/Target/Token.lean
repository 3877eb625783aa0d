import LiteralEnum.Token.Lexer
import LiteralEnum.Text.Name

/-! The tokens of a Python text as source tools see them: comments and blank lines are
tokens, a character that starts no token is one by itself, and a text can end in the
middle of a statement.
-/

namespace LiteralEnum.Target

inductive Token.Kind where
  | name
  | number
  | string
  | operator
  | comment
  | blankLine
  | newline
  | indent
  | dedent
  | error
  | endOfText
deriving Repr, DecidableEq

structure Token where
  kind : Token.Kind
  text : List Char
deriving Repr, DecidableEq

/-- Why the tokens of a text stop before its end. -/
inductive Token.Failure where
  | openString
  | openStatement
  | badDedent
deriving Repr, DecidableEq

/-- The tokens that could be read, and what stopped the reading. -/
structure Tokens where
  tokens : List Token
  failure : Option Token.Failure
deriving Repr, DecidableEq

-----------------------------------------------------------------------------------------
-- Brackets
-----------------------------------------------------------------------------------------

def isOpeningBracket (c : Char) : Bool := c = '(' || c = '[' || c = '\x7b'

def isClosingBracket (c : Char) : Bool := c = ')' || c = ']' || c = '\x7d'

/-- The bracket that closes an opening one. -/
def closingBracket (c : Char) : Char :=
  if c = '(' then ')' else if c = '[' then ']' else '\x7d'

/-- The text is one opening bracket. -/
def isOpeningText : List Char → Bool
  | [c] => isOpeningBracket c
  | _ => false

/-- The text is one closing bracket. -/
def isClosingText : List Char → Bool
  | [c] => isClosingBracket c
  | _ => false

-----------------------------------------------------------------------------------------
-- Numbers
-----------------------------------------------------------------------------------------

/-- Digits, each with at most one underscore before it, and what follows. -/
def spanMoreDigits (isDigit : Char → Bool) : List Char → List Char × List Char
  | '_' :: c :: rest =>
      if isDigit c then
        let (digits, others) := spanMoreDigits isDigit rest
        ('_' :: c :: digits, others)
      else ([], '_' :: c :: rest)
  | c :: rest =>
      if isDigit c then
        let (digits, others) := spanMoreDigits isDigit rest
        (c :: digits, others)
      else ([], c :: rest)
  | [] => ([], [])

/-- A digit and more digits, with single underscores between them; empty if there is no
digit.
-/
def spanDigits (isDigit : Char → Bool) : List Char → List Char × List Char
  | c :: rest =>
      if isDigit c then
        let (digits, others) := spanMoreDigits isDigit rest
        (c :: digits, others)
      else ([], c :: rest)
  | [] => ([], [])

def isHexDigit (c : Char) : Bool :=
  c.isDigit || ('a' ≤ c && c ≤ 'f') || ('A' ≤ c && c ≤ 'F')

def isOctalDigit (c : Char) : Bool := '0' ≤ c && c ≤ '7'

def isBinaryDigit (c : Char) : Bool := c = '0' || c = '1'

/-- The exponent of a decimal number; empty if there is none. -/
def spanExponent : List Char → List Char × List Char
  | mark :: rest =>
      if mark = 'e' ∨ mark = 'E' then
        match rest with
        | sign :: more =>
            if sign = '+' ∨ sign = '-' then
              match spanDigits Char.isDigit more with
              | ([], _) => ([], mark :: rest)
              | (digits, others) => (mark :: sign :: digits, others)
            else match spanDigits Char.isDigit rest with
              | ([], _) => ([], mark :: rest)
              | (digits, others) => (mark :: digits, others)
        | [] => ([], [mark])
      else ([], mark :: rest)
  | [] => ([], [])

/-- A number with a point or an exponent. -/
def spanFloat? (text : List Char) : Option (List Char × List Char) :=
  let (whole, rest) := spanDigits Char.isDigit text
  match rest with
  | '.' :: more =>
      let (fraction, others) := spanDigits Char.isDigit more
      if whole.isEmpty && fraction.isEmpty then none
      else
        let (exponent, others) := spanExponent others
        some (whole ++ '.' :: fraction ++ exponent, others)
  | _ =>
      if whole.isEmpty then none
      else match spanExponent rest with
        | ([], _) => none
        | (exponent, others) => some (whole ++ exponent, others)

/-- A number with a letter for its base. -/
def spanBased? (lower upper : Char) (isDigit : Char → Bool)
    : List Char → Option (List Char × List Char)
  | '0' :: mark :: rest =>
      if mark = lower ∨ mark = upper then
        match spanMoreDigits isDigit rest with
        | ([], _) => none
        | (digits, others) => some ('0' :: mark :: digits, others)
      else none
  | _ => none

/-- A whole number; one that starts with zero has only zeros. -/
def spanInteger? (text : List Char) : Option (List Char × List Char) :=
  (spanBased? 'x' 'X' isHexDigit text).orElse fun _ =>
  (spanBased? 'b' 'B' isBinaryDigit text).orElse fun _ =>
  (spanBased? 'o' 'O' isOctalDigit text).orElse fun _ =>
  match text with
  | '0' :: rest =>
      let (zeros, others) := spanMoreDigits (· = '0') rest
      some ('0' :: zeros, others)
  | _ => match spanDigits Char.isDigit text with
      | ([], _) => none
      | found => some found

/-- A number followed by the mark of an imaginary part. -/
def addImaginary? : List Char × List Char → Option (List Char × List Char)
  | (number, c :: rest) => if c = 'j' ∨ c = 'J' then some (number ++ [c], rest) else none
  | (_, []) => none

/-- The number at the start of a text, and what follows it. -/
def spanNumber? (text : List Char) : Option (List Char × List Char) :=
  let digits := spanDigits Char.isDigit text
  let plainImaginary := if digits.1.isEmpty then none else addImaginary? digits
  plainImaginary.orElse fun _ =>
  ((spanFloat? text).bind addImaginary?).orElse fun _ =>
  (spanFloat? text).orElse fun _ => spanInteger? text

-----------------------------------------------------------------------------------------
-- Strings
-----------------------------------------------------------------------------------------

/-- Letters that may stand before a string, in any case. -/
def stringPrefixes : List (List Char) :=
  [['b', 'r'], ['r', 'b'], ['f', 'r'], ['r', 'f'], ['b'], ['r'], ['u'], ['f'], []]

/-- The letters before a quote, the quote, and what follows it. -/
def openQuote? (text : List Char) : Option (List Char × Char × List Char) :=
  let letters := text.takeWhile Char.isAlpha
  match text.drop letters.length with
  | quote :: rest =>
      if (quote = '\'' || quote = '"') && stringPrefixes.contains (letters.map Char.toLower) then
        some (letters, quote, rest)
      else none
  | [] => none

/-- The start of a string in three quotes, with the quote. -/
def openTriple? (text : List Char) : Option (List Char × Char × List Char) :=
  match openQuote? text with
  | some (letters, quote, second :: third :: rest) =>
      if second = quote ∧ third = quote then some (letters ++ [quote, quote, quote], quote, rest)
      else none
  | _ => none

/-- How a string in single quotes goes on to the end of its line. -/
inductive LineString where
  | closed (text rest : List Char)
  | continued (text rest : List Char)
  | broken
deriving Repr, DecidableEq

/-- A string after its opening quote. It ends at the quote, or goes on behind a backslash
at the end of the line. The text read so far is given last character first.
-/
def scanLineString (quote : Char) (read : List Char) : List Char → LineString
  | '\\' :: '\n' :: rest => .continued (('\n' :: '\\' :: read).reverse) rest
  | '\\' :: '\r' :: '\n' :: rest => .continued (('\n' :: '\r' :: '\\' :: read).reverse) rest
  | '\\' :: c :: rest => scanLineString quote (c :: '\\' :: read) rest
  | ['\\'] => .broken
  | c :: rest =>
      if c = quote then .closed ((c :: read).reverse) rest
      else if c = '\n' then .broken
      else scanLineString quote (c :: read) rest
  | [] => .broken

/-- The rest of a string that began on an earlier line, up to its closing quote. A
backslash takes the next character with it, unless the line ends there.
-/
def closeSingle? (quote : Char) (read : List Char) : List Char → Option (List Char × List Char)
  | '\\' :: c :: rest => if c = '\n' then none else closeSingle? quote (c :: '\\' :: read) rest
  | ['\\'] => none
  | c :: rest =>
      if c = quote then some ((c :: read).reverse, rest) else closeSingle? quote (c :: read) rest
  | [] => none

/-- The rest of a string in three quotes, up to the closing quotes, within one line. -/
def closeTriple? (quote : Char) (read : List Char) : List Char → Option (List Char × List Char)
  | '\\' :: c :: rest => if c = '\n' then none else closeTriple? quote (c :: '\\' :: read) rest
  | ['\\'] => none
  | c :: rest =>
      if c = quote ∧ rest.take 2 = [quote, quote] then
        some ((quote :: quote :: c :: read).reverse, rest.drop 2)
      else closeTriple? quote (c :: read) rest
  | [] => none

-----------------------------------------------------------------------------------------
-- Tokens within a line
-----------------------------------------------------------------------------------------

/-- Operators and delimiters, longer ones first. -/
def operators : List (List Char) :=
  [['*', '*', '='], ['/', '/', '='], ['>', '>', '='], ['<', '<', '='], ['.', '.', '.'],
   ['!', '='], ['%', '='], ['&', '='], ['*', '*'], ['*', '='], ['+', '='], ['-', '='], ['-', '>'],
   ['/', '/'], ['/', '='], [':', '='], ['<', '<'], ['<', '='], ['=', '='], ['>', '='], ['>', '>'],
   ['@', '='], ['^', '='], ['|', '='],
   ['%'], ['&'], ['('], [')'], ['*'], ['+'], [','], ['-'], ['.'], ['/'], [':'], [';'], ['<'], ['='],
   ['>'], ['@'], ['['], [']'], ['^'], ['\x7b'], ['|'], ['\x7d'], ['~']]

def operatorAt? (text : List Char) : Option (List Char × List Char) :=
  (operators.find? (·.isPrefixOf text)).map fun operator => (operator, text.drop operator.length)

/-- What stands at a place of a line, with the rest of the line. -/
inductive Piece where
  | nothing
  | continuation (rest : List Char)
  | tripleQuote (opening : List Char) (quote : Char) (rest : List Char)
  | openLine (text : List Char) (quote : Char) (rest : List Char)
  | token (kind : Token.Kind) (text rest : List Char)
deriving Repr, DecidableEq

def stringPiece? (text : List Char) : Option Piece :=
  match openQuote? text with
  | some (letters, quote, rest) =>
      match scanLineString quote (quote :: letters.reverse) rest with
      | .closed read others => some (.token .string read others)
      | .continued read others => some (.openLine read quote others)
      | .broken => none
  | none => none

/-- A word, which is a name unless it starts with a character that starts no name. -/
def wordPiece? : List Char → Option Piece
  | c :: rest =>
      if Lexer.isWordPart c then
        let word := c :: rest.takeWhile Lexer.isWordPart
        let kind := if Text.isNameStart c then Token.Kind.name else .operator
        some (.token kind word (rest.dropWhile Lexer.isWordPart))
      else none
  | [] => none

def lineEndPiece? : List Char → Option Piece
  | '\\' :: '\n' :: rest => some (.continuation rest)
  | '\\' :: '\r' :: '\n' :: rest => some (.continuation rest)
  | '\r' :: '\n' :: rest => some (.token .newline ['\r', '\n'] rest)
  | '\n' :: rest => some (.token .newline ['\n'] rest)
  | _ => none

/-- The piece at a place where no blank stands; none if no token starts there. -/
def pieceAt? (text : List Char) : Option Piece :=
  match text with
  | [] => some .nothing
  | '#' :: _ =>
      let isComment := fun c => c ≠ '\r' && c ≠ '\n'
      some (.token .comment (text.takeWhile isComment) (text.dropWhile isComment))
  | _ =>
      (lineEndPiece? text).orElse fun _ =>
      ((openTriple? text).map fun (opening, quote, rest) =>
        Piece.tripleQuote opening quote rest).orElse fun _ =>
      ((spanNumber? text).map fun (number, rest) => Piece.token .number number rest).orElse fun _ =>
      ((operatorAt? text).map fun (operator, rest) =>
        Piece.token .operator operator rest).orElse fun _ =>
      (stringPiece? text).orElse fun _ => wordPiece? text

def isSpacing (c : Char) : Bool := c = ' ' || c = '\t' || c = '\x0c'

/-- A string that goes on in the next line. -/
structure OpenString where
  text : List Char
  quote : Char
  isTriple : Bool
deriving Repr, DecidableEq

/-- What one line hands on to the next. -/
structure LineState where
  /-- Opening brackets less closing ones. -/
  depth : Int := 0
  /-- The line ended in a backslash. -/
  continued : Bool := false
  pending : Option OpenString := none
  /-- The columns of the open blocks, innermost first, without the outermost. -/
  indents : List Nat := []
deriving Repr, DecidableEq

/-- The depth behind an operator. -/
def nextDepth (depth : Int) (text : List Char) : Int :=
  if isOpeningText text then depth + 1
  else if isClosingText text then depth - 1
  else depth

/-- The tokens of the rest of a line. Each step takes at least one character, so that the
length of the line is fuel enough.
-/
def scanRest (state : LineState) (fuel : Nat) (text : List Char) : List Token × LineState :=
  match fuel, text with
  | 0, _ => ([], state)
  | _, [] => ([], state)
  | fuel + 1, c :: rest =>
      match pieceAt? ((c :: rest).dropWhile isSpacing) with
      | some .nothing => ([], state)
      | some (.continuation others) => scanRest { state with continued := true } fuel others
      | some (.tripleQuote opening quote others) =>
          match closeTriple? quote opening.reverse others with
          | some (read, others) => add ⟨.string, read⟩ (scanRest state fuel others)
          | none => ([], { state with pending := some ⟨opening ++ others, quote, true⟩ })
      | some (.openLine read quote others) =>
          ([], { state with pending := some ⟨read ++ others, quote, false⟩ })
      | some (.token .operator operator others) =>
          add ⟨.operator, operator⟩
            (scanRest { state with depth := nextDepth state.depth operator } fuel others)
      | some (.token .newline newline others) =>
          add ⟨if 0 < state.depth then .blankLine else .newline, newline⟩
            (scanRest state fuel others)
      | some (.token kind word others) => add ⟨kind, word⟩ (scanRest state fuel others)
      | none => add ⟨.error, [c]⟩ (scanRest state fuel rest)
where
  add (token : Token) (found : List Token × LineState) : List Token × LineState :=
    (token :: found.1, found.2)

def scanLineFrom (state : LineState) (text : List Char) : List Token × LineState :=
  scanRest state text.length text

-----------------------------------------------------------------------------------------
-- Lines
-----------------------------------------------------------------------------------------

/-- The lines of a text, each with its line feed. -/
def linesWithBreaks : List Char → List (List Char)
  | [] => []
  | '\n' :: rest => ['\n'] :: linesWithBreaks rest
  | c :: rest => match linesWithBreaks rest with
      | line :: others => (c :: line) :: others
      | [] => [[c]]

/-- The column behind the spacing at the start of a line, and the rest. A tab goes to the
next multiple of eight, a form feed to the first column.
-/
def measureIndent (column : Nat) : List Char → Nat × List Char
  | ' ' :: rest => measureIndent (column + 1) rest
  | '\t' :: rest => measureIndent ((column / 8 + 1) * 8) rest
  | '\x0c' :: rest => measureIndent 0 rest
  | rest => (column, rest)

/-- Closes the blocks that lie deeper than a column. -/
def closeBlocks (column : Nat) : List Nat → Option (List Token × List Nat)
  | [] => some ([], [])
  | inner :: outer =>
      if inner ≤ column then some ([], inner :: outer)
      else if column = 0 ∨ column ∈ outer then
        (closeBlocks column outer).map fun (tokens, left) => (⟨.dedent, []⟩ :: tokens, left)
      else none

def isBreak (c : Char) : Bool := c = '\r' || c = '\n'

def dropBreaks (text : List Char) : List Char := (text.reverse.dropWhile isBreak).reverse

/-- What reading a line comes to. -/
inductive LineResult where
  /-- The line has nothing but spacing, which only a last line can. -/
  | finished
  | failed (failure : Token.Failure)
  | line (tokens : List Token) (state : LineState)
deriving Repr, DecidableEq

/-- A line that starts a statement. -/
def scanStatementLine (state : LineState) (line : List Char) : LineResult :=
  let (column, body) := measureIndent 0 line
  match body with
  | [] => .finished
  | first :: _ =>
      if first = '#' then
        let comment := dropBreaks body
        .line [⟨.comment, comment⟩, ⟨.blankLine, body.drop comment.length⟩] state
      else if isBreak first then .line [⟨.blankLine, body⟩] state
      else
        let current := state.indents.headD 0
        if current < column then
          let (tokens, next) := scanLineFrom { state with indents := column :: state.indents } body
          .line (⟨.indent, line.take (line.length - body.length)⟩ :: tokens) next
        else match closeBlocks column state.indents with
          | none => .failed .badDedent
          | some (dedents, indents) =>
              let (tokens, next) := scanLineFrom { state with indents } body
              .line (dedents ++ tokens) next

/-- The end of the line is escaped. -/
def endsEscaped (line : List Char) : Bool :=
  match line.reverse with
  | '\n' :: '\\' :: _ => true
  | '\n' :: '\r' :: '\\' :: _ => true
  | _ => false

/-- A line inside a string. -/
def scanStringLine (state : LineState) (string : OpenString) (line : List Char) : LineResult :=
  let closing := if string.isTriple then closeTriple? string.quote [] line
    else closeSingle? string.quote [] line
  match closing with
  | some (read, rest) =>
      let (tokens, next) := scanLineFrom { state with pending := none } rest
      .line (⟨.string, string.text ++ read⟩ :: tokens) next
  | none =>
      if !string.isTriple && !endsEscaped line then
        .line [⟨.error, string.text ++ line⟩] { state with pending := none }
      else .line [] { state with pending := some { string with text := string.text ++ line } }

def scanLine (state : LineState) (line : List Char) : LineResult :=
  match state.pending with
  | some string => scanStringLine state string line
  | none =>
      if state.depth = 0 ∧ !state.continued then scanStatementLine state line
      else
        let (tokens, next) := scanLineFrom { state with continued := false } line
        .line tokens next

/-- The tokens behind the last line. A line break is added to a last line that has none
and is not a comment.
-/
def closingTokens (state : LineState) (last : List Char) : List Token :=
  let addsNewline := match last.getLast? with
    | some c => !isBreak c && (Text.strip last).head? ≠ some '#'
    | none => false
  (if addsNewline then [⟨.newline, []⟩] else [])
    ++ state.indents.map (fun _ => ⟨.dedent, []⟩) ++ [⟨.endOfText, []⟩]

/-- The tokens of lines, after a line that has been read. -/
def scanLines (state : LineState) (last : List Char) : List (List Char) → Tokens
  | [] =>
      if state.pending.isSome then ⟨[], some .openString⟩
      else if state.depth = 0 ∧ !state.continued then ⟨closingTokens state last, none⟩
      else ⟨[], some .openStatement⟩
  | line :: rest =>
      match scanLine state line with
      | .finished => ⟨closingTokens state last, none⟩
      | .failed failure => ⟨[], some failure⟩
      | .line tokens next =>
          let others := scanLines next line rest
          ⟨tokens ++ others.tokens, others.failure⟩

/-- The tokens of a text. -/
def tokens (text : List Char) : Tokens :=
  scanLines {} [] (linesWithBreaks text)

-----------------------------------------------------------------------------------------
-- Brackets around a text
-----------------------------------------------------------------------------------------

def Token.isOpening (token : Token) : Bool :=
  token.kind = .operator && isOpeningText token.text

def Token.isClosing (token : Token) : Bool :=
  token.kind = .operator && isClosingText token.text

/-- The token is no more than layout. -/
def Token.isLayout (token : Token) : Bool :=
  token.kind = .newline || token.kind = .blankLine || token.kind = .endOfText

/-- A token other than layout follows a bracket that brings the depth to zero. -/
def closesEarly (depth : Int) (closed : Bool) : List Token → Bool
  | [] => false
  | token :: rest =>
      if closed && !token.isLayout then true
      else if token.isOpening then closesEarly (depth + 1) closed rest
      else if token.isClosing then closesEarly (depth - 1) (depth - 1 = 0) rest
      else closesEarly depth closed rest

/-- In parentheses, the text closes the opening one before its end. -/
def escapesParentheses (text : List Char) : Bool :=
  closesEarly 0 false (tokens ('(' :: text ++ [')'])).tokens

end LiteralEnum.Target
