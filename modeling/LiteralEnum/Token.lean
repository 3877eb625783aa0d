import LiteralEnum.Text.Quoted

/-! Places in a source, and the tokens of the declaration language. -/

namespace LiteralEnum

/-- A line and a column, both counted from one. A made-up token may stand anywhere. -/
structure Position where
  line : Int
  column : Int
deriving Repr, DecidableEq, Inhabited

/-- The first place of a source. -/
def Position.start : Position := ⟨1, 1⟩

/-- The place after a character that stands here. -/
def Position.advance (position : Position) (c : Char) : Position :=
  if c = '\n' then ⟨position.line + 1, 1⟩ else ⟨position.line, position.column + 1⟩

/-- The place after a text that starts here. -/
def Position.advanceOver (position : Position) (text : List Char) : Position :=
  text.foldl Position.advance position

inductive Token.Kind where
  | string
  | identifier
  | block
  | importWord
  | equals
  | docComment
  | newline
  | endOfSource
deriving Repr, DecidableEq, Inhabited

/-- The name of a kind in messages. -/
def Token.Kind.label : Token.Kind → String
  | .string => "STRING"
  | .identifier => "IDENTIFIER"
  | .block => "BLOCK"
  | .importWord => "IMPORT"
  | .equals => "EQUALS"
  | .docComment => "DOC_COMMENT"
  | .newline => "NEWLINE"
  | .endOfSource => "EOF"

/-- A kind, the text that the lexeme stands for, and the place where the lexeme starts. -/
structure Token where
  kind : Token.Kind
  value : String
  position : Position
deriving Repr, DecidableEq, Inhabited

/-- The end of a token list that has no end of its own. -/
def Token.missingEnd : Token := ⟨.endOfSource, "", ⟨0, 0⟩⟩

/-- A token for debugging output. -/
def Token.describe (token : Token) : String :=
  s!"Token({token.kind.label}, {Text.quoted token.value}, "
    ++ s!"L{token.position.line}:{token.position.column})"

end LiteralEnum
