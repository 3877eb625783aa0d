import LiteralEnum.Token.Lexer
import Mathlib.Data.List.DropRight

/-! Lexical decompositions of a source. A decomposition cuts the whole source into pieces:
gaps, which stand for nothing, and lexemes, each of which stands for one token. The pieces
carry what makes them well formed, so only their ends have to be compared.
-/

namespace LiteralEnum.Lexer

-----------------------------------------------------------------------------------------
-- Strings
-----------------------------------------------------------------------------------------

/-- The letters that may follow a backslash in a string, with what they stand for. -/
def escapes : List (Char × Char) :=
  [('n', '\n'), ('t', '\t'), ('r', '\r'), ('0', '\x00'), ('\\', '\\'), ('"', '"')]

/-- A character of a string: written as it is, or as an escape. -/
inductive StringItem where
  | plain (c : Char) (free : c ≠ '"' ∧ c ≠ '\\' ∧ c ≠ '\n')
  | escape (letter value : Char) (listed : (letter, value) ∈ escapes)

def StringItem.text : StringItem → List Char
  | .plain c _ => [c]
  | .escape letter _ _ => ['\\', letter]

/-- The character that an item stands for. -/
def StringItem.value : StringItem → Char
  | .plain c _ => c
  | .escape _ value _ => value

-----------------------------------------------------------------------------------------
-- Blocks
-----------------------------------------------------------------------------------------

/-- A part of a quoted run: a character, or a backslash and whatever follows it. -/
inductive QuotedItem (quote : Char) where
  | plain (c : Char) (free : c ≠ '\\' ∧ c ≠ quote)
  | escape (c : Char)

def QuotedItem.text {quote : Char} : QuotedItem quote → List Char
  | .plain c _ => [c]
  | .escape c => ['\\', c]

/-- What stands between two matching braces: characters other than braces and quotes,
bodies in braces of their own, and quoted runs, in which braces do not count.
-/
inductive Body where
  | empty
  | plain (c : Char) (free : c ≠ '\x7b' ∧ c ≠ '\x7d' ∧ c ≠ '\'' ∧ c ≠ '"') (rest : Body)
  | nested (inner rest : Body)
  | quoted (quote : Char) (isQuote : quote = '\'' ∨ quote = '"')
      (items : List (QuotedItem quote)) (rest : Body)

def Body.text : Body → List Char
  | .empty => []
  | .plain c _ rest => c :: rest.text
  | .nested inner rest => '\x7b' :: (inner.text ++ '\x7d' :: rest.text)
  | .quoted quote _ items rest =>
      quote :: (items.flatMap QuotedItem.text ++ quote :: rest.text)

/-- Two bodies one after the other are a body, by induction on the first. -/
theorem Body.exists_append (left right : Body)
    : ∃ body : Body, body.text = left.text ++ right.text := by
  induction left with
  | empty => exact ⟨right, rfl⟩
  | plain c free rest ih =>
      obtain ⟨body, text⟩ := ih
      exact ⟨.plain c free body, by simp [Body.text, text]⟩
  | nested inner rest _ ih =>
      obtain ⟨body, text⟩ := ih
      exact ⟨.nested inner body, by simp [Body.text, text]⟩
  | quoted quote isQuote items rest ih =>
      obtain ⟨body, text⟩ := ih
      exact ⟨.quoted quote isQuote items body, by simp [Body.text, text]⟩

/-- Characters that neither nest nor quote may stand before a body. -/
theorem Body.exists_plain {text : List Char}
    (free : ∀ c ∈ text, c ≠ '\x7b' ∧ c ≠ '\x7d' ∧ c ≠ '\'' ∧ c ≠ '"') (rest : Body)
    : ∃ body : Body, body.text = text ++ rest.text := by
  induction text with
  | nil => exact ⟨rest, rfl⟩
  | cons c others ih =>
      obtain ⟨body, text⟩ := ih fun other member => free other (List.mem_cons_of_mem c member)
      exact ⟨.plain c (free c List.mem_cons_self) body, by simp [Body.text, text]⟩

/-- A body with a space at each end is a body. -/
theorem Body.exists_spaced (inner : Body)
    : ∃ body : Body, body.text = ' ' :: (inner.text ++ [' ']) := by
  have free : ' ' ≠ '\x7b' ∧ ' ' ≠ '\x7d' ∧ ' ' ≠ '\'' ∧ ' ' ≠ '"' := by decide
  obtain ⟨body, text⟩ := inner.exists_append (.plain ' ' free .empty)
  exact ⟨.plain ' ' free body, by simp [Body.text, text]⟩

-----------------------------------------------------------------------------------------
-- Pieces
-----------------------------------------------------------------------------------------

/-- A piece of a source. The first two are gaps, the others are lexemes. -/
inductive Piece where
  | blank (c : Char) (isGap : c = ' ' ∨ c = '\t' ∨ c = '\r')
  /-- A plain comment, as the text after the number sign. -/
  | comment (text : List Char) (isPlain : text.head? ≠ some ':') (oneLine : '\n' ∉ text)
  | lineBreak
  /-- A doc comment, as the text after the colon. -/
  | doc (text : List Char) (oneLine : '\n' ∉ text)
  | string (items : List StringItem)
  | block (body : Body)
  | word (first : Char) (rest : List Char) (starts : isWordStart first = true)
      (continues : ∀ c ∈ rest, isWordPart c = true)
  | equals

def Piece.text : Piece → List Char
  | .blank c _ => [c]
  | .comment text _ _ => '#' :: text
  | .lineBreak => ['\n']
  | .doc text _ => '#' :: ':' :: text
  | .string items => '"' :: (items.flatMap StringItem.text ++ ['"'])
  | .block body => '\x7b' :: (body.text ++ ['\x7d'])
  | .word first rest _ _ => first :: rest
  | .equals => ['=']

/-- What a doc comment says: the text without the carriage returns at its end, and then
without one space at its start.
-/
def docValue (text : List Char) : List Char :=
  let kept := text.rdropWhile (· = '\r')
  if kept.head? = some ' ' then kept.tail else kept

/-- The token that a piece at a place stands for. -/
def Piece.token? (position : Position) : Piece → Option Token
  | .blank _ _ | .comment _ _ _ => none
  | .lineBreak => some ⟨.newline, "\\n", position⟩
  | .doc text _ => some ⟨.docComment, String.ofList (docValue text), position⟩
  | .string items => some ⟨.string, String.ofList (items.map StringItem.value), position⟩
  | .block body => some ⟨.block, String.ofList (Text.strip body.text), position⟩
  | .word first rest _ _ =>
      some ⟨if first :: rest = "import".toList then .importWord else .identifier,
        String.ofList (first :: rest), position⟩
  | .equals => some ⟨.equals, "=", position⟩

/-- A piece may end before a text: comments of both kinds run to the end of their line, and
a word goes on as long as it can.
-/
def Piece.EndsBefore (after : List Char) : Piece → Prop
  | .comment _ _ _ | .doc _ _ => ∀ c ∈ after.head?, c = '\n'
  | .word _ _ _ _ => ∀ c ∈ after.head?, isWordPart c = false
  | _ => True

-----------------------------------------------------------------------------------------
-- Decompositions
-----------------------------------------------------------------------------------------

def textOf (pieces : List Piece) : List Char :=
  pieces.flatMap Piece.text

@[simp]
theorem textOf_nil : textOf [] = [] := rfl

@[simp]
theorem textOf_cons (piece : Piece) (rest : List Piece)
    : textOf (piece :: rest) = piece.text ++ textOf rest :=
  List.flatMap_cons

@[simp]
theorem textOf_append (left right : List Piece)
    : textOf (left ++ right) = textOf left ++ textOf right :=
  List.flatMap_append

/-- Every piece may end where the next one begins, and the last one before `after`. -/
def Joined (after : List Char) : List Piece → Prop
  | [] => True
  | piece :: rest => piece.EndsBefore (textOf rest ++ after) ∧ Joined after rest

/-- Pieces join with the pieces behind them, by induction on the pieces in front. -/
theorem Joined.append {after : List Char} {left right : List Piece}
    (front : Joined (textOf right ++ after) left) (back : Joined after right)
    : Joined after (left ++ right) := by
  induction left with
  | nil => exact back
  | cons piece rest ih =>
      have ends : piece.EndsBefore (textOf (rest ++ right) ++ after) := by
        rw [textOf_append, List.append_assoc]
        exact front.1
      exact ⟨ends, ih front.2⟩

/-- Whether a piece may end before a text depends on the first character of the text. -/
theorem Piece.endsBefore_congr {after other : List Char} (same : after.head? = other.head?)
    (piece : Piece) : piece.EndsBefore after ↔ piece.EndsBefore other := by
  cases piece <;> simp only [Piece.EndsBefore, same]

/-- Pieces that may end before a text may end before another one, if each of them may by itself. By
induction on the pieces; only the last one ends before these texts.
-/
theorem Joined.exchange {after other : List Char} {pieces : List Piece}
    (joined : Joined after pieces)
    (ends : ∀ piece : Piece, piece.EndsBefore after → piece.EndsBefore other)
    : Joined other pieces := by
  induction pieces with
  | nil => trivial
  | cons piece rest ih =>
      refine ⟨?_, ih joined.2⟩
      have before := joined.1
      cases text : textOf rest with
      | nil =>
          rw [text] at before
          exact ends piece before
      | cons c more =>
          rw [text] at before
          exact (piece.endsBefore_congr (by simp)).mp before

/-- The pieces are the whole source, and each ends where it may. -/
structure IsDecomposition (pieces : List Piece) (source : List Char) : Prop where
  text_eq : textOf pieces = source
  joined : Joined [] pieces

/-- The tokens of pieces from a place on. -/
def tokensFrom (position : Position) : List Piece → List Token
  | [] => []
  | piece :: rest =>
      (piece.token? position).toList ++ tokensFrom (position.advanceOver piece.text) rest

/-- The tokens of a decomposed source: those of its lexemes in order, then its end. -/
def decomposedTokens (pieces : List Piece) : List Token :=
  tokensFrom .start pieces
    ++ [⟨.endOfSource, "", Position.start.advanceOver (textOf pieces)⟩]

end LiteralEnum.Lexer
