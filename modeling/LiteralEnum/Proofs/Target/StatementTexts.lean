import LiteralEnum.Proofs.Module.DocstringLines
import LiteralEnum.Proofs.Target.PlainText
import LiteralEnum.Proofs.Target.QuotedText
import LiteralEnum.Proofs.Target.Statements

/-! Texts of the generated module that are statements on one line: plain text with balanced
brackets, and a doc text in triple quotes. String literals in single quotes are one token.
-/

namespace LiteralEnum.Target

-----------------------------------------------------------------------------------------
-- One line
-----------------------------------------------------------------------------------------

/-- A line that holds tokens with balanced brackets is a statement. -/
theorem statement?_line {text : List Char} {tokens : List Token} (noFeed : '\n' ∉ text)
    (starts : startsStatement (text ++ ['\n']) = true)
    (marks : lineMarks (text ++ ['\n']) = tokens.map .token ++ [.lineBreak ['\n']])
    (balanced : turns tokens = 0)
    : statement? text = some (tokens ++ [⟨.newline, ['\n']⟩]) := by
  have lines : brokenLines text = [text ++ ['\n']] := linesWithBreaks_body noFeed []
  have read : scanLineFrom {} (text ++ ['\n']) = (tokens ++ [⟨.newline, ['\n']⟩], {}) := by
    rw [scanLineFrom_eq_read, marks, read_tokens, balanced]
    rfl
  rw [statement?, lines]
  simp [starts, read, goOn?]

theorem noFeed_of_isPlain {text : List Char} (plain : ∀ c ∈ text, isPlain c = true)
    : '\n' ∉ text :=
  fun member => absurd (plain _ member) (by decide)

theorem startsStatement_append {text : List Char} (starts : startsStatement text = true)
    (more : List Char) : startsStatement (text ++ more) = true := by
  cases text with
  | nil => cases starts
  | cons c rest => exact starts

/-- Plain text with balanced brackets is a statement. -/
theorem exists_statement_plain {text : List Char} (starts : startsStatement text = true)
    (plain : ∀ c ∈ text, isPlain c = true) (balanced : balance text = 0)
    : ∃ tokens, statement? text = some tokens := by
  obtain ⟨tokens, marks, turn⟩ := exists_lineMarks_plain plain
  exact ⟨_, statement?_line (noFeed_of_isPlain plain) (startsStatement_append starts _) marks
    (turn.trans balanced)⟩

-----------------------------------------------------------------------------------------
-- Doc texts
-----------------------------------------------------------------------------------------

open Module.Docstring

/-- What can be left of a line behind the quotes that close a doc text: quotes at the end of the
text close it before its own quotes are over.
-/
def leftovers : List (List Char) := [['\n'], ['"', '\n'], ['"', '"', '\n']]

/-- Sealed text is closed by the quotes behind it, or by its own last ones with them. -/
theorem exists_leftover {text : List Char} (isSealed : Sealed text) (read : List Char)
    : ∃ taken, ∃ rest ∈ leftovers,
        closeTriple? '"' read (text ++ quotes ++ ['\n']) = some (taken, rest) := by
  induction isSealed generalizing read with
  | nil => exact ⟨_, ['\n'], by decide, rfl⟩
  | pair c rest notBreak later ih =>
      obtain ⟨taken, left, member, closed⟩ := ih (c :: '\\' :: read)
      exact ⟨taken, left, member, by simpa [closeTriple?, notBreak] using closed⟩
  | single c rest notBackslash notTriple later ih =>
      rw [List.cons_append, List.cons_append, closeTriple?_cons notBackslash]
      by_cases tripled : quotes <+: c :: (rest ++ quotes ++ ['\n'])
      · rw [if_pos tripled]
        rcases rest with _ | ⟨d, _ | ⟨e, more⟩⟩
        · exact ⟨_, ['"', '\n'], by decide, rfl⟩
        · exact ⟨_, ['"', '"', '\n'], by decide, rfl⟩
        · obtain ⟨behind, same⟩ := tripled
          obtain ⟨rfl, rfl, rfl⟩ : c = '"' ∧ d = '"' ∧ e = '"' := by
            simpa [quotes, eq_comm] using congrArg (List.take 3) same
          exact absurd (List.prefix_append quotes more) notTriple
      · rw [if_neg tripled]
        exact ih (c :: read)

theorem pieceAt?_quotes (rest : List Char)
    : pieceAt? (quotes ++ rest) = some (.tripleQuote quotes '"' rest) := by
  have opened : openTriple? (quotes ++ rest) = some (quotes, '"', rest) := openTriple?_quotes rest
  have notEnd : lineEndPiece? (quotes ++ rest) = none := rfl
  rw [quotes, List.cons_append, pieceAt?_of_ne (by decide), ← List.cons_append, ← quotes, opened,
    notEnd]
  rfl

theorem exists_lineMarks_leftover
    : ∀ rest ∈ leftovers, ∃ tokens, lineMarks rest = tokens.map .token ++ [.lineBreak ['\n']]
        ∧ turns tokens = 0 := by
  simp only [leftovers, List.forall_mem_cons, List.not_mem_nil, false_implies, implies_true,
    and_true]
  refine ⟨⟨[], rfl, rfl⟩, ⟨[⟨.error, ['"']⟩], rfl, rfl⟩, ⟨[⟨.string, ['"', '"']⟩], rfl, rfl⟩⟩

/-- A doc text on one line is a statement. -/
theorem exists_statement_doc {text : List Char} (isSealed : Sealed text) (noFeed : '\n' ∉ text)
    : ∃ tokens, statement? (quotes ++ text ++ quotes) = some tokens := by
  obtain ⟨taken, rest, member, closed⟩ := exists_leftover isSealed quotes.reverse
  obtain ⟨tokens, marks, turn⟩ := exists_lineMarks_leftover rest member
  have found : pieceAt? ((quotes ++ text ++ quotes ++ ['\n']).dropWhile isSpacing)
      = some (.tripleQuote quotes '"' (text ++ quotes ++ ['\n'])) := by
    have start : (quotes ++ text ++ quotes ++ ['\n']).dropWhile isSpacing
        = quotes ++ (text ++ quotes ++ ['\n']) := by simp [quotes, isSpacing]
    rw [start, pieceAt?_quotes]
  have marked : lineMarks (quotes ++ text ++ quotes ++ ['\n'])
      = (⟨.string, taken⟩ :: tokens).map .token ++ [.lineBreak ['\n']] := by
    rw [lineMarks_of_piece (by simp) found]
    simp only [Piece.marks, closed, marks]
    rfl
  have balanced : turns (⟨.string, taken⟩ :: tokens) = 0 := by
    rw [turns_cons, turn, turn_of_ne_operator (by simp)]
    rfl
  exact ⟨_, statement?_line (by simpa [quotes] using noFeed) rfl marked balanced⟩

-----------------------------------------------------------------------------------------
-- String literals
-----------------------------------------------------------------------------------------

/-- A character that is neither the quote nor a backslash nor a line feed is passed over. -/
theorem scanLineString_plain {quote c : Char} (notQuote : c ≠ quote) (notBackslash : c ≠ '\\')
    (notFeed : c ≠ '\n') (read rest : List Char)
    : scanLineString quote read (c :: rest) = scanLineString quote (c :: read) rest := by
  rw [scanLineString]
  · rw [if_neg notQuote, if_neg notFeed]
  · exact fun _ same _ => notBackslash same
  · exact fun _ same _ => notBackslash same
  · exact fun _ _ same _ => notBackslash same
  · exact fun same _ => notBackslash same

/-- So are characters one after the other, by induction on them. -/
theorem scanLineString_append {quote : Char} {plain : List Char}
    (inert : ∀ c ∈ plain, c ≠ quote ∧ c ≠ '\\' ∧ c ≠ '\n') (read rest : List Char)
    : scanLineString quote read (plain ++ rest)
      = scanLineString quote (plain.reverse ++ read) rest := by
  induction plain generalizing read with
  | nil => rfl
  | cons c others ih =>
      obtain ⟨⟨notQuote, notBackslash, notFeed⟩, inert⟩ := List.forall_mem_cons.mp inert
      rw [List.cons_append, scanLineString_plain notQuote notBackslash notFeed, ih inert]
      simp

/-- A quoted character is passed over. -/
theorem Quoting.scanLineString {quote c : Char} {chars : List Char}
    (quoting : Quoting quote c chars) (isQuote : IsQuote quote) (read rest : List Char)
    : scanLineString quote read (chars ++ rest)
      = scanLineString quote (chars.reverse ++ read) rest := by
  cases quoting with
  | plain printable notQuote notBackslash =>
      have notFeed : c ≠ '\n' := by
        rintro rfl
        exact absurd printable (by decide)
      exact scanLineString_append (by simp [notQuote, notBackslash, notFeed]) read rest
  | letter escape known meaning =>
      simp only [List.mem_cons, List.not_mem_nil, or_false] at known
      rcases known with rfl | rfl | rfl | rfl | rfl | rfl <;> simp [Target.scanLineString]
  | numeric mark width known fits =>
      have inert : ∀ other ∈ Text.hexDigits width c.toNat,
          other ≠ quote ∧ other ≠ '\\' ∧ other ≠ '\n' := by
        intro other member
        obtain ⟨low, -, notBackslash⟩ := isPlainDigit_of_mem_hexDigits member
        refine ⟨?_, notBackslash, ?_⟩
        · rintro rfl
          rcases isQuote with rfl | rfl <;> exact absurd low (by decide)
        · rintro rfl
          exact absurd low (by decide)
      have passed : Target.scanLineString quote read
            ('\\' :: mark :: (Text.hexDigits width c.toNat ++ rest))
          = Target.scanLineString quote (mark :: '\\' :: read)
              (Text.hexDigits width c.toNat ++ rest) := by
        simp only [List.mem_cons, Prod.mk.injEq, List.not_mem_nil, or_false] at known
        rcases known with ⟨rfl, -⟩ | ⟨rfl, -⟩ | ⟨rfl, -⟩ <;> simp [Target.scanLineString]
      rw [List.cons_append, List.cons_append, passed, scanLineString_append inert]
      simp

/-- The literal goes on to its last quote, by induction on the text. -/
theorem scanLineString_flatMap_quotedChar {quote : Char} (isQuote : IsQuote quote)
    (text read rest : List Char)
    : scanLineString quote read (text.flatMap (Text.quotedChar quote) ++ quote :: rest)
      = .closed (read.reverse ++ text.flatMap (Text.quotedChar quote) ++ [quote]) rest := by
  induction text generalizing read with
  | nil => rcases isQuote with rfl | rfl <;> simp [scanLineString]
  | cons c text ih =>
      rw [List.flatMap_cons, List.append_assoc,
        (quoting_quotedChar isQuote c).scanLineString isQuote, ih]
      simp

/-- A string that closes on its line is one token. -/
theorem pieceAt?_quote {quote : Char} (isQuote : IsQuote quote) {text taken rest : List Char}
    (single : openTriple? (quote :: text) = none)
    (closed : scanLineString quote [quote] text = .closed taken rest)
    : pieceAt? (quote :: text) = some (.token .string taken rest) := by
  have isString : stringPiece? (quote :: text) = some (.token .string taken rest) := by
    simp [stringPiece?, openQuote?_quoted isQuote, closed]
  have noComment : quote ≠ '#' := by rcases isQuote with rfl | rfl <;> decide
  have noEnd : lineEndPiece? (quote :: text) = none := by rcases isQuote with rfl | rfl <;> rfl
  have noNumber : spanNumber? (quote :: text) = none := by rcases isQuote with rfl | rfl <;> rfl
  have noOperator : operatorAt? (quote :: text) = none := by
    rcases isQuote with rfl | rfl <;> rfl
  rw [pieceAt?_of_ne noComment, noEnd, single, noNumber, noOperator, isString]
  rfl

/-- A quoted text is one token. -/
theorem pieceAt?_quotedChars {text rest : List Char}
    (apart : rest.head? ≠ some (Text.quoteFor text))
    : pieceAt? (Text.quotedChars text ++ rest)
      = some (.token .string (Text.quotedChars text) rest) := by
  have isQuote := isQuote_quoteFor text
  have shape : Text.quotedChars text ++ rest = Text.quoteFor text
      :: (text.flatMap (Text.quotedChar (Text.quoteFor text)) ++ Text.quoteFor text :: rest) := by
    simp [Text.quotedChars]
  have single := openTriple?_quotedChars apart
  rw [shape] at single ⊢
  refine pieceAt?_quote isQuote single ?_
  rw [scanLineString_flatMap_quotedChar isQuote]
  simp [Text.quotedChars]

/-- Text without quotes, backslashes and line feeds between double quotes is one token. -/
theorem pieceAt?_doubleQuoted {c : Char} {text rest : List Char}
    (inert : ∀ d ∈ c :: text, d ≠ '"' ∧ d ≠ '\\' ∧ d ≠ '\n')
    : pieceAt? ('"' :: c :: (text ++ '"' :: rest))
      = some (.token .string ('"' :: c :: (text ++ ['"'])) rest) := by
  have isQuote : IsQuote '"' := .inr rfl
  refine pieceAt?_quote isQuote (openTriple?_eq_none isQuote ?_) ?_
  · intro tripled
    exact (inert c List.mem_cons_self).1 (by simpa using congrArg List.head? tripled)
  · have passed := scanLineString_append inert ['"'] ('"' :: rest)
    rw [List.cons_append] at passed
    rw [passed]
    simp [scanLineString]

end LiteralEnum.Target
