import LiteralEnum.Proofs.Target.EnclosedText
import LiteralEnum.Proofs.Target.StatementTexts
import LiteralEnum.Proofs.Target.Suites

/-! Tables, which are statements over several lines. The rows of a table stand in a bracket, where
indents mean nothing: a row is read alike behind all spacing.
-/

namespace LiteralEnum.Target

-----------------------------------------------------------------------------------------
-- Rows
-----------------------------------------------------------------------------------------

/-- Behind whatever spacing, the text is read as these tokens in a bracket. -/
def IsRow (text : List Char) (tokens : List Token) : Prop :=
  ∀ lead : List Char, (∀ c ∈ lead, isSpacing c = true) →
    ReadsLines { depth := 1 } (brokenLines (lead ++ text)) tokens { depth := 1 }

/-- Spacing before a piece does not change the marks. -/
theorem lineMarks_lead {lead line : List Char} (spacing : ∀ c ∈ lead, isSpacing c = true)
    (notSpacing : line.dropWhile isSpacing = line) {piece : Piece}
    (found : pieceAt? line = some piece) : lineMarks (lead ++ line) = lineMarks line := by
  have dropped : (lead ++ line).dropWhile isSpacing = line := by
    rw [List.dropWhile_append_of_pos spacing, notSpacing]
  rw [← dropped] at found
  rw [← lineMarks_dropWhile found, dropped]

theorem noFeed_of_spacing {lead : List Char} (spacing : ∀ c ∈ lead, isSpacing c = true)
    : '\n' ∉ lead :=
  fun member => absurd (spacing _ member) (by decide)

/-- What is read at the start of its line is read behind spacing. -/
theorem isRow_of_readsLines {text : List Char} {tokens : List Token}
    (reads : ReadsLines { depth := 1 } (brokenLines text) tokens { depth := 1 })
    (starts
      : ∀ line more, brokenLines text = line :: more →
          line.dropWhile isSpacing = line ∧ ∃ piece, pieceAt? line = some piece)
    : IsRow text tokens := by
  intro lead spacing
  obtain ⟨line, more, broken⟩ := List.exists_cons_of_ne_nil (brokenLines_ne_nil text)
  rw [brokenLines_lead (noFeed_of_spacing spacing)]
  obtain ⟨notSpacing, piece, found⟩ := starts line more broken
  rw [broken] at reads ⊢
  cases reads with
  | cons first rest =>
      refine .cons ?_ rest
      rw [scanLine_goOn (by rfl)] at first ⊢
      have marks : LineState.marks { depth := 1 } (lead ++ line)
          = LineState.marks { depth := 1 } line := lineMarks_lead spacing notSpacing found
      rw [marks]
      exact first

/-- A text on one line that holds tokens with balanced brackets. -/
theorem isRow_line {text : List Char} {tokens : List Token} (noFeed : '\n' ∉ text)
    (notSpacing : (text ++ ['\n']).dropWhile isSpacing = text ++ ['\n'])
    {piece : Piece} (found : pieceAt? (text ++ ['\n']) = some piece)
    (marks : lineMarks (text ++ ['\n']) = tokens.map .token ++ [.lineBreak ['\n']])
    (balanced : turns tokens = 0) : IsRow text (tokens ++ [.inner]) := by
  have lines : brokenLines text = [text ++ ['\n']] := linesWithBreaks_body noFeed []
  refine isRow_of_readsLines ?_ ?_
  · have marks : LineState.marks { depth := 1 } (text ++ ['\n'])
        = tokens.map .token ++ [.lineBreak ['\n']] := marks
    rw [lines]
    refine .single ?_
    rw [scanLine_goOn (by rfl), marks, read_tokens, balanced]
    rfl
  · intro line more same
    obtain ⟨rfl, -⟩ := List.cons.inj (lines.symm.trans same)
    exact ⟨notSpacing, piece, found⟩

/-- A word or a bracket is always a piece. -/
theorem exists_piece_of_isWordPart {c : Char} (isPart : Lexer.isWordPart c = true)
    (rest : List Char) : ∃ piece, pieceAt? (c :: rest) = some piece := by
  have noComment : c ≠ '#' := by
    rintro rfl
    exact absurd isPart (by decide)
  have word : wordPiece? (c :: rest) ≠ none := by simp [wordPiece?, isPart]
  refine Option.ne_none_iff_exists'.mp fun none => word ?_
  rw [pieceAt?_of_ne noComment] at none
  exact (eq_none_of_orElse (eq_none_of_orElse (eq_none_of_orElse (eq_none_of_orElse
    (eq_none_of_orElse none).2).2).2).2).2

theorem isSpacing_of_isWordPart {c : Char} (isPart : Lexer.isWordPart c = true)
    : isSpacing c = false := by
  cases spacing : isSpacing c with
  | false => rfl
  | true =>
      simp only [isSpacing, Bool.or_eq_true, decide_eq_true_eq] at spacing
      rcases spacing with (rfl | rfl) | rfl <;> exact absurd isPart (by decide)

/-- Plain text that starts with a word. -/
theorem exists_row_plain {c : Char} {rest : List Char} (isPart : Lexer.isWordPart c = true)
    (plain : ∀ d ∈ c :: rest, isPlain d = true) (balanced : balance (c :: rest) = 0)
    : ∃ tokens, IsRow (c :: rest) tokens := by
  obtain ⟨tokens, marks, turn⟩ := exists_lineMarks_plain plain
  obtain ⟨piece, found⟩ := exists_piece_of_isWordPart isPart (rest ++ ['\n'])
  refine ⟨_, isRow_line (noFeed_of_isPlain plain) ?_ found marks (turn.trans balanced)⟩
  rw [List.cons_append, List.dropWhile_cons, isSpacing_of_isWordPart isPart]
  rfl

/-- A quoted text with plain text behind it. -/
theorem exists_row_quoted (text rest : List Char) (plain : ∀ c ∈ rest, isPlain c = true)
    (balanced : balance rest = 0)
    : ∃ tokens, IsRow (Text.quotedChars text ++ rest) tokens := by
  obtain ⟨tokens, marks, turn⟩ := exists_lineMarks_plain plain
  have apart : (rest ++ ['\n']).head? ≠ some (Text.quoteFor text) := by
    have notQuote : ∀ c, IsQuote c → isPlain c = false ∧ '\n' ≠ c := by
      rintro c (rfl | rfl) <;> decide
    obtain ⟨other, notFeed⟩ := notQuote _ (isQuote_quoteFor text)
    cases rest with
    | nil => simpa using notFeed
    | cons c rest =>
        rintro same
        obtain rfl : c = Text.quoteFor text := Option.some.inj same
        rw [plain _ List.mem_cons_self] at other
        cases other
  have found := pieceAt?_quotedChars apart
  rw [← List.append_assoc] at found
  have notSpacing : (Text.quotedChars text ++ rest ++ ['\n']).dropWhile isSpacing
      = Text.quotedChars text ++ rest ++ ['\n'] := by
    rcases isQuote_quoteFor text with same | same <;> simp [Text.quotedChars, same, isSpacing]
  have marked : lineMarks (Text.quotedChars text ++ rest ++ ['\n'])
      = (⟨.string, Text.quotedChars text⟩ :: tokens).map .token ++ [.lineBreak ['\n']] := by
    rw [← notSpacing] at found
    rw [lineMarks_of_piece (by simp) found]
    simp only [Piece.marks, marks]
    rfl
  refine ⟨_, isRow_line ?_ notSpacing found marked ?_⟩
  · simp only [List.mem_append, not_or]
    exact ⟨fun member => absurd (not_isLineBreak_of_mem_quotedChars member) (by decide),
      noFeed_of_isPlain plain⟩
  · rw [turns_cons, turn_of_ne_operator (by simp), turn, balanced]
    rfl

/-- A text that is whole lines with its line feed is read by the same lines. -/
theorem ReadsText.readsLines {state last : LineState} {text : List Char} {tokens : List Token}
    (reads : ReadsText state (text ++ ['\n']) tokens last)
    : ReadsLines state (brokenLines text) tokens last := by
  obtain ⟨lines, whole, same, reads⟩ := reads
  have all := linesWithBreaks_flatten whole []
  rw [List.append_nil, linesWithBreaks, List.append_nil, same] at all
  rwa [brokenLines, all]

/-- Data in parentheses, on however many lines, if it stays in them in a sample whose tokens can
all be read.
-/
theorem exists_row_data {text : List Char} (noLone : hasLoneReturn text = false)
    (stays : escapesParentheses text = false)
    (accepted : (tokens (Compiler.dataSample text)).failure = none)
    : ∃ tokens, IsRow ('(' :: text ++ [')', ',']) tokens := by
  obtain ⟨inside, -, -, element⟩ := exists_tokens noLone stays accepted
  refine ⟨elementTokens inside ++ [.sign ',', .inner], fun lead spacing => ReadsText.readsLines ?_⟩
  simpa using element lead spacing

-----------------------------------------------------------------------------------------
-- Tables
-----------------------------------------------------------------------------------------

/-- Behind the opening line, the rows of a table follow each other, by induction on them. -/
theorem exists_rows {rows : List (List Char)} (areRows : ∀ row ∈ rows, ∃ tokens, IsRow row tokens)
    : ∃ tokens, ∀ lead : List Char, (∀ c ∈ lead, isSpacing c = true) →
        ReadsLines { depth := 1 } ((rows.map (lead ++ ·)).flatMap brokenLines) tokens
          { depth := 1 } := by
  induction rows with
  | nil => exact ⟨[], fun _ _ => .nil _⟩
  | cons row rows ih =>
      obtain ⟨⟨first, isRow⟩, areRows⟩ := List.forall_mem_cons.mp areRows
      obtain ⟨others, reads⟩ := ih areRows
      refine ⟨first ++ others, fun lead spacing => ?_⟩
      rw [List.map_cons, List.flatMap_cons]
      exact (isRow lead spacing).append (reads lead spacing)

/-- Lines whose first starts a statement are read behind open blocks as without them. -/
theorem readsLines_outermost {first : List Char} {more : List (List Char)} {tokens : List Token}
    {last : LineState} (reads : ReadsLines {} (first :: more) tokens last)
    (starts : startsStatement first = true) {width : Nat} (positive : 0 < width) (start : Nat)
    : ∃ read, essence read = List.replicate start stepOut ++ essence tokens
        ∧ ReadsLines (between (columns width start)) (first :: more) read last := by
  cases reads with
  | cons scanned rest =>
      obtain ⟨none, noChange, alone⟩ := scanLine_atLevel positive (Nat.zero_le 1) starts
      obtain ⟨change, same, behind⟩ := scanLine_atLevel positive (Nat.zero_le (start + 1)) starts
      rw [Nat.zero_mul, List.replicate_zero, List.nil_append] at alone behind
      obtain ⟨rfl, rfl⟩ := LineResult.line.inj (scanned.symm.trans alone)
      refine ⟨_, ?_, .cons behind rest⟩
      simp only [essence_append, same, noChange, changeLevel_of_le (Nat.zero_le _), Nat.sub_zero]
      simp

/-- A table is read alike behind open blocks, whatever the width of its rows. -/
theorem exists_table {heading : List Char} {closing : Char} {opening : List Token}
    {rows : List (List Char)}
    (opens : ReadsLines {} (brokenLines heading) opening { depth := 1 })
    (starts : startsStatement heading = true) (areRows : ∀ row ∈ rows, ∃ tokens, IsRow row tokens)
    (closes : closing = ')' ∨ closing = '\x7d')
    : ∃ tokens, ∀ width start, 0 < width →
        ReadsTexts width start 0 0
          (heading :: rows.map (List.replicate width ' ' ++ ·) ++ [[closing]]) tokens := by
  obtain ⟨inside, reads⟩ := exists_rows areRows
  obtain ⟨first, more, lines, startsFirst⟩ := exists_first_brokenLines starts
  have ends : ReadsLines { depth := 1 } (brokenLines [closing])
      [.sign closing, ⟨.newline, ['\n']⟩] {} := by
    rcases closes with rfl | rfl <;> exact .single rfl
  refine ⟨essence (opening ++ inside ++ [.sign closing, ⟨.newline, ['\n']⟩]),
    fun width start positive => ⟨Nat.le_refl 0, ?_⟩⟩
  have spacing : ∀ c ∈ List.replicate width ' ', isSpacing c = true := by
    intro c member
    rw [List.eq_of_mem_replicate member]
    rfl
  have whole := (opens.append (reads _ spacing)).append ends
  rw [lines] at whole
  obtain ⟨read, same, wholeBehind⟩ := readsLines_outermost whole startsFirst positive start
  refine ⟨read, ?_, ?_⟩
  · rw [same, changeLevel_of_le (Nat.zero_le start), Nat.sub_zero]
    simp
  · change ReadsLines _ _ read {}
    simpa [lines] using wholeBehind

/-- The opening line of a table, as plain text. -/
theorem exists_opening_plain {text : List Char} (starts : startsStatement text = true)
    (plain : ∀ c ∈ text, isPlain c = true) (opens : balance text = 1)
    : ∃ tokens, ReadsLines {} (brokenLines text) tokens { depth := 1 } := by
  obtain ⟨tokens, marks, turn⟩ := exists_lineMarks_plain plain
  have lines : brokenLines text = [text ++ ['\n']] :=
    linesWithBreaks_body (noFeed_of_isPlain plain) []
  obtain ⟨change, -, scanned⟩ := scanLine_atLevel Nat.zero_lt_one (Nat.zero_le 1)
    (startsStatement_append starts ['\n'])
  have ends : (scanLineFrom {} (text ++ ['\n'])).2 = { depth := 1 } := by
    rw [scanLineFrom_eq_read, marks, read_tokens, turn, opens]
    rfl
  rw [ends] at scanned
  rw [lines]
  exact ⟨_, .single scanned⟩

end LiteralEnum.Target
