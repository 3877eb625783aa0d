import LiteralEnum.Proofs.Token.PieceScanning
import Mathlib.Data.List.TakeWhile

/-! Whatever the lexer accepts can be cut into pieces. Between lexemes the first piece is
found from the first character; inside strings and blocks an accepting run shows that the
rest of the text closes what is open.
-/

namespace LiteralEnum.Lexer

/-- A run that accepts accepts the rest after its first step. -/
theorem exists_step_of_run {position : Position} {mode : Mode} {c : Char} {rest : List Char}
    {tokens : List Token} (accepted : run position mode (c :: rest) = .ok tokens)
    : ∃ completed next others,
        step position mode c = .ok (completed, next)
        ∧ run (position.advance c) next rest = .ok others := by
  cases taken : step position mode c with
  | error error => simp [run, taken, bind, Except.bind] at accepted
  | ok result =>
      obtain ⟨completed, next⟩ := result
      rw [run_cons taken] at accepted
      cases further : run (position.advance c) next rest with
      | error error => simp [further, after, Except.map] at accepted
      | ok others => exact ⟨completed, next, others, rfl, further⟩

/-- Every text has a longest front of characters with a property. -/
theorem exists_longest_front (property : Char → Bool) (text : List Char)
    : ∃ front back,
        text = front ++ back
        ∧ (∀ c ∈ front, property c = true)
        ∧ ∀ c ∈ back.head?, property c = false := by
  refine ⟨text.takeWhile property, text.dropWhile property,
    List.takeWhile_append_dropWhile.symm, fun c member => List.mem_takeWhile_imp member, ?_⟩
  intro c head
  have stopped := List.head?_dropWhile_not property text
  rw [Option.mem_def] at head
  simpa [head] using stopped

/-- Every text has a first line. -/
theorem exists_first_line (text : List Char)
    : ∃ line rest, text = line ++ rest ∧ '\n' ∉ line ∧ ∀ c ∈ rest.head?, c = '\n' := by
  obtain ⟨line, rest, rfl, inside, stops⟩ := exists_longest_front (fun c => !decide (c = '\n')) text
  refine ⟨line, rest, rfl, fun member => ?_, fun c head => ?_⟩
  · simpa using inside '\n' member
  · simpa using stops c head

-----------------------------------------------------------------------------------------
-- Strings
-----------------------------------------------------------------------------------------

/-- The text closes a string that is open. -/
def ClosesString (text : List Char) : Prop :=
  ∃ (items : List StringItem) (rest : List Char),
    text = items.flatMap StringItem.text ++ '"' :: rest

theorem ClosesString.cons {text : List Char} (closes : ClosesString text) (item : StringItem)
    : ClosesString (item.text ++ text) := by
  obtain ⟨items, rest, rfl⟩ := closes
  exact ⟨item :: items, rest, by simp⟩

/-- A run inside a string, or behind a backslash in it, accepts only if the string is closed,
by induction on the text.
-/
theorem closesString_of_run (text : List Char)
    : (∀ position start collected tokens,
        run position (.string start collected) text = .ok tokens → ClosesString text)
      ∧ ∀ position start collected backslash tokens,
          run position (.escape start collected backslash) text = .ok tokens
          → ∃ letter value rest,
              (letter, value) ∈ escapes ∧ text = letter :: rest ∧ ClosesString rest := by
  induction text with
  | nil => exact ⟨by intros; simp_all [run, finish], by intros; simp_all [run, finish]⟩
  | cons c rest ih =>
      constructor
      · intro position start collected tokens accepted
        obtain ⟨completed, next, others, taken, further⟩ := exists_step_of_run accepted
        by_cases quote : c = '"'
        · exact ⟨[], rest, by rw [quote]; rfl⟩
        by_cases backslash : c = '\\'
        · subst backslash
          cases taken
          obtain ⟨letter, value, tail, listed, rfl, closes⟩ := ih.2 _ _ _ _ _ further
          exact closes.cons (.escape letter value listed)
        by_cases lineBreak : c = '\n'
        · simp [step, lineBreak] at taken
        · simp only [step, quote, backslash, lineBreak, if_false, Except.ok.injEq,
            Prod.mk.injEq] at taken
          obtain ⟨-, rfl⟩ := taken
          exact (ih.1 _ _ _ _ further).cons (.plain c ⟨quote, backslash, lineBreak⟩)
      · intro position start collected backslash tokens accepted
        obtain ⟨completed, next, others, taken, further⟩ := exists_step_of_run accepted
        cases stands : escaped? c with
        | none => simp [step, stands] at taken
        | some value =>
            simp only [step, stands, Except.ok.injEq, Prod.mk.injEq] at taken
            obtain ⟨-, rfl⟩ := taken
            exact ⟨c, value, rest, escaped?_eq_some_iff.mp stands, rfl, ih.1 _ _ _ _ further⟩

-----------------------------------------------------------------------------------------
-- Blocks
-----------------------------------------------------------------------------------------

/-- The text closes so many open blocks, with a body before each closing brace. -/
def Closes (depth : Nat) (text : List Char) : Prop :=
  ∃ (bodies : List Body) (rest : List Char),
    bodies.length = depth ∧ text = bodies.flatMap (fun body => body.text ++ ['\x7d']) ++ rest

theorem Closes.plain {depth : Nat} {text : List Char} (closes : Closes (depth + 1) text)
    {c : Char} (free : c ≠ '\x7b' ∧ c ≠ '\x7d' ∧ c ≠ '\'' ∧ c ≠ '"')
    : Closes (depth + 1) (c :: text) := by
  obtain ⟨_ | ⟨body, others⟩, rest, count, rfl⟩ := closes
  · cases count
  · exact ⟨.plain c free body :: others, rest, count, rfl⟩

/-- An opening brace joins the first two bodies. -/
theorem Closes.opened {depth : Nat} {text : List Char} (closes : Closes (depth + 2) text)
    : Closes (depth + 1) ('\x7b' :: text) := by
  obtain ⟨_ | ⟨inner, _ | ⟨body, others⟩⟩, rest, count, rfl⟩ := closes
  · cases count
  · cases count
  · exact ⟨.nested inner body :: others, rest, by simpa using count, by simp [Body.text]⟩

theorem Closes.closed {depth : Nat} {text : List Char} (closes : Closes depth text)
    : Closes (depth + 1) ('\x7d' :: text) := by
  obtain ⟨bodies, rest, count, rfl⟩ := closes
  exact ⟨.empty :: bodies, rest, by simpa using count, rfl⟩

theorem Closes.quoted {depth : Nat} {text : List Char} (closes : Closes (depth + 1) text)
    {quote : Char} (isQuote : quote = '\'' ∨ quote = '"') (items : List (QuotedItem quote))
    : Closes (depth + 1) (quote :: (items.flatMap QuotedItem.text ++ quote :: text)) := by
  obtain ⟨_ | ⟨body, others⟩, rest, count, rfl⟩ := closes
  · cases count
  · exact ⟨.quoted quote isQuote items body :: others, rest, count, by simp [Body.text]⟩

/-- The text ends a quoted run and then closes so many open blocks. -/
def ClosesQuoted (quote : Char) (depth : Nat) (text : List Char) : Prop :=
  ∃ (items : List (QuotedItem quote)) (rest : List Char),
    text = items.flatMap QuotedItem.text ++ quote :: rest ∧ Closes depth rest

theorem ClosesQuoted.cons {quote : Char} {depth : Nat} {text : List Char}
    (closes : ClosesQuoted quote depth text) (item : QuotedItem quote)
    : ClosesQuoted quote depth (item.text ++ text) := by
  obtain ⟨items, rest, rfl, closed⟩ := closes
  exact ⟨item :: items, rest, by simp, closed⟩

/-- A run inside a block accepts only if all that is open is closed, by induction on the
text. The three modes of a block lead into each other, so they are taken together.
-/
theorem closes_of_run (text : List Char)
    : (∀ position start collected depth tokens,
        run position (.block start collected (depth + 1)) text = .ok tokens
        → Closes (depth + 1) text)
      ∧ (∀ position start collected depth quote tokens,
          run position (.quoted start collected (depth + 1) quote) text = .ok tokens
          → ClosesQuoted quote (depth + 1) text)
      ∧ ∀ position start collected depth quote tokens,
          run position (.quotedEscape start collected (depth + 1) quote) text = .ok tokens
          → ∃ c rest, text = c :: rest ∧ ClosesQuoted quote (depth + 1) rest := by
  induction text with
  | nil =>
      exact ⟨by intros; simp_all [run, finish], by intros; simp_all [run, finish],
        by intros; simp_all [run, finish]⟩
  | cons c rest ih =>
      obtain ⟨inBlock, inQuoted, inEscape⟩ := ih
      refine ⟨?_, ?_, ?_⟩
      · intro position start collected depth tokens accepted
        obtain ⟨completed, next, others, taken, further⟩ := exists_step_of_run accepted
        by_cases isQuote : c = '\'' ∨ c = '"'
        · simp only [step, stepBlock, isQuote, if_true, Except.ok.injEq, Prod.mk.injEq] at taken
          obtain ⟨-, rfl⟩ := taken
          obtain ⟨items, tail, rfl, closes⟩ := inQuoted _ _ _ _ _ _ further
          exact closes.quoted isQuote items
        by_cases opening : c = '\x7b'
        · subst opening
          cases taken
          exact (inBlock _ _ _ _ _ further).opened
        by_cases closing : c = '\x7d'
        · subst closing
          cases depth with
          | zero => exact Closes.closed ⟨[], rest, rfl, rfl⟩
          | succ depth =>
              have deeper : step position (.block start collected (depth + 1 + 1)) '\x7d'
                  = .ok ([], .block start ('\x7d' :: collected) (depth + 1)) := by
                simp [step, stepBlock]
              simp only [deeper, Except.ok.injEq, Prod.mk.injEq] at taken
              obtain ⟨-, rfl⟩ := taken
              exact (inBlock _ _ _ _ _ further).closed
        · simp only [step, stepBlock, isQuote, opening, closing, if_false, Except.ok.injEq,
            Prod.mk.injEq] at taken
          obtain ⟨-, rfl⟩ := taken
          simp only [not_or] at isQuote
          exact (inBlock _ _ _ _ _ further).plain ⟨opening, closing, isQuote⟩
      · intro position start collected depth quote tokens accepted
        obtain ⟨completed, next, others, taken, further⟩ := exists_step_of_run accepted
        by_cases backslash : c = '\\'
        · subst backslash
          cases taken
          obtain ⟨escaped, tail, rfl, closes⟩ := inEscape _ _ _ _ _ _ further
          exact closes.cons (.escape escaped)
        by_cases ending : c = quote
        · subst ending
          simp only [step, backslash, if_false, if_true, Except.ok.injEq, Prod.mk.injEq] at taken
          obtain ⟨-, rfl⟩ := taken
          exact ⟨[], rest, rfl, inBlock _ _ _ _ _ further⟩
        · simp only [step, backslash, ending, if_false, Except.ok.injEq, Prod.mk.injEq] at taken
          obtain ⟨-, rfl⟩ := taken
          exact (inQuoted _ _ _ _ _ _ further).cons (.plain c ⟨backslash, ending⟩)
      · intro position start collected depth quote tokens accepted
        obtain ⟨completed, next, others, taken, further⟩ := exists_step_of_run accepted
        simp only [step, Except.ok.injEq, Prod.mk.injEq] at taken
        obtain ⟨-, rfl⟩ := taken
        exact ⟨c, rest, rfl, inQuoted _ _ _ _ _ _ further⟩

-----------------------------------------------------------------------------------------
-- Pieces
-----------------------------------------------------------------------------------------

/-- Between lexemes, a text begins with a piece that may end there, if its first character can be
read and it closes the string or the block that this character opens. The cases are those of a step
between lexemes.
-/
theorem exists_piece_of_step {position : Position} {c : Char} {rest : List Char}
    {completed : List Token} {next : Mode} (taken : stepGap position c = .ok (completed, next))
    (string : c = '"' → ClosesString rest) (block : c = '\x7b' → Closes 1 rest)
    : ∃ (piece : Piece) (remaining : List Char),
        c :: rest = piece.text ++ remaining ∧ piece.EndsBefore remaining := by
  rw [stepGap] at taken
  split at taken
  next isGap => exact ⟨.blank c isGap, rest, rfl, trivial⟩
  split at taken
  next sign =>
    subst sign
    by_cases colon : rest.head? = some ':'
    · obtain ⟨tail, rfl⟩ := List.head?_eq_some_iff.mp colon
      obtain ⟨line, remaining, rfl, oneLine, ends⟩ := exists_first_line tail
      exact ⟨.doc line oneLine, remaining, rfl, ends⟩
    · obtain ⟨line, remaining, rfl, oneLine, ends⟩ := exists_first_line rest
      have isPlain : line.head? ≠ some ':' := by
        intro head
        obtain ⟨tail, rfl⟩ := List.head?_eq_some_iff.mp head
        exact colon rfl
      exact ⟨.comment line isPlain oneLine, remaining, rfl, ends⟩
  split at taken
  next lineBreak => exact ⟨.lineBreak, rest, by rw [lineBreak]; rfl, trivial⟩
  split at taken
  next quote =>
    obtain ⟨items, remaining, rfl⟩ := string quote
    exact ⟨.string items, remaining, by simp [Piece.text, quote], trivial⟩
  split at taken
  next brace =>
    obtain ⟨bodies, remaining, count, rfl⟩ := block brace
    obtain ⟨body, rfl⟩ := List.length_eq_one_iff.mp count
    exact ⟨.block body, remaining, by simp [Piece.text, brace], trivial⟩
  split at taken
  next starts =>
    obtain ⟨word, remaining, rfl, continues, ends⟩ := exists_longest_front isWordPart rest
    exact ⟨.word c word starts continues, remaining, rfl, ends⟩
  split at taken
  next sign => exact ⟨.equals, rest, by rw [sign]; rfl, trivial⟩
  next => cases taken

/-- Between lexemes, a text that is accepted begins with a piece that may end there. -/
theorem exists_piece_of_run {position : Position} {c : Char} {rest : List Char}
    {tokens : List Token} (accepted : run position .gap (c :: rest) = .ok tokens)
    : ∃ (piece : Piece) (remaining : List Char),
        c :: rest = piece.text ++ remaining ∧ piece.EndsBefore remaining := by
  obtain ⟨completed, next, others, taken, further⟩ := exists_step_of_run accepted
  refine exists_piece_of_step taken (fun quote => ?_) (fun brace => ?_)
  · subst quote
    cases taken
    exact (closesString_of_run rest).1 _ _ _ _ further
  · subst brace
    cases taken
    exact (closes_of_run rest).1 _ _ _ 0 _ further

theorem Piece.text_ne_nil (piece : Piece) : piece.text ≠ [] := by
  cases piece <;> simp [Piece.text]

/-- Between lexemes, a text that is accepted has a decomposition, by induction on its length.
-/
theorem exists_decomposition_of_run {position : Position} {text : List Char}
    {tokens : List Token} (accepted : run position .gap text = .ok tokens)
    : ∃ pieces, IsDecomposition pieces text := by
  induction size : text.length using Nat.strongRecOn generalizing position text tokens with
  | ind size ih =>
    cases text with
    | nil => exact ⟨[], rfl, trivial⟩
    | cons c rest =>
        obtain ⟨piece, remaining, split, ends⟩ := exists_piece_of_run accepted
        have shorter : remaining.length < (c :: rest).length := by
          have positive := List.length_pos_iff.mpr piece.text_ne_nil
          rw [split, List.length_append]
          omega
        rw [split, run_piece position piece ends] at accepted
        cases further : run (position.advanceOver piece.text) .gap remaining with
        | error error => simp [further, after, Except.map] at accepted
        | ok others =>
            obtain ⟨pieces, text_eq, joined⟩ := ih _ (size ▸ shorter) further rfl
            refine ⟨piece :: pieces, ?_, ?_, joined⟩
            · rw [split, ← text_eq]
              rfl
            · rw [text_eq, List.append_nil]
              exact ends

end LiteralEnum.Lexer
