import LiteralEnum.Proofs.Token.Decomposition

/-! What the lexer does on one piece. It starts between lexemes, it is between lexemes
again behind the piece, and the token of the piece is all that it has added. There is one
lemma for each mode, by induction on what is still to be read in it.
-/

namespace LiteralEnum

@[simp]
theorem Position.advanceOver_nil (position : Position) : position.advanceOver [] = position :=
  rfl

@[simp]
theorem Position.advanceOver_cons (position : Position) (c : Char) (text : List Char)
    : position.advanceOver (c :: text) = (position.advance c).advanceOver text :=
  rfl

@[simp]
theorem Position.advanceOver_append (position : Position) (left right : List Char)
    : position.advanceOver (left ++ right)
      = (position.advanceOver left).advanceOver right :=
  List.foldl_append

namespace Lexer

-----------------------------------------------------------------------------------------
-- Results with more tokens in front
-----------------------------------------------------------------------------------------

/-- The result with tokens that have been completed before. -/
def after (tokens : List Token) (result : Except LexError (List Token))
    : Except LexError (List Token) :=
  result.map (tokens ++ ·)

@[simp]
theorem after_nil (result : Except LexError (List Token)) : after [] result = result := by
  cases result <;> rfl

theorem after_after (first second : List Token) (result : Except LexError (List Token))
    : after first (after second result) = after (first ++ second) result := by
  cases result with
  | error error => rfl
  | ok tokens => simp [after, Except.map]

/-- One step adds the tokens that it completes. -/
theorem run_cons {position : Position} {mode next : Mode} {c : Char} {tokens : List Token}
    (taken : step position mode c = .ok (tokens, next)) (rest : List Char)
    : run position mode (c :: rest) = after tokens (run (position.advance c) next rest) := by
  cases others : run (position.advance c) next rest <;>
    simp [run, taken, others, after, Except.map, bind, Except.bind, pure, Except.pure]

/-- A step that completes no token. -/
theorem run_cons_silent {position : Position} {mode next : Mode} {c : Char}
    (taken : step position mode c = .ok ([], next)) (rest : List Char)
    : run position mode (c :: rest) = run (position.advance c) next rest := by
  rw [run_cons taken, after_nil]

-----------------------------------------------------------------------------------------
-- Comments and words
-----------------------------------------------------------------------------------------

/-- A plain comment is passed over up to the end of its line. -/
theorem run_comment (position : Position) {text rest : List Char} (oneLine : '\n' ∉ text)
    (ends : ∀ c ∈ rest.head?, c = '\n')
    : run position .comment (text ++ rest)
      = run (position.advanceOver text) .gap rest := by
  induction text generalizing position with
  | nil =>
      cases rest with
      | nil => rfl
      | cons c others =>
          obtain rfl : c = '\n' := ends c rfl
          have taken : step position .comment '\n' = .ok ([newlineToken position], .gap) := rfl
          have atGap : step position .gap '\n' = .ok ([newlineToken position], .gap) := rfl
          simp only [List.nil_append, Position.advanceOver_nil, run_cons taken, run_cons atGap]
  | cons c others ih =>
      simp only [List.mem_cons, not_or] at oneLine
      have taken : step position .comment c = .ok ([], .comment) := by
        simp [step, Ne.symm oneLine.1]
      rw [List.cons_append, run_cons_silent taken, ih _ oneLine.2, Position.advanceOver_cons]

theorem docText_eq_docValue (text : List Char) : docText text = docValue text := by
  rw [docText, docValue, List.rdropWhile]
  split
  next rest kept => simp [kept]
  next other =>
    rw [if_neg]
    intro head
    obtain ⟨rest, kept⟩ := List.head?_eq_some_iff.mp head
    exact other rest kept

/-- A doc comment is collected up to the end of its line. -/
theorem run_doc (position start : Position) (collected : List Char) {text rest : List Char}
    (oneLine : '\n' ∉ text) (ends : ∀ c ∈ rest.head?, c = '\n')
    : run position (.doc start collected) (text ++ rest)
      = after [docToken start (collected.reverse ++ text)]
          (run (position.advanceOver text) .gap rest) := by
  induction text generalizing position collected with
  | nil =>
      cases rest with
      | nil => simp [run, finish, after, Except.map]
      | cons c others =>
          obtain rfl : c = '\n' := ends c rfl
          have taken : step position (.doc start collected) '\n'
              = .ok ([docToken start collected.reverse, newlineToken position], .gap) := rfl
          have atGap : step position .gap '\n' = .ok ([newlineToken position], .gap) := rfl
          simp [run_cons taken, run_cons atGap, after_after]
  | cons c others ih =>
      simp only [List.mem_cons, not_or] at oneLine
      have taken : step position (.doc start collected) c
          = .ok ([], .doc start (c :: collected)) := by
        simp [step, Ne.symm oneLine.1]
      rw [List.cons_append, run_cons_silent taken, ih _ _ oneLine.2]
      simp

/-- A word is collected up to the first character that cannot continue it. -/
theorem run_word (position start : Position) (collected : List Char) {text rest : List Char}
    (continues : ∀ c ∈ text, isWordPart c = true) (ends : ∀ c ∈ rest.head?, isWordPart c = false)
    : run position (.word start collected) (text ++ rest)
      = after [wordToken start (collected.reverse ++ text)]
          (run (position.advanceOver text) .gap rest) := by
  induction text generalizing position collected with
  | nil =>
      cases rest with
      | nil => simp [run, finish, after, Except.map]
      | cons c others =>
          have stops : isWordPart c = false := ends c rfl
          simp only [List.nil_append, List.append_nil, Position.advanceOver_nil]
          cases atGap : stepGap position c with
          | error error => simp [run, step, stops, atGap, after, Except.map, bind, Except.bind]
          | ok result =>
              have between : step position .gap c = .ok result := atGap
              have taken : step position (.word start collected) c
                  = .ok (wordToken start collected.reverse :: result.1, result.2) := by
                simp [step, stops, atGap, Except.map]
              rw [run_cons taken, run_cons between, after_after, List.singleton_append]
  | cons c others ih =>
      have taken : step position (.word start collected) c
          = .ok ([], .word start (c :: collected)) := by
        simp [step, continues c]
      rw [List.cons_append, run_cons_silent taken,
        ih _ _ (fun c member => continues c (List.mem_cons_of_mem _ member))]
      simp

-----------------------------------------------------------------------------------------
-- Strings
-----------------------------------------------------------------------------------------

/-- The escapes are the listed ones. -/
theorem escaped?_eq_some_iff {letter value : Char}
    : escaped? letter = some value ↔ (letter, value) ∈ escapes := by
  constructor
  · fun_cases escaped? letter <;> rintro ⟨⟩ <;> simp [escapes]
  · intro listed
    simp only [escapes, List.mem_cons, Prod.mk.injEq, List.not_mem_nil, or_false] at listed
    rcases listed with h | h | h | h | h | h <;> (obtain ⟨rfl, rfl⟩ := h; rfl)

/-- The items of a string are decoded one after the other. -/
theorem run_string (position start : Position) (collected : List Char)
    (items : List StringItem) (rest : List Char)
    : run position (.string start collected)
        (items.flatMap StringItem.text ++ '"' :: rest)
      = after [stringToken start (collected.reverse ++ items.map StringItem.value)]
          (run (position.advanceOver (items.flatMap StringItem.text ++ ['"'])) .gap rest) := by
  induction items generalizing position collected with
  | nil =>
      have taken : step position (.string start collected) '"'
          = .ok ([stringToken start collected.reverse], .gap) := rfl
      simp [run_cons taken]
  | cons item others ih =>
      cases item with
      | plain c free =>
          have taken : step position (.string start collected) c
              = .ok ([], .string start (c :: collected)) := by
            simp [step, free]
          rw [List.flatMap_cons, StringItem.text, List.append_assoc, List.singleton_append,
            run_cons_silent taken, ih]
          simp [StringItem.value]
      | escape letter value listed =>
          have backslash : step position (.string start collected) '\\'
              = .ok ([], .escape start collected position) := rfl
          have stands := escaped?_eq_some_iff.mpr listed
          have taken : step (position.advance '\\') (.escape start collected position) letter
              = .ok ([], .string start (value :: collected)) := by
            simp [step, stands]
          rw [List.flatMap_cons, StringItem.text, List.append_assoc, List.cons_append,
            List.singleton_append, run_cons_silent backslash, run_cons_silent taken, ih]
          simp [StringItem.value]

-----------------------------------------------------------------------------------------
-- Blocks
-----------------------------------------------------------------------------------------

/-- A quoted run is collected as it is, up to the quote that ends it. -/
theorem run_quoted (position start : Position) (collected : List Char) (depth : Nat)
    {quote : Char} (isQuote : quote = '\'' ∨ quote = '"') (items : List (QuotedItem quote))
    (rest : List Char)
    : run position (.quoted start collected depth quote)
        (items.flatMap QuotedItem.text ++ quote :: rest)
      = run (position.advanceOver (items.flatMap QuotedItem.text ++ [quote]))
          (.block start (quote :: ((items.flatMap QuotedItem.text).reverse ++ collected)) depth)
          rest := by
  induction items generalizing position collected with
  | nil =>
      have notBackslash : quote ≠ '\\' := by rcases isQuote with rfl | rfl <;> decide
      have taken : step position (.quoted start collected depth quote) quote
          = .ok ([], .block start (quote :: collected) depth) := by
        simp [step, notBackslash]
      simp [run_cons_silent taken]
  | cons item others ih =>
      cases item with
      | plain c free =>
          have taken : step position (.quoted start collected depth quote) c
              = .ok ([], .quoted start (c :: collected) depth quote) := by
            simp [step, free]
          rw [List.flatMap_cons, QuotedItem.text, List.append_assoc, List.singleton_append,
            run_cons_silent taken, ih]
          simp
      | escape c =>
          have backslash : step position (.quoted start collected depth quote) '\\'
              = .ok ([], .quotedEscape start ('\\' :: collected) depth quote) := rfl
          have taken : step (position.advance '\\')
              (.quotedEscape start ('\\' :: collected) depth quote) c
              = .ok ([], .quoted start (c :: '\\' :: collected) depth quote) := rfl
          rw [List.flatMap_cons, QuotedItem.text, List.append_assoc, List.cons_append,
            List.singleton_append, run_cons_silent backslash, run_cons_silent taken, ih]
          simp

/-- A body is collected as it is and leaves the depth unchanged, by induction on the body.
-/
theorem run_body (position start : Position) (collected : List Char) (depth : Nat)
    (body : Body) (rest : List Char)
    : run position (.block start collected (depth + 1)) (body.text ++ rest)
      = run (position.advanceOver body.text)
          (.block start (body.text.reverse ++ collected) (depth + 1)) rest := by
  induction body generalizing position collected depth rest with
  | empty => rfl
  | plain c free others ih =>
      have taken : step position (.block start collected (depth + 1)) c
          = .ok ([], .block start (c :: collected) (depth + 1)) := by
        simp [step, stepBlock, free]
      rw [Body.text, List.cons_append, run_cons_silent taken, ih]
      simp
  | nested inner others ihInner ihOthers =>
      have opened : step position (.block start collected (depth + 1)) '\x7b'
          = .ok ([], .block start ('\x7b' :: collected) (depth + 1 + 1)) := rfl
      have closed (position : Position) (collected : List Char)
          : step position (.block start collected (depth + 1 + 1)) '\x7d'
            = .ok ([], .block start ('\x7d' :: collected) (depth + 1)) := by
        simp [step, stepBlock]
      rw [Body.text, List.cons_append, run_cons_silent opened, List.append_assoc, ihInner,
        List.cons_append, run_cons_silent (closed _ _), ihOthers]
      simp
  | quoted quote isQuote items others ih =>
      have opened : step position (.block start collected (depth + 1)) quote
          = .ok ([], .quoted start (quote :: collected) (depth + 1) quote) := by
        simp [step, stepBlock, isQuote]
      rw [Body.text, List.cons_append, run_cons_silent opened, List.append_assoc,
        List.cons_append, run_quoted _ _ _ _ isQuote, ih]
      simp

-----------------------------------------------------------------------------------------
-- Pieces
-----------------------------------------------------------------------------------------

/-- The first character of a word is none of those with a meaning of their own. -/
theorem stepGap_of_isWordStart (position : Position) {c : Char} (starts : isWordStart c = true)
    : stepGap position c = .ok ([], .word position [c]) := by
  have other (special : Char) (not : isWordStart special = false) : c ≠ special := by
    rintro rfl
    rw [starts] at not
    cases not
  simp [stepGap, starts, other ' ' (by decide), other '\t' (by decide), other '\r' (by decide),
    other '#' (by decide), other '\n' (by decide), other '"' (by decide),
    other '\x7b' (by decide)]

/-- Between lexemes, a piece adds its token and leads behind its text. -/
theorem run_piece (position : Position) (piece : Piece) {rest : List Char}
    (ends : piece.EndsBefore rest)
    : run position .gap (piece.text ++ rest)
      = after (piece.token? position).toList
          (run (position.advanceOver piece.text) .gap rest) := by
  cases piece with
  | blank c isGap =>
      have taken : step position .gap c = .ok ([], .gap) := by
        simp [step, stepGap, isGap]
      simp [Piece.text, Piece.token?, run_cons_silent taken]
  | comment text isPlain oneLine =>
      have opened : step position .gap '#' = .ok ([], .hash position) := rfl
      rw [Piece.text, List.cons_append, run_cons_silent opened]
      cases text with
      | nil =>
          -- The number sign ends its line, and the mode after it is left at once.
          cases rest with
          | nil => rfl
          | cons c others =>
              obtain rfl : c = '\n' := ends c rfl
              simp only [List.nil_append, Piece.token?, Option.toList_none, after_nil,
                Position.advanceOver_cons, Position.advanceOver_nil]
              have inHash (place : Position)
                  : step place (.hash position) '\n' = .ok ([newlineToken place], .gap) := rfl
              have atGap (place : Position)
                  : step place .gap '\n' = .ok ([newlineToken place], .gap) := rfl
              rw [run_cons (inHash _), run_cons (atGap _)]
      | cons c others =>
          simp only [List.mem_cons, not_or] at oneLine
          have notColon : c ≠ ':' := by simpa using isPlain
          have taken : step (position.advance '#') (.hash position) c = .ok ([], .comment) := by
            simp [step, notColon, Ne.symm oneLine.1]
          rw [List.cons_append, run_cons_silent taken, run_comment _ oneLine.2 ends]
          simp [Piece.token?]
  | lineBreak =>
      have taken : step position .gap '\n' = .ok ([newlineToken position], .gap) := rfl
      simp [Piece.text, Piece.token?, run_cons taken, newlineToken]
  | doc text oneLine =>
      have opened : step position .gap '#' = .ok ([], .hash position) := rfl
      have colon : step (position.advance '#') (.hash position) ':'
          = .ok ([], .doc position []) := rfl
      rw [Piece.text, List.cons_append, List.cons_append, run_cons_silent opened,
        run_cons_silent colon, run_doc _ _ _ oneLine ends]
      simp [Piece.token?, docToken, docText_eq_docValue]
  | string items =>
      have opened : step position .gap '"' = .ok ([], .string position []) := rfl
      rw [Piece.text, List.cons_append, List.append_assoc, List.singleton_append,
        run_cons_silent opened, run_string]
      simp [Piece.token?, stringToken]
  | block body =>
      have opened : step position .gap '\x7b' = .ok ([], .block position [] 1) := rfl
      have closed (place : Position) (collected : List Char)
          : step place (.block position collected 1) '\x7d'
            = .ok ([blockToken position collected.reverse], .gap) := rfl
      rw [Piece.text, List.cons_append, List.append_assoc, List.singleton_append,
        run_cons_silent opened, run_body _ _ _ 0, run_cons (closed _ _)]
      simp [Piece.token?, blockToken]
  | word first others starts continues =>
      have opened : step position .gap first = .ok ([], .word position [first]) :=
        stepGap_of_isWordStart position starts
      have keyword : "import".toList = ['i', 'm', 'p', 'o', 'r', 't'] := by decide
      rw [Piece.text, List.cons_append, run_cons_silent opened, run_word _ _ _ continues ends]
      simp [Piece.token?, wordToken, keyword]
  | equals =>
      have taken : step position .gap '=' = .ok ([equalsToken position], .gap) := by
        have notWord : isWordStart '=' = false := by decide
        simp [step, stepGap, notWord]
      simp [Piece.text, Piece.token?, run_cons taken, equalsToken]

/-- Between lexemes, pieces add their tokens, by induction on the pieces. -/
theorem run_pieces (position : Position) (pieces : List Piece) {rest : List Char}
    (joined : Joined rest pieces)
    : run position .gap (textOf pieces ++ rest)
      = after (tokensFrom position pieces)
          (run (position.advanceOver (textOf pieces)) .gap rest) := by
  induction pieces generalizing position with
  | nil => simp [tokensFrom]
  | cons piece others ih =>
      rw [textOf_cons, List.append_assoc, run_piece position piece joined.1, ih _ joined.2,
        after_after, tokensFrom, Position.advanceOver_append]

/-- The pieces behind start where the pieces in front end. -/
theorem tokensFrom_append (position : Position) (left right : List Piece)
    : tokensFrom position (left ++ right)
      = tokensFrom position left
          ++ tokensFrom (position.advanceOver (textOf left)) right := by
  induction left generalizing position with
  | nil => rfl
  | cons piece rest ih =>
      simp only [List.cons_append, tokensFrom, ih, List.append_assoc, textOf_cons,
        Position.advanceOver_append]

end Lexer

end LiteralEnum
