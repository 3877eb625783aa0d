import LiteralEnum.Proofs.Token.LexicalExactness
import Mathlib.Data.List.Forall2

/-! Where tokens and lexical errors stand. The tokens of a source stand at offsets where their texts
start, one behind the other. A source that is refused is lexed up to a lexeme that cannot be
completed, and the error is about this lexeme.
-/

namespace LiteralEnum

-----------------------------------------------------------------------------------------
-- Places of offsets
-----------------------------------------------------------------------------------------

/-- The place of an offset of a text. Lines and columns are counted from one; the column counts the
characters since the last line break.
-/
def placeOf (text : List Char) (offset : Nat) : Position where
  line := (text.take offset).count '\n' + 1
  column := ((text.take offset).rtakeWhile (· ≠ '\n')).length + 1

/-- The place after a text from the start on, by induction on the text from its end. -/
theorem advanceOver_start (text : List Char)
    : Position.start.advanceOver text
      = ⟨text.count '\n' + 1, (text.rtakeWhile (· ≠ '\n')).length + 1⟩ := by
  induction text using List.reverseRecOn with
  | nil => rfl
  | append_singleton front c ih =>
      rw [Position.advanceOver_append, ih]
      by_cases lineBreak : c = '\n'
      · simp [Position.advance, lineBreak]
      · simp [Position.advance, lineBreak]

theorem placeOf_append (front rest : List Char)
    : placeOf (front ++ rest) front.length = Position.start.advanceOver front := by
  rw [placeOf, List.take_left, advanceOver_start]

/-- The text of a token starts like this. A word starts with its value. -/
def Token.StartsIn (token : Token) (text : List Char) : Prop :=
  match token.kind with
  | .string => text.head? = some '"'
  | .block => text.head? = some '\x7b'
  | .docComment => text.head? = some '#'
  | .equals => text.head? = some '='
  | .newline => text.head? = some '\n'
  | .identifier | .importWord => token.value ≠ "" ∧ token.value.toList <+: text
  | .endOfSource => text = []

/-- The token stands at an offset of the source: its place is that of the offset, and its text
starts there.
-/
structure Token.IsAt (source : List Char) (token : Token) (offset : Nat) : Prop where
  within : offset ≤ source.length
  position : token.position = placeOf source offset
  starts : token.StartsIn (source.drop offset)

/-- The tokens stand at these offsets, one behind the other. -/
structure StandAt (source : List Char) (tokens : List Token) (offsets : List Nat) : Prop where
  stand : List.Forall₂ (Token.IsAt source) tokens offsets
  ascending : offsets.Pairwise (· < ·)

/-- What an error at an offset is about: a character that starts no lexeme, an escape behind the
first items of a string, or a string or a block that is not closed. The lexeme starts at `start`.
-/
def LexError.Cause.IsAbout (source : List Char) (start offset : Nat) : LexError.Cause → Prop
  | .unexpected c => offset = start ∧ source[offset]? = some c
  | .unknownEscape c =>
      ∃ items : List Lexer.StringItem,
        offset = start + 1 + (items.flatMap Lexer.StringItem.text).length
        ∧ '"' :: (items.flatMap Lexer.StringItem.text ++ ['\\', c]) <+: source.drop start
  | .brokenString | .unclosedString => offset = start ∧ source[offset]? = some '"'
  | .unclosedBlock => offset = start ∧ source[offset]? = some '\x7b'

/-- The error stands at an offset, and the lexeme it is about begins at the offset `start`. -/
structure LexError.IsAt (source : List Char) (error : LexError) (start offset : Nat) : Prop where
  within : offset < source.length
  position : error.position = placeOf source offset
  isAbout : error.cause.IsAbout source start offset

namespace Lexer

-----------------------------------------------------------------------------------------
-- Tokens
-----------------------------------------------------------------------------------------

/-- The token of a piece stands where the piece starts. -/
theorem Piece.isAt_token {front : List Char} {piece : Piece} {token : Token} (rest : List Char)
    (isToken : piece.token? (Position.start.advanceOver front) = some token)
    : token.IsAt (front ++ (piece.text ++ rest)) front.length := by
  refine ⟨by simp, ?_, ?_⟩
  · rw [placeOf_append]
    cases piece <;> simp only [Piece.token?, Option.some.injEq, reduceCtorEq] at isToken
    all_goals rw [← isToken]
  · rw [List.drop_left]
    cases piece with
    | blank | comment => cases isToken
    | word first word starts continues =>
        obtain rfl := Option.some.inj isToken
        have spelled : String.ofList (first :: word) ≠ ""
            ∧ (String.ofList (first :: word)).toList <+: first :: word ++ rest := by simp
        by_cases keyword : first :: word = "import".toList
        · simpa only [Token.StartsIn, if_pos keyword, Piece.text] using spelled
        · simpa only [Token.StartsIn, if_neg keyword, Piece.text] using spelled
    | _ =>
        obtain rfl := Option.some.inj isToken
        rfl

/-- The tokens of pieces stand where their pieces start, by induction on the pieces. -/
theorem exists_offsets (front : List Char) (pieces : List Piece) (rest : List Char)
    : ∃ offsets,
        StandAt (front ++ (textOf pieces ++ rest))
          (tokensFrom (Position.start.advanceOver front) pieces) offsets
        ∧ ∀ offset ∈ offsets, front.length ≤ offset
            ∧ offset < front.length + (textOf pieces).length := by
  induction pieces generalizing front with
  | nil => exact ⟨[], ⟨.nil, .nil⟩, nofun⟩
  | cons piece pieces ih =>
      obtain ⟨offsets, ⟨stand, ascending⟩, bounds⟩ := ih (front ++ piece.text)
      have positive := List.length_pos_iff.mpr piece.text_ne_nil
      rw [List.append_assoc, ← List.append_assoc piece.text, ← textOf_cons,
        Position.advanceOver_append] at stand
      rw [List.length_append] at bounds
      rw [tokensFrom]
      cases isToken : piece.token? (Position.start.advanceOver front) with
      | none =>
          refine ⟨offsets, ⟨stand, ascending⟩, fun offset member => ?_⟩
          have bound := bounds offset member
          rw [textOf_cons, List.length_append]
          omega
      | some token =>
          have first := piece.isAt_token (textOf pieces ++ rest) isToken
          rw [← List.append_assoc piece.text, ← textOf_cons] at first
          refine ⟨front.length :: offsets, ⟨.cons first stand, List.pairwise_cons.mpr
            ⟨fun later member => ?_, ascending⟩⟩, List.forall_mem_cons.mpr
              ⟨⟨le_rfl, ?_⟩, fun later member => ?_⟩⟩
          · have bound := bounds later member
            omega
          · rw [textOf_cons, List.length_append]
            omega
          · have bound := bounds later member
            rw [textOf_cons, List.length_append]
            omega

/-- The tokens of a decomposition, and the end of the source behind them. -/
theorem exists_offsets_decomposedTokens {pieces : List Piece} {source : List Char}
    (decomposition : IsDecomposition pieces source)
    : ∃ offsets, StandAt source (decomposedTokens pieces) offsets := by
  obtain ⟨offsets, ⟨stand, ascending⟩, bounds⟩ := exists_offsets [] pieces []
  rw [List.nil_append, List.append_nil, decomposition.text_eq, Position.advanceOver_nil] at stand
  simp only [decomposition.text_eq, List.length_nil, Nat.zero_add] at bounds
  have ending : Token.IsAt source ⟨.endOfSource, "", Position.start.advanceOver source⟩
      source.length := by
    refine ⟨le_rfl, ?_, List.drop_length⟩
    simpa using (placeOf_append source []).symm
  refine ⟨offsets ++ [source.length], ?_, ?_⟩
  · rw [decomposedTokens, decomposition.text_eq]
    exact List.rel_append stand (.cons ending .nil)
  · refine List.pairwise_append.mpr ⟨ascending, List.pairwise_singleton _ _, ?_⟩
    simpa using fun offset member => (bounds offset member).2

-----------------------------------------------------------------------------------------
-- Lexemes that cannot be completed
-----------------------------------------------------------------------------------------

/-- The fault of a string that is not closed, or not before a backslash that starts no escape. The
text is what is left of the string at a place.
-/
def IsStringFault (start position : Position) (text : List Char) (error : LexError) : Prop :=
  ((error.cause = .brokenString ∨ error.cause = .unclosedString) ∧ error.position = start)
  ∨ ∃ (items : List StringItem) (c : Char) (rest : List Char),
      text = items.flatMap StringItem.text ++ '\\' :: c :: rest
      ∧ error = ⟨.unknownEscape c, position.advanceOver (items.flatMap StringItem.text)⟩

theorem IsStringFault.cons {start position : Position} (item : StringItem) {text : List Char}
    {error : LexError} (fault : IsStringFault start (position.advanceOver item.text) text error)
    : IsStringFault start position (item.text ++ text) error := by
  refine fault.imp_right ?_
  rintro ⟨items, c, rest, rfl, rfl⟩
  exact ⟨item :: items, c, rest, by simp, by simp⟩

/-- A run inside a string that is not closed fails, by induction on the length of the text. An
escape takes two characters at once.
-/
theorem exists_fault_of_string {text : List Char} (isOpen : ¬ ClosesString text)
    (position start : Position) (collected : List Char)
    : ∃ error, run position (.string start collected) text = .error error
        ∧ IsStringFault start position text error := by
  induction size : text.length using Nat.strongRecOn generalizing text position collected with
  | ind size ih =>
    cases text with
    | nil => exact ⟨_, rfl, .inl ⟨.inr rfl, rfl⟩⟩
    | cons c rest =>
        rw [List.length_cons] at size
        by_cases quote : c = '"'
        · exact absurd ⟨[], rest, by rw [quote]; rfl⟩ isOpen
        by_cases backslash : c = '\\'
        · subst backslash
          cases rest with
          | nil => exact ⟨_, rfl, .inl ⟨.inr rfl, rfl⟩⟩
          | cons letter rest =>
              have opened : step position (.string start collected) '\\'
                  = .ok ([], .escape start collected position) := rfl
              rw [run_cons_silent opened]
              cases stands : escaped? letter with
              | none =>
                  refine ⟨⟨.unknownEscape letter, position⟩, ?_, .inr ⟨[], letter, rest, rfl, rfl⟩⟩
                  simp [run, step, stands, bind, Except.bind]
              | some value =>
                  have taken
                      : step (position.advance '\\') (.escape start collected position) letter
                        = .ok ([], .string start (value :: collected)) := by
                    simp [step, stands]
                  let item : StringItem :=
                    .escape letter value (escaped?_eq_some_iff.mp stands)
                  rw [run_cons_silent taken]
                  obtain ⟨error, failed, fault⟩ :=
                    ih rest.length (by rw [← size, List.length_cons]; omega)
                      (fun closes => isOpen (closes.cons item)) _ _ rfl
                  exact ⟨error, failed, fault.cons item⟩
        by_cases lineBreak : c = '\n'
        · refine ⟨⟨.brokenString, start⟩, ?_, .inl ⟨.inl rfl, rfl⟩⟩
          simp [run, step, lineBreak, bind, Except.bind]
        · have taken : step position (.string start collected) c
              = .ok ([], .string start (c :: collected)) := by
            simp [step, quote, backslash, lineBreak]
          let item : StringItem := .plain c ⟨quote, backslash, lineBreak⟩
          rw [run_cons_silent taken]
          obtain ⟨error, failed, fault⟩ :=
            ih rest.length (by omega) (fun closes => isOpen (closes.cons item)) _ _ rfl
          exact ⟨error, failed, fault.cons item⟩

/-- A run inside a block that is not closed fails at the start of the block, by induction on the
text. The three modes of a block lead into each other, so they are taken together.
-/
theorem run_of_not_closes (text : List Char) (start : Position)
    : (∀ position collected depth, ¬ Closes (depth + 1) text
        → run position (.block start collected (depth + 1)) text
          = .error ⟨.unclosedBlock, start⟩)
      ∧ (∀ position collected depth quote, quote = '\'' ∨ quote = '"'
        → ¬ ClosesQuoted quote (depth + 1) text
        → run position (.quoted start collected (depth + 1) quote) text
          = .error ⟨.unclosedBlock, start⟩)
      ∧ ∀ position collected depth quote, quote = '\'' ∨ quote = '"'
        → ¬ ClosesQuoted quote (depth + 1) ('\\' :: text)
        → run position (.quotedEscape start collected (depth + 1) quote) text
          = .error ⟨.unclosedBlock, start⟩ := by
  induction text with
  | nil => exact ⟨fun _ _ _ _ => rfl, fun _ _ _ _ _ _ => rfl, fun _ _ _ _ _ _ => rfl⟩
  | cons c rest ih =>
      obtain ⟨inBlock, inQuoted, inEscape⟩ := ih
      refine ⟨fun position collected depth isOpen => ?_,
        fun position collected depth quote isQuote isOpen => ?_,
        fun position collected depth quote isQuote isOpen => ?_⟩
      · by_cases opensRun : c = '\'' ∨ c = '"'
        · have taken : step position (.block start collected (depth + 1)) c
              = .ok ([], .quoted start (c :: collected) (depth + 1) c) := by
            simp [step, stepBlock, opensRun]
          rw [run_cons_silent taken]
          refine inQuoted _ _ _ _ opensRun fun closes => isOpen ?_
          obtain ⟨items, tail, rfl, closes⟩ := closes
          exact closes.quoted opensRun items
        by_cases opening : c = '\x7b'
        · subst opening
          have taken : step position (.block start collected (depth + 1)) '\x7b'
              = .ok ([], .block start ('\x7b' :: collected) (depth + 1 + 1)) := rfl
          rw [run_cons_silent taken]
          exact inBlock _ _ _ fun closes => isOpen closes.opened
        by_cases closing : c = '\x7d'
        · subst closing
          cases depth with
          | zero => exact absurd (Closes.closed ⟨[], rest, rfl, rfl⟩) isOpen
          | succ depth =>
              have taken : step position (.block start collected (depth + 1 + 1)) '\x7d'
                  = .ok ([], .block start ('\x7d' :: collected) (depth + 1)) := by
                simp [step, stepBlock]
              rw [run_cons_silent taken]
              exact inBlock _ _ _ fun closes => isOpen closes.closed
        · have taken : step position (.block start collected (depth + 1)) c
              = .ok ([], .block start (c :: collected) (depth + 1)) := by
            simp [step, stepBlock, opensRun, opening, closing]
          rw [run_cons_silent taken]
          rw [not_or] at opensRun
          exact inBlock _ _ _ fun closes => isOpen (closes.plain ⟨opening, closing, opensRun⟩)
      · have notBackslash : quote ≠ '\\' := by rcases isQuote with rfl | rfl <;> decide
        by_cases backslash : c = '\\'
        · subst backslash
          have taken : step position (.quoted start collected (depth + 1) quote) '\\'
              = .ok ([], .quotedEscape start ('\\' :: collected) (depth + 1) quote) := rfl
          rw [run_cons_silent taken]
          exact inEscape _ _ _ _ isQuote isOpen
        by_cases ending : c = quote
        · subst ending
          have taken : step position (.quoted start collected (depth + 1) c) c
              = .ok ([], .block start (c :: collected) (depth + 1)) := by
            simp [step, backslash]
          rw [run_cons_silent taken]
          exact inBlock _ _ _ fun closes => isOpen ⟨[], rest, rfl, closes⟩
        · have taken : step position (.quoted start collected (depth + 1) quote) c
              = .ok ([], .quoted start (c :: collected) (depth + 1) quote) := by
            simp [step, backslash, ending]
          rw [run_cons_silent taken]
          exact inQuoted _ _ _ _ isQuote fun closes =>
            isOpen (closes.cons (.plain c ⟨backslash, ending⟩))
      · have taken : step position (.quotedEscape start collected (depth + 1) quote) c
            = .ok ([], .quoted start (c :: collected) (depth + 1) quote) := rfl
        rw [run_cons_silent taken]
        exact inQuoted _ _ _ _ isQuote fun closes => isOpen (closes.cons (.escape c))

-----------------------------------------------------------------------------------------
-- Sources that are refused
-----------------------------------------------------------------------------------------

/-- Some piece may stand at the start of the text. -/
def BeginsWithPiece (text : List Char) : Prop :=
  ∃ (piece : Piece) (remaining : List Char),
    text = piece.text ++ remaining ∧ piece.EndsBefore remaining

/-- Every text is cut into pieces up to an offset at which no piece begins, by induction on its
length.
-/
theorem exists_front (text : List Char)
    : ∃ pieces rest,
        text = textOf pieces ++ rest ∧ Joined rest pieces ∧ ¬ BeginsWithPiece rest := by
  induction size : text.length using Nat.strongRecOn generalizing text with
  | ind size ih =>
    by_cases begins : BeginsWithPiece text
    · obtain ⟨piece, remaining, rfl, ends⟩ := begins
      have positive := List.length_pos_iff.mpr piece.text_ne_nil
      rw [List.length_append] at size
      obtain ⟨pieces, rest, rfl, joined, stuck⟩ := ih remaining.length (by omega) remaining rfl
      exact ⟨piece :: pieces, rest, by simp, ⟨ends, joined⟩, stuck⟩
    · exact ⟨[], text, rfl, trivial, begins⟩

theorem unexpected_of_stepGap {position : Position} {c : Char} {error : LexError}
    (refused : stepGap position c = .error error) : error = ⟨.unexpected c, position⟩ := by
  rw [stepGap] at refused
  repeat' split at refused
  all_goals cases refused
  rfl

/-- Where no piece begins a run fails, and the error is about the lexeme that begins there. -/
theorem exists_fault (front : List Char) {c : Char} {rest : List Char}
    (stuck : ¬ BeginsWithPiece (c :: rest))
    : ∃ error offset,
        run (Position.start.advanceOver front) .gap (c :: rest) = .error error
        ∧ error.IsAt (front ++ c :: rest) front.length offset := by
  have here : (front ++ c :: rest)[front.length]? = some c := by simp
  have within : front.length < (front ++ c :: rest).length := by simp
  have place := (placeOf_append front (c :: rest)).symm
  cases taken : stepGap (Position.start.advanceOver front) c with
  | error error =>
      obtain rfl := unexpected_of_stepGap taken
      refine ⟨⟨.unexpected c, Position.start.advanceOver front⟩, front.length, ?_, within, place,
        rfl, here⟩
      simp [run, step, taken, bind, Except.bind]
  | ok result =>
      by_cases string : c = '"' ∧ ¬ ClosesString rest
      · obtain ⟨rfl, isOpen⟩ := string
        have opened : step (Position.start.advanceOver front) .gap '"'
            = .ok ([], .string (Position.start.advanceOver front) []) := rfl
        rw [run_cons_silent opened]
        obtain ⟨error, failed, fault⟩ := exists_fault_of_string isOpen _ _ _
        refine ⟨error, ?_⟩
        rcases fault with ⟨cause, position⟩ | ⟨items, letter, tail, rfl, rfl⟩
        · refine ⟨front.length, failed, within, position.trans place, ?_⟩
          rcases cause with broken | unclosed
          · rw [broken]
            exact ⟨rfl, here⟩
          · rw [unclosed]
            exact ⟨rfl, here⟩
        · have split : front ++ '"' :: (items.flatMap StringItem.text ++ '\\' :: letter :: tail)
              = (front ++ '"' :: items.flatMap StringItem.text) ++ '\\' :: letter :: tail := by
            simp
          have length : (front ++ '"' :: items.flatMap StringItem.text).length
              = front.length + 1 + (items.flatMap StringItem.text).length := by
            simp
            omega
          refine ⟨front.length + 1 + (items.flatMap StringItem.text).length, failed, ?_, ?_,
            items, rfl, ?_⟩
          · rw [split, List.length_append, length]
            simp
          · rw [split, ← length, placeOf_append]
            simp
          · rw [List.drop_left]
            exact ⟨tail, by simp⟩
      by_cases block : c = '\x7b' ∧ ¬ Closes 1 rest
      · obtain ⟨rfl, isOpen⟩ := block
        have opened : step (Position.start.advanceOver front) .gap '\x7b'
            = .ok ([], .block (Position.start.advanceOver front) [] 1) := rfl
        rw [run_cons_silent opened]
        exact ⟨_, front.length, (run_of_not_closes rest _).1 _ _ 0 isOpen, within, place, rfl, here⟩
      · rw [not_and, not_not] at string block
        exact absurd (exists_piece_of_step taken string block) stuck

/-- A source that is refused is lexed up to the lexeme that the error is about. -/
theorem exists_front_of_error {source : String} {error : LexError}
    (failed : Token.ofSource source = .error error)
    : ∃ pieces rest offset, source.toList = textOf pieces ++ rest ∧ Joined rest pieces
        ∧ error.IsAt source.toList (textOf pieces).length offset := by
  obtain ⟨pieces, rest, split, joined, stuck⟩ := exists_front source.toList
  rw [Token.ofSource, split, run_pieces _ _ joined] at failed
  cases rest with
  | nil => simp [run, finish, after, Except.map] at failed
  | cons c rest =>
      obtain ⟨other, offset, stops, isAt⟩ := exists_fault (textOf pieces) stuck
      rw [stops] at failed
      obtain rfl : other = error := by simpa [after, Except.map] using failed
      exact ⟨pieces, c :: rest, offset, split, joined, split ▸ isAt⟩

end Lexer

end LiteralEnum
