import LiteralEnum.Proofs.Token.Places

/-! Lexing is compositional at line breaks. The lexer is between lexemes at the end of every line
that is lexed by itself, and what it does further down a source differs in the line numbers only.
-/

namespace LiteralEnum

-----------------------------------------------------------------------------------------
-- Further down
-----------------------------------------------------------------------------------------

/-- The place that lies so many lines further down. -/
def Position.below (position : Position) (lines : Nat) : Position :=
  { position with line := position.line + lines }

@[simp]
theorem Position.below_zero (position : Position) : position.below 0 = position := by
  simp [below]

theorem Position.advance_below (position : Position) (lines : Nat) (c : Char)
    : (position.below lines).advance c = (position.advance c).below lines := by
  by_cases lineBreak : c = '\n'
  · simp [advance, below, lineBreak]
    omega
  · simp [advance, below, lineBreak]

def Token.below (lines : Nat) (token : Token) : Token :=
  { token with position := token.position.below lines }

def LexError.below (lines : Nat) (error : LexError) : LexError :=
  { error with position := error.position.below lines }

namespace Lexer

def Mode.below (lines : Nat) : Mode → Mode
  | .gap => .gap
  | .hash start => .hash (start.below lines)
  | .comment => .comment
  | .doc start text => .doc (start.below lines) text
  | .string start text => .string (start.below lines) text
  | .escape start text backslash =>
      .escape (start.below lines) text (backslash.below lines)
  | .block start text depth => .block (start.below lines) text depth
  | .quoted start text depth quote => .quoted (start.below lines) text depth quote
  | .quotedEscape start text depth quote => .quotedEscape (start.below lines) text depth quote
  | .word start text => .word (start.below lines) text

/-- The same tokens or the same error, so many lines further down. -/
def resultBelow (lines : Nat) (result : Except LexError (List Token))
    : Except LexError (List Token) :=
  (result.map (List.map (Token.below lines))).mapError (LexError.below lines)

/-- The same step, so many lines further down. -/
def stepBelow (lines : Nat) (result : Except LexError (List Token × Mode))
    : Except LexError (List Token × Mode) :=
  (result.map fun (tokens, next) => (tokens.map (Token.below lines), next.below lines)).mapError
    (LexError.below lines)

variable (lines : Nat) (position : Position)

theorem stepGap_below (c : Char)
    : stepGap (position.below lines) c = stepBelow lines (stepGap position c) := by
  unfold stepGap
  split_ifs <;> rfl

theorem stepBlock_below (start : Position) (text : List Char) (depth : Nat) (c : Char)
    : .ok (stepBlock (start.below lines) text depth c)
      = stepBelow lines (.ok (stepBlock start text depth c)) := by
  unfold stepBlock
  split_ifs <;> rfl

/-- A step does not depend on the line on which it is made, in any mode. -/
theorem step_below (mode : Mode) (c : Char)
    : step (position.below lines) (mode.below lines) c
      = stepBelow lines (step position mode c) := by
  cases mode with
  | gap => exact stepGap_below lines position c
  | block start text depth => exact stepBlock_below lines start text depth c
  | word start text =>
      simp only [Mode.below, step, stepGap_below]
      split_ifs
      · rfl
      · cases stepGap position c <;> rfl
  | escape start text backslash =>
      simp only [Mode.below, step]
      cases escaped? c <;> rfl
  | quotedEscape start text depth quote => rfl
  | _ =>
      simp only [Mode.below, step]
      split_ifs <;> rfl

theorem finish_below (mode : Mode)
    : finish (position.below lines) (mode.below lines)
      = resultBelow lines (finish position mode) := by
  cases mode <;> rfl

/-- A run does not depend on the line on which it begins, by induction on the text. -/
theorem run_below (mode : Mode) (text : List Char)
    : run (position.below lines) (mode.below lines) text
      = resultBelow lines (run position mode text) := by
  induction text generalizing position mode with
  | nil => exact finish_below lines position mode
  | cons c rest ih =>
      rw [run, run, step_below, Position.advance_below]
      cases taken : step position mode c with
      | error error => rfl
      | ok result =>
          obtain ⟨tokens, next⟩ := result
          have further := ih (position.advance c) next
          cases others : run (position.advance c) next rest <;>
            simp_all [stepBelow, resultBelow, Except.map, Except.mapError, bind, Except.bind, pure,
              Except.pure]

-----------------------------------------------------------------------------------------
-- Joined sources
-----------------------------------------------------------------------------------------

/-- A line break behind a decomposed text ends its last piece. -/
theorem Joined.beforeBreak {pieces : List Piece} (joined : Joined [] pieces) (rest : List Char)
    : Joined ('\n' :: rest) pieces := by
  refine joined.exchange fun piece _ => ?_
  have notPart : isWordPart '\n' = false := by decide
  cases piece <;> simp [Piece.EndsBefore, notPart]

/-- The next line begins below the start of the source, so many lines as the source has. -/
theorem advance_break (text : List Char)
    : (Position.start.advanceOver text).advance '\n'
      = Position.start.below (text.count '\n' + 1) := by
  rw [advanceOver_start]
  simp [Position.advance, Position.below, Position.start]
  omega

/-- Lexing is compositional at line breaks. The tokens of the first source are followed by a line
break in the place of its end, and by what the second source gives, tokens or an error, further down
by the lines of the first.
-/
theorem ofSource_joinLine {first : String} {tokens : List Token}
    (lexed : Token.ofSource first = .ok tokens) (second : String)
    : ∃ front ending,
        tokens = front ++ [⟨.endOfSource, "", ending⟩]
        ∧ Token.ofSource (first ++ "\n" ++ second)
          = match Token.ofSource second with
            | .ok others =>
                .ok (front ++ ⟨.newline, "\\n", ending⟩
                  :: others.map (Token.below (first.toList.count '\n' + 1)))
            | .error error => .error (error.below (first.toList.count '\n' + 1)) := by
  obtain ⟨pieces, decomposition⟩ := exists_decomposition_of_run lexed
  have tokensEq := lexed.symm.trans decomposition.ofSource_eq
  rw [Except.ok.inj tokensEq]
  refine ⟨tokensFrom .start pieces, Position.start.advanceOver (textOf pieces), rfl, ?_⟩
  have text : (first ++ "\n" ++ second).toList = textOf pieces ++ '\n' :: second.toList := by
    rw [decomposition.text_eq, String.toList_append, String.toList_append, List.append_assoc]
    rfl
  have atBreak : step (Position.start.advanceOver (textOf pieces)) .gap '\n'
      = .ok ([newlineToken (Position.start.advanceOver (textOf pieces))], .gap) := rfl
  have further := run_below (first.toList.count '\n' + 1) .start .gap second.toList
  rw [Token.ofSource, text, run_pieces _ _ (decomposition.joined.beforeBreak _), run_cons atBreak,
    advance_break, decomposition.text_eq]
  rw [Mode.below] at further
  rw [further, Token.ofSource]
  cases run .start .gap second.toList with
  | error error => rfl
  | ok others => simp [resultBelow, after, Except.map, Except.mapError, newlineToken]

/-- A line that ends in a doc comment with a return, before a line that is refused. -/
theorem ofSource_joinLine_docComment
    : Token.ofSource "#: one\r"
        = .ok [⟨.docComment, "one", ⟨1, 1⟩⟩, ⟨.endOfSource, "", ⟨1, 8⟩⟩]
      ∧ ∃ front ending,
          [(⟨.docComment, "one", ⟨1, 1⟩⟩ : Token), ⟨.endOfSource, "", ⟨1, 8⟩⟩]
            = front ++ [⟨.endOfSource, "", ending⟩]
          ∧ Token.ofSource ("#: one\r" ++ "\n" ++ "T = $")
            = match Token.ofSource "T = $" with
              | .ok others =>
                  .ok (front ++ ⟨.newline, "\\n", ending⟩
                    :: others.map (Token.below ("#: one\r".toList.count '\n' + 1)))
              | .error error => .error (error.below ("#: one\r".toList.count '\n' + 1)) := by
  have lexed : Token.ofSource "#: one\r"
      = .ok [⟨.docComment, "one", ⟨1, 1⟩⟩, ⟨.endOfSource, "", ⟨1, 8⟩⟩] := by rfl
  exact ⟨lexed, ofSource_joinLine lexed "T = $"⟩

end Lexer

end LiteralEnum
