import LiteralEnum.Proofs.Text.Blank
import LiteralEnum.Proofs.Token.PieceScanning

/-! Returns before line feeds. A source whose lines end in a return and a line feed is lexed as the
source whose lines end in a line feed: the breaks stand one column further right, and the text of
blocks keeps the returns.
-/

namespace LiteralEnum

-----------------------------------------------------------------------------------------
-- Texts
-----------------------------------------------------------------------------------------

namespace Text

/-- The text with a return before each line feed. -/
def withReturns (text : List Char) : List Char :=
  text.flatMap fun c => if c = '\n' then ['\r', '\n'] else [c]

@[simp]
theorem withReturns_nil : withReturns [] = [] := rfl

@[simp]
theorem withReturns_break (rest : List Char)
    : withReturns ('\n' :: rest) = '\r' :: '\n' :: withReturns rest := rfl

theorem withReturns_cons {c : Char} (other : c ≠ '\n') (rest : List Char)
    : withReturns (c :: rest) = c :: withReturns rest := by
  simp [withReturns, other]

@[simp]
theorem withReturns_append (left right : List Char)
    : withReturns (left ++ right) = withReturns left ++ withReturns right :=
  List.flatMap_append

theorem withReturns_concat {c : Char} (other : c ≠ '\n') (front : List Char)
    : withReturns (front ++ [c]) = withReturns front ++ [c] := by
  rw [withReturns_append, withReturns_cons other, withReturns_nil]

@[simp]
theorem withReturns_eq_nil {text : List Char} : withReturns text = [] ↔ text = [] := by
  cases text with
  | nil => simp
  | cons c rest =>
      by_cases lineBreak : c = '\n'
      · simp [lineBreak]
      · simp [withReturns_cons lineBreak]

/-- A text without line feeds stays as it is. -/
theorem withReturns_of_not_mem {text : List Char} (oneLine : '\n' ∉ text)
    : withReturns text = text := by
  induction text with
  | nil => rfl
  | cons c rest ih =>
      rw [List.mem_cons, not_or] at oneLine
      rw [withReturns_cons (Ne.symm oneLine.1), ih oneLine.2]

theorem stripLeft_withReturns (text : List Char)
    : stripLeft (withReturns text) = withReturns (stripLeft text) := by
  induction text with
  | nil => rfl
  | cons c rest ih =>
      have feed : isBlank '\n' = true := by decide
      have carriage : isBlank '\r' = true := by decide
      rw [stripLeft] at ih
      by_cases lineBreak : c = '\n'
      · simp [lineBreak, stripLeft, feed, carriage, ih]
      · cases blank : isBlank c <;> simp [withReturns_cons lineBreak, stripLeft, blank, ih]

theorem stripRight_withReturns (text : List Char)
    : stripRight (withReturns text) = withReturns (stripRight text) := by
  have right (text : List Char) : stripRight text = text.rdropWhile isBlank := rfl
  simp only [right]
  induction text using List.reverseRecOn with
  | nil => rfl
  | append_singleton front c ih =>
      have feed : isBlank '\n' = true := by decide
      have carriage : isBlank '\r' = true := by decide
      by_cases lineBreak : c = '\n'
      · have pair : withReturns (front ++ ['\n']) = withReturns front ++ ['\r'] ++ ['\n'] := by simp
        rw [lineBreak, pair, List.rdropWhile_concat_pos _ _ _ feed,
          List.rdropWhile_concat_pos _ _ _ carriage, List.rdropWhile_concat_pos _ _ _ feed, ih]
      · cases blank : isBlank c <;> simp [withReturns_concat lineBreak, blank, ih]

/-- Stripping takes the returns of the line ends that it takes. -/
theorem strip_withReturns (text : List Char)
    : strip (withReturns text) = withReturns (strip text) := by
  rw [strip, strip, stripLeft_withReturns, stripRight_withReturns]

end Text

-----------------------------------------------------------------------------------------
-- Tokens
-----------------------------------------------------------------------------------------

/-- The token in a source with returns: a block has returns in its text, and a line break stands
behind its return.
-/
def Token.withReturns (token : Token) : Token :=
  match token.kind with
  | .block => { token with value := String.ofList (Text.withReturns token.value.toList) }
  | .newline => { token with position := token.position.advance '\r' }
  | _ => token

/-- An escaped line end is refused at its return. -/
def LexError.withReturns (error : LexError) : LexError :=
  match error.cause with
  | .unknownEscape '\n' => { error with cause := .unknownEscape '\r' }
  | _ => error

namespace Lexer

/-- The mode in a source with returns. Text is held last character first. -/
def Mode.withReturns : Mode → Mode
  | .block start text depth => .block start (Text.withReturns text.reverse).reverse depth
  | .quoted start text depth quote =>
      .quoted start (Text.withReturns text.reverse).reverse depth quote
  | .quotedEscape start text depth quote =>
      .quotedEscape start (Text.withReturns text.reverse).reverse depth quote
  | mode => mode

/-- What is open in a block is one of the two quotes. -/
def Mode.IsQuoted : Mode → Prop
  | .quoted _ _ _ quote | .quotedEscape _ _ _ quote => quote = '\'' ∨ quote = '"'
  | _ => True

/-- What a step comes to in a source with returns. -/
def stepReturns (result : Except LexError (List Token × Mode))
    : Except LexError (List Token × Mode) :=
  (result.map fun (tokens, next) => (tokens.map Token.withReturns, next.withReturns)).mapError
    LexError.withReturns

/-- What a run comes to in a source with returns. -/
def runReturns (result : Except LexError (List Token)) : Except LexError (List Token) :=
  (result.map (List.map Token.withReturns)).mapError LexError.withReturns

theorem withReturns_blockToken (start : Position) (text : List Char)
    : (blockToken start text).withReturns = blockToken start (Text.withReturns text) := by
  simp [Token.withReturns, blockToken, Text.strip_withReturns]

theorem withReturns_newlineToken (position : Position)
    : (newlineToken position).withReturns = newlineToken (position.advance '\r') := rfl

theorem withReturns_docToken (start : Position) (text : List Char)
    : (docToken start text).withReturns = docToken start text := rfl

theorem withReturns_wordToken (start : Position) (text : List Char)
    : (wordToken start text).withReturns = wordToken start text := by
  unfold Token.withReturns wordToken
  split_ifs <;> rfl

-----------------------------------------------------------------------------------------
-- Steps
-----------------------------------------------------------------------------------------

variable {position : Position} {mode next : Mode} {c : Char} {tokens : List Token}

theorem stepGap_withReturns (other : c ≠ '\n')
    : stepGap position c = stepReturns (stepGap position c) := by
  unfold stepGap
  split_ifs <;> simp_all [stepReturns, Except.map, Except.mapError, Mode.withReturns,
    Token.withReturns, equalsToken, LexError.withReturns]

/-- A block collects a character other than a line feed as it is. -/
theorem stepBlock_withReturns (start : Position) (text : List Char) (depth : Nat)
    (other : c ≠ '\n')
    : .ok (stepBlock start (Text.withReturns text.reverse).reverse depth c)
      = stepReturns (.ok (stepBlock start text depth c)) := by
  unfold stepBlock
  split_ifs <;> simp_all [stepReturns, Except.map, Except.mapError, Mode.withReturns,
    Text.withReturns_cons, withReturns_blockToken]

/-- A character other than a line feed is read as before, in any mode. -/
theorem step_withReturns (other : c ≠ '\n')
    : step position mode.withReturns c = stepReturns (step position mode c) := by
  cases mode with
  | gap => exact stepGap_withReturns other
  | block start text depth => exact stepBlock_withReturns start text depth other
  | word start text =>
      have gap : stepGap position c = stepReturns (stepGap position c) := stepGap_withReturns other
      simp only [Mode.withReturns, step]
      split_ifs
      · rfl
      · cases taken : stepGap position c with
        | error error =>
            rw [taken] at gap
            exact gap
        | ok result =>
            rw [taken] at gap
            simp only [stepReturns, Except.map, Except.mapError, Except.ok.injEq] at gap ⊢
            simpa [withReturns_wordToken] using Prod.ext_iff.mp gap
  | escape start text backslash =>
      simp only [Mode.withReturns, step]
      cases escaped? c <;>
        simp_all [stepReturns, Except.map, Except.mapError, Mode.withReturns, LexError.withReturns]
  | quotedEscape start text depth quote =>
      simp [step, stepReturns, Except.map, Except.mapError, Mode.withReturns,
        Text.withReturns_cons other]
  | _ =>
      simp only [Mode.withReturns, step]
      split_ifs <;> simp_all [stepReturns, Except.map, Except.mapError, Mode.withReturns,
        Text.withReturns_cons, stringToken, Token.withReturns]

/-- The tokens and the mode behind a return and a line feed. -/
def stepPair (position : Position) (mode : Mode) : Except LexError (List Token × Mode) := do
  let (before, middle) ← step position mode '\r'
  let (tokens, next) ← step (position.advance '\r') middle '\n'
  return (before ++ tokens, next)

theorem docText_concat_return (text : List Char) : docText (text ++ ['\r']) = docText text := by
  simp [docText_eq_docValue, docValue]

/-- A return and a line feed come to what a line feed comes to, in any mode: the return is a blank,
a part of a comment, or a character of a string or a block.
-/
theorem stepPair_withReturns (isQuoted : mode.IsQuoted)
    : stepPair position mode.withReturns = stepReturns (step position mode '\n') := by
  have stops : isWordPart '\r' = false := by decide
  have ends : isWordPart '\n' = false := by decide
  cases mode with
  | word start text =>
      simp [stepPair, step, stepGap, Mode.withReturns, stops, ends, stepReturns, Except.map,
        Except.mapError, bind, Except.bind, pure, Except.pure, withReturns_wordToken,
        withReturns_newlineToken]
  | doc start text =>
      simp [stepPair, step, Mode.withReturns, stepReturns, Except.map, Except.mapError, bind,
        Except.bind, pure, Except.pure, withReturns_newlineToken, withReturns_docToken]
      simp [docToken, docText_concat_return]
  | quoted start text depth quote =>
      rcases isQuoted with rfl | rfl <;>
        simp [stepPair, step, Mode.withReturns, stepReturns, Except.map, Except.mapError, bind,
          Except.bind, pure, Except.pure]
  | quotedEscape start text depth quote =>
      rcases isQuoted with rfl | rfl <;>
        simp [stepPair, step, Mode.withReturns, stepReturns, Except.map, Except.mapError, bind,
          Except.bind, pure, Except.pure]
  | block start text depth =>
      simp [stepPair, step, stepBlock, Mode.withReturns, stepReturns, Except.map, Except.mapError,
        bind, Except.bind, pure, Except.pure]
  | _ => rfl

theorem finish_withReturns
    : finish position mode.withReturns = runReturns (finish position mode) := by
  have ending : (⟨.endOfSource, "", position⟩ : Token).withReturns = ⟨.endOfSource, "", position⟩ :=
    rfl
  cases mode <;>
    simp [finish, runReturns, Mode.withReturns, Except.map, Except.mapError, withReturns_docToken,
      withReturns_wordToken, ending, LexError.withReturns]

/-- The quotes of a block stay what they are. -/
theorem isQuoted_of_step (isQuoted : mode.IsQuoted)
    (taken : step position mode c = .ok (tokens, next)) : next.IsQuoted := by
  have gap {completed : List Token} {after : Mode}
      (taken : stepGap position c = .ok (completed, after)) : after.IsQuoted := by
    unfold stepGap at taken
    split_ifs at taken <;> cases taken <;> trivial
  cases mode with
  | gap => exact gap taken
  | word start text =>
      rw [step] at taken
      split_ifs at taken
      · cases taken
        trivial
      · cases between : stepGap position c with
        | error error => simp [between, Except.map] at taken
        | ok result =>
            simp only [between, Except.map, Except.ok.injEq, Prod.mk.injEq] at taken
            exact taken.2 ▸ gap between
  | block start text depth =>
      simp only [step, stepBlock] at taken
      split_ifs at taken with isQuote <;> cases taken <;> first | exact isQuote | trivial
  | escape start text backslash =>
      rw [step] at taken
      split at taken <;> cases taken
      trivial
  | quotedEscape start text depth quote =>
      cases taken
      exact isQuoted
  | _ =>
      rw [step] at taken
      split_ifs at taken <;> cases taken <;> first | exact isQuoted | trivial

theorem run_pair (position : Position) (mode : Mode) (rest : List Char)
    : run position mode ('\r' :: '\n' :: rest)
      = (do
        let (tokens, next) ← stepPair position mode
        let others ← run (position.advance '\n') next rest
        return tokens ++ others) := by
  have place : (position.advance '\r').advance '\n' = position.advance '\n' := rfl
  rw [run, stepPair]
  cases step position mode '\r' with
  | error error => rfl
  | ok result =>
      obtain ⟨before, middle⟩ := result
      simp only [bind, Except.bind, run, place]
      cases step (position.advance '\r') middle '\n' with
      | error error => rfl
      | ok result =>
          obtain ⟨tokens, next⟩ := result
          cases others : run (position.advance '\n') next rest <;>
            simp [others, pure, Except.pure]

/-- A run on a source with returns comes to what a run on the source comes to, by induction on the
text.
-/
theorem run_withReturns (position : Position) {mode : Mode} (isQuoted : mode.IsQuoted)
    (text : List Char)
    : run position mode.withReturns (Text.withReturns text)
      = runReturns (run position mode text) := by
  induction text generalizing position mode with
  | nil => exact finish_withReturns
  | cons c rest ih =>
      have unread
          : run position mode.withReturns (Text.withReturns (c :: rest))
            = (do
              let (tokens, next) ← stepReturns (step position mode c)
              let others ← run (position.advance c) next (Text.withReturns rest)
              return tokens ++ others) := by
        by_cases lineBreak : c = '\n'
        · rw [lineBreak, Text.withReturns_break, run_pair, stepPair_withReturns isQuoted]
        · rw [Text.withReturns_cons lineBreak, run, step_withReturns lineBreak]
      rw [unread, run]
      cases taken : step position mode c with
      | error error => rfl
      | ok result =>
          obtain ⟨tokens, next⟩ := result
          have further := ih (position.advance c) (isQuoted_of_step isQuoted taken)
          cases others : run (position.advance c) next rest <;>
            simp_all [stepReturns, runReturns, Except.map, Except.mapError, bind, Except.bind, pure,
              Except.pure]

/-- Lexing a source with returns. -/
theorem ofSource_withReturns (source : String)
    : Token.ofSource (String.ofList (Text.withReturns source.toList))
      = runReturns (Token.ofSource source) := by
  have isQuoted : Mode.gap.IsQuoted := trivial
  have whole := run_withReturns .start isQuoted source.toList
  rw [Token.ofSource, String.toList_ofList]
  exact whole

end Lexer

end LiteralEnum
