import LiteralEnum.Proofs.Target.LineMarks

/-! The lines of a statement that is not at its end, because a bracket or a string is open or
the line before is continued. Such a line is read by its marks, and one bracket more leaves
it as it is.
-/

namespace LiteralEnum.Target

-----------------------------------------------------------------------------------------
-- Marks in order
-----------------------------------------------------------------------------------------

/-- Nothing stands behind a continuation or the opening of a string. -/
inductive Mark.InOrder : List Mark → Prop where
  | nil : InOrder []
  | token {token : Token} {rest : List Mark} (behind : InOrder rest)
    : InOrder (.token token :: rest)
  | lineBreak {text : List Char} {rest : List Mark} (behind : InOrder rest)
    : InOrder (.lineBreak text :: rest)
  | continuation : InOrder [.continuation]
  | opening {string : OpenString} (isQuote : IsQuote string.quote) : InOrder [.opening string]

/-- A line feed stands at most at the end of the text. -/
def EndsOnce (text : List Char) : Prop :=
  ∀ before behind, text = before ++ '\n' :: behind → behind = []

theorem EndsOnce.suffix {text rest : List Char} (ends : EndsOnce text) (suffix : rest <:+ text)
    : EndsOnce rest := by
  obtain ⟨front, rfl⟩ := suffix
  rintro before behind rfl
  exact ends (front ++ before) behind (List.append_assoc ..).symm

/-- The marks of a line are in order, by induction on its length. -/
theorem inOrder_lineMarks {text : List Char} (ends : EndsOnce text)
    : Mark.InOrder (lineMarks text) := by
  by_cases empty : text = []
  · rw [empty]
    exact .nil
  have within : text.dropWhile isSpacing <:+ text := List.dropWhile_suffix isSpacing
  have ofRest (rest : List Char) (shorter : rest.length < text.length) (suffix : rest <:+ text)
      : Mark.InOrder (lineMarks rest) := inOrder_lineMarks (ends.suffix suffix)
  cases found : pieceAt? (text.dropWhile isSpacing) with
  | none =>
      obtain ⟨c, rest, rfl⟩ := List.exists_cons_of_ne_nil empty
      rw [lineMarks_of_error found]
      exact .token (ofRest rest (Nat.lt_succ_self _) (List.suffix_cons c rest))
  | some piece =>
      have splits := splits_of_pieceAt? found
      have fewer := splits.leavesFewer
      have := List.length_dropWhile_le isSpacing text
      rw [lineMarks_of_piece empty found]
      cases piece with
      | nothing => exact .nil
      | continuation rest =>
          obtain ⟨ending, member, whole⟩ := splits
          obtain ⟨before, behind, rfl⟩ := List.append_of_mem member
          have last := ends.suffix within before (behind ++ rest) (by rw [← whole]; simp)
          rw [List.append_eq_nil_iff] at last
          rw [Piece.marks, last.2]
          exact .continuation
      | tripleQuote opening quote rest =>
          obtain ⟨nonempty, whole, isQuote⟩ := splits
          cases closed : closeTriple? quote opening.reverse rest with
          | none =>
              simp only [Piece.marks, closed]
              exact .opening isQuote
          | some close =>
              obtain ⟨read, others⟩ := close
              simp only [Piece.marks, closed]
              obtain ⟨same, -⟩ := append_of_closeTriple? closed
              rw [List.reverse_reverse, whole] at same
              exact .token (ofRest others (Nat.lt_of_lt_of_le (fewer _ _ closed) this)
                (List.IsSuffix.trans ⟨read, same⟩ within))
      | openLine read quote rest => exact .opening splits.2.2
      | token kind word rest =>
          have behind := ofRest rest (Nat.lt_of_lt_of_le fewer this)
            (List.IsSuffix.trans ⟨word, splits.2⟩ within)
          cases kind <;> first | exact .lineBreak behind | exact .token behind
termination_by text.length

-----------------------------------------------------------------------------------------
-- Lines inside a string or a bracket
-----------------------------------------------------------------------------------------

/-- The marks of a line that begins inside a string. -/
def OpenString.marks (string : OpenString) (line : List Char) : List Mark :=
  match if string.isTriple then closeTriple? string.quote [] line
    else closeSingle? string.quote [] line with
  | some (read, rest) => .token ⟨.string, string.text ++ read⟩ :: lineMarks rest
  | none =>
      if !string.isTriple && !endsEscaped line then [.token ⟨.error, string.text ++ line⟩]
      else [.opening { string with text := string.text ++ line }]

/-- The marks of the next line. -/
def LineState.marks (state : LineState) (line : List Char) : List Mark :=
  match state.pending with
  | none => lineMarks line
  | some string => string.marks line

/-- An open string is in quotes, and the line that begins inside it is not continued. -/
def LineState.IsSound (state : LineState) : Prop :=
  ∀ string, state.pending = some string → state.continued = false ∧ IsQuote string.quote

theorem LineState.isSound_of_noString {state : LineState} (noString : state.pending = none)
    : state.IsSound := by
  intro string pending
  rw [noString] at pending
  cases pending

/-- The state in which the marks of the next line are read. -/
def LineState.resumed (state : LineState) : LineState :=
  { state with continued := false, pending := none }

/-- The next line, as one that starts no statement. -/
def LineState.readLine (state : LineState) (line : List Char) : List Token × LineState :=
  state.resumed.read (state.marks line)

theorem scanStringLine_eq {state : LineState} {string : OpenString} (sound : state.IsSound)
    (pending : state.pending = some string) (line : List Char)
    : scanStringLine state string line
      = .line (state.readLine line).1 (state.readLine line).2 := by
  have same : state.resumed = { state with pending := none } := by
    rw [LineState.resumed, ← (sound string pending).1]
  rw [LineState.readLine, same]
  simp only [scanStringLine, LineState.marks, pending, OpenString.marks]
  generalize (if string.isTriple = true then closeTriple? string.quote [] line
    else closeSingle? string.quote [] line) = closing
  cases closing with
  | some close =>
      simp only [LineState.read, scanRest.add, scanLineFrom_eq_read]
      rw [pass_of_ne_operator]
      simp
  | none =>
      simp only
      split <;> simp [LineState.read, scanRest.add, pass_of_ne_operator]

/-- A line that starts no statement is read by its marks. -/
theorem scanLine_eq {state : LineState} (sound : state.IsSound)
    (isOpen : state.depth ≠ 0 ∨ state.continued = true ∨ state.pending ≠ none) (line : List Char)
    : scanLine state line = .line (state.readLine line).1 (state.readLine line).2 := by
  rw [scanLine]
  cases pending : state.pending with
  | some string => exact scanStringLine_eq sound pending line
  | none =>
      have goesOn : ¬(state.depth = 0 ∧ (!state.continued) = true) := by
        simp only [pending, ne_eq, not_true_eq_false, or_false] at isOpen
        rintro ⟨closed, notContinued⟩
        rcases isOpen with isOpen | continued
        · exact isOpen closed
        · rw [continued] at notContinued
          cases notContinued
      simp only
      rw [if_neg goesOn, scanLineFrom_eq_read]
      simp only [LineState.readLine, LineState.resumed, LineState.marks, pending]

-----------------------------------------------------------------------------------------
-- What a line hands on
-----------------------------------------------------------------------------------------

theorem OpenString.inOrder_marks {string : OpenString} (isQuote : IsQuote string.quote)
    {line : List Char} (ends : EndsOnce line) : Mark.InOrder (string.marks line) := by
  rw [OpenString.marks]
  split
  next read rest closed =>
    have suffix : rest <:+ line := by
      split at closed
      · exact ⟨read, (append_of_closeTriple? closed).1⟩
      · exact ⟨read, append_of_closeSingle? closed⟩
    exact .token (inOrder_lineMarks (ends.suffix suffix))
  next =>
    split
    · exact .token .nil
    · exact .opening isQuote

theorem LineState.IsSound.inOrder_marks {state : LineState} (sound : state.IsSound)
    {line : List Char} (ends : EndsOnce line) : Mark.InOrder (state.marks line) := by
  rw [LineState.marks]
  split
  next => exact inOrder_lineMarks ends
  next string pending => exact string.inOrder_marks (sound string pending).2 ends

/-- Marks in order leave no string open in a continued line. -/
theorem isSound_read {state : LineState} {marks : List Mark} (inOrder : Mark.InOrder marks)
    (notContinued : state.continued = false) (noString : state.pending = none)
    : (state.read marks).2.IsSound := by
  induction inOrder generalizing state with
  | nil => exact LineState.isSound_of_noString noString
  | token behind ih => exact ih notContinued noString
  | lineBreak behind ih => exact ih notContinued noString
  | continuation => exact LineState.isSound_of_noString noString
  | opening isQuote =>
      intro string pending
      obtain rfl := Option.some.inj pending
      exact ⟨notContinued, isQuote⟩

theorem LineState.IsSound.readLine {state : LineState} (sound : state.IsSound)
    {line : List Char} (ends : EndsOnce line) : (state.readLine line).2.IsSound :=
  isSound_read (sound.inOrder_marks ends) rfl rfl

theorem depth_readLine (state : LineState) (line : List Char)
    : (state.readLine line).2.depth = state.depth + turns (state.readLine line).1 :=
  depth_read state.resumed (state.marks line)

theorem indents_readLine (state : LineState) (line : List Char)
    : (state.readLine line).2.indents = state.indents :=
  indents_read state.resumed (state.marks line)

theorem readLine_deeper (state : LineState) (line : List Char)
    : (state.deeper.readLine line).2 = (state.readLine line).2.deeper :=
  read_deeper state.resumed (state.marks line)

theorem readLine_deeper_tokens {state : LineState} {line : List Char}
    (stays : StaysOpen state.depth (state.readLine line).1)
    : (state.deeper.readLine line).1 = (state.readLine line).1 :=
  read_deeper_tokens stays

theorem LineState.IsSound.deeper {state : LineState} (sound : state.IsSound)
    : state.deeper.IsSound := sound

/-- A line with one bracket more, which starts no statement. -/
theorem scanLine_deeper {state : LineState} (sound : state.IsSound) (nonneg : 0 ≤ state.depth)
    (line : List Char)
    : scanLine state.deeper line
      = .line (state.deeper.readLine line).1 (state.readLine line).2.deeper := by
  have isOpen : state.deeper.depth ≠ 0 := by
    simp only [LineState.deeper]
    omega
  rw [scanLine_eq sound.deeper (.inl isOpen), readLine_deeper]

end LiteralEnum.Target
