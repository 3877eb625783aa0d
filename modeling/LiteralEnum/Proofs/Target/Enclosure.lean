import LiteralEnum.Proofs.Target.ClosedLine
import LiteralEnum.Proofs.Target.EarlyClosing

/-! The lines of a text in parentheses, by itself and as an element of a table. Where the text
by itself does not close its parentheses early and the tokens of the table can all be read,
both readings have the same tokens, and the parenthesis behind the text closes the one before
it.
-/

namespace LiteralEnum.Target

-----------------------------------------------------------------------------------------
-- The end of a table
-----------------------------------------------------------------------------------------

/-- The last line of a table. -/
def tableEnd : List Char := [')', '\n']

/-- A string in three quotes that is open before the end of a table is never closed. -/
theorem failure_of_string {state : LineState} (sound : state.IsSound) {string : OpenString}
    (pending : state.pending = some string) (isTriple : string.isTriple = true)
    (before : List Char) : (scanLines state before [tableEnd]).failure ≠ none := by
  obtain ⟨-, isQuote⟩ := sound string pending
  have marks : state.marks tableEnd
      = [.opening { string with text := string.text ++ tableEnd }] := by
    have unclosed : closeTriple? string.quote [] tableEnd = none := by
      rcases isQuote with same | same <;> rw [same] <;> decide
    simp only [LineState.marks, pending, OpenString.marks, isTriple, if_true, unclosed,
      Bool.not_true, Bool.false_and]
    rfl
  have isOpen : state.pending ≠ none := by simp [pending]
  rw [scanLines_cons (scanLine_eq sound (.inr (.inr isOpen)) tableEnd), LineState.readLine, marks]
  simp [LineState.read, scanLines]

/-- The end of a table closes one bracket. -/
theorem depth_of_tableEnd {state : LineState} (noString : state.pending = none)
    (isOpen : state.depth ≠ 0) {before : List Char}
    (accepted : (scanLines state before [tableEnd]).failure = none) : state.depth = 1 := by
  have sound : state.IsSound := LineState.isSound_of_noString noString
  have marks : state.marks tableEnd = [.token ⟨.operator, [')']⟩, .lineBreak ['\n']] := by
    simp only [LineState.marks, noString]
    decide
  rw [scanLines_cons (scanLine_eq sound (.inl isOpen) tableEnd), LineState.readLine, marks]
    at accepted
  simp only [LineState.read, scanRest.add, pass_operator, LineState.resumed, scanLines] at accepted
  by_contra other
  have notClosed : ¬nextDepth state.depth [')'] = 0 := by
    intro same
    have : nextDepth state.depth [')'] = state.depth - 1 := rfl
    omega
  simp [notClosed] at accepted

-----------------------------------------------------------------------------------------
-- A text that is closed before its end
-----------------------------------------------------------------------------------------

/-- The lines of a text and what follows it. -/
def closedLines (lines : List (List Char)) (last : List Char) (closing : Closing)
    : List (List Char) :=
  lines ++ [last ++ closing.text]

theorem wholeLine_element {last : List Char} (inLine : InLine last)
    : IsWholeLine (last ++ Closing.element.text) := by
  refine ⟨last ++ [')', ','], ⟨?_, ?_⟩, .inl (by simp [Closing.text])⟩
  · simpa using inLine.1
  · simpa using inLine.2

/-- Where no bracket is open and only layout is to come, a string takes the closing in, by
induction on the lines.
-/
theorem failure_of_blank {lines : List (List Char)} {last : List Char} {state : LineState}
    (sound : state.IsSound) (closed : state.depth = 0) (noIndent : state.indents = [])
    (whole : ∀ line ∈ lines, IsWholeLine line) (inLine : InLine last) (before : List Char)
    (blank : IsBlank (lineTokens state (closedLines lines last .alone)))
    : (scanLines state.deeper before (closedLines lines last .element ++ [tableEnd])).failure
      ≠ none := by
  induction lines generalizing state before with
  | nil =>
      obtain ⟨tokens, next, read, ofBlank⟩ :=
        scanLine_blank sound closed noIndent (holdsPiece_closing inLine .alone)
      simp only [closedLines, List.nil_append, lineTokens_cons read] at blank
      obtain ⟨blank, -⟩ := ofBlank (IsBlank.append.mp blank).1
      rw [LineState.readLine] at blank
      cases comesTo_marks sound inLine with
      | closing tokens found =>
          rw [found, read_tokens] at blank
          exact absurd (blank _ (List.mem_append_right tokens List.mem_cons_self))
            Bool.false_ne_true
      | token tokens swallowing behind solid breaks found =>
          rw [found, read_tokens] at blank
          have layout := blank _ (List.mem_append_right tokens List.mem_cons_self)
          rw [(solid .alone).1] at layout
          cases layout
      | string tokens string isTriple found =>
          have pending : (state.readLine (last ++ Closing.element.text)).2.pending
              = some (string .element) := by
            rw [LineState.readLine, found, read_tokens]
            rfl
          simp only [closedLines, List.nil_append, List.cons_append,
            scanLines_cons (scanLine_deeper sound (Int.le_of_eq closed.symm) _)]
          have sound := (sound.readLine (wholeLine_element inLine).endsOnce).deeper
          exact failure_of_string sound pending (isTriple .element) _
  | cons line lines ih =>
      obtain ⟨first, others⟩ := List.forall_mem_cons.mp whole
      obtain ⟨tokens, next, read, ofBlank⟩ :=
        scanLine_blank sound closed noIndent first.holdsPiece
      simp only [closedLines, List.cons_append, lineTokens_cons read] at blank
      obtain ⟨blankLine, blank⟩ := IsBlank.append.mp blank
      obtain ⟨blankLine, rfl⟩ := ofBlank blankLine
      have depth := depth_readLine state line
      rw [closed, blankLine.turns] at depth
      simp only [closedLines, List.cons_append,
        scanLines_cons (scanLine_deeper sound (Int.le_of_eq closed.symm) line)]
      exact ih (sound.readLine first.endsOnce) depth
        ((indents_readLine state line).trans noIndent) others _ blank

-----------------------------------------------------------------------------------------
-- A text that is closed at its end
-----------------------------------------------------------------------------------------

def Token.sign (c : Char) : Token := ⟨.operator, [c]⟩

/-- A line break between the brackets of a statement. -/
def Token.inner : Token := ⟨.blankLine, ['\n']⟩

theorem read_alone (state : LineState)
    : state.read Closing.alone.marks
      = ([.sign ')'], { state with depth := state.depth - 1 }) := rfl

theorem read_element (state : LineState)
    : state.read Closing.element.marks
      = ([.sign ')', .sign ',', ⟨if 1 < state.depth then .blankLine else .newline, ['\n']⟩],
        { state with depth := state.depth - 1 }) := by
  have closed : state.pass ⟨.operator, [')']⟩ = { state with depth := state.depth - 1 } := rfl
  have noBracket (state : LineState) : state.pass ⟨.operator, [',']⟩ = state := by
    rw [pass_operator]
    rfl
  simp only [Closing.marks, LineState.read, scanRest.add, closed, noBracket, Int.sub_pos]
  rfl

theorem read_breaks {marks : List Mark} (breaks : ∀ mark ∈ marks, ∃ text, mark = .lineBreak text)
    (state : LineState) : (state.read marks).2 = state := by
  induction marks with
  | nil => rfl
  | cons mark rest ih =>
      obtain ⟨⟨text, rfl⟩, others⟩ := List.forall_mem_cons.mp breaks
      exact ih others

/-- The last line of a text, by itself and in a table, where the parenthesis behind the text
closes the one before it. No token can take the parenthesis in: two brackets would be open at
the end of the table, which closes one.
-/
theorem closes_lastLine {last : List Char} {state : LineState} (sound : state.IsSound)
    (positive : 0 < state.depth) (noIndent : state.indents = []) (inLine : InLine last)
    (before : List Char)
    (early : closesEarly state.depth false (lineTokens state [last ++ Closing.alone.text]) = false)
    (accepted
      : (scanLines state.deeper before [last ++ Closing.element.text, tableEnd]).failure = none)
    : ∃ tokens, StaysOpen state.depth tokens ∧ state.depth + turns tokens = 1
        ∧ scanLine state (last ++ Closing.alone.text) = .line (tokens ++ [.sign ')']) {}
        ∧ scanLine state.deeper (last ++ Closing.element.text)
          = .line (tokens ++ [.sign ')', .sign ',', .inner]) { depth := 1 } := by
  have alone := scanLine_eq sound (.inl (Int.ne_of_gt positive)) (last ++ Closing.alone.text)
  have element := scanLine_deeper sound (Int.le_of_lt positive) (last ++ Closing.element.text)
  have soundNext := (sound.readLine (wholeLine_element inLine).endsOnce).deeper
  rw [lineTokens_cons alone] at early
  rw [scanLines_cons element] at accepted
  rw [alone, element]
  simp only [LineState.readLine] at early accepted soundNext ⊢
  cases comesTo_marks sound inLine with
  | string tokens string isTriple found =>
      rw [found, read_tokens] at accepted soundNext
      exact absurd accepted (failure_of_string soundNext rfl (isTriple .element) _)
  | token tokens swallowing behind solid breaks found =>
      rw [found, read_tokens, List.append_assoc] at early
      rcases staysOpen_or_blank positive early with ⟨stays, -⟩ | ⟨-, blank⟩
      · have isOpen : 0 < state.depth + turns tokens := stays tokens (List.prefix_refl tokens)
        rw [found, read_tokens, LineState.read, scanRest.add, read_breaks (breaks .element),
          LineState.pass, (solid .element).2, Int.add_zero] at accepted
        have depth : state.depth + turns tokens + 1 = 1 :=
          depth_of_tableEnd rfl (by omega : state.depth + turns tokens + 1 ≠ 0) accepted
        omega
      · have layout := blank _ List.mem_cons_self
        rw [(solid .alone).1] at layout
        cases layout
  | closing tokens found =>
      rw [found, read_tokens, List.append_assoc] at early
      rcases staysOpen_or_blank positive early with ⟨stays, -⟩ | ⟨-, blank⟩
      · have isOpen : 0 < state.depth + turns tokens := stays tokens (List.prefix_refl tokens)
        rw [found, read_tokens, read_element] at accepted
        have depth : state.depth + turns tokens - 1 + 1 = 1 :=
          depth_of_tableEnd rfl (by omega : state.depth + turns tokens - 1 + 1 ≠ 0) accepted
        have depth : state.depth + turns tokens = 1 := by omega
        have same : state.deeper.marks (last ++ Closing.element.text)
            = state.marks (last ++ Closing.element.text) := rfl
        refine ⟨tokens, stays, depth, ?_, ?_⟩
        · rw [found, read_tokens, read_alone]
          simp [LineState.resumed, depth, noIndent]
        · rw [same, found, read_tokens, read_tokens, read_element, read_element, if_pos]
          · simp [LineState.deeper, LineState.resumed, depth, noIndent]
            rfl
          · change 1 < state.depth + 1 + turns tokens
            omega
      · exact absurd (blank _ List.mem_cons_self) Bool.false_ne_true

/-- The lines of a text, by itself and in a table, where the parenthesis behind the text closes
the one before it. By induction on the lines: each leaves a bracket open, or the text is
closed before its end.
-/
theorem closes_lines {lines : List (List Char)} {last : List Char} {state : LineState}
    (sound : state.IsSound) (positive : 0 < state.depth) (noIndent : state.indents = [])
    (whole : ∀ line ∈ lines, IsWholeLine line) (inLine : InLine last) (before : List Char)
    (early : closesEarly state.depth false (lineTokens state (closedLines lines last .alone)) = false)
    (accepted
      : (scanLines state.deeper before (closedLines lines last .element ++ [tableEnd])).failure
        = none)
    : ∃ tokens, StaysOpen state.depth tokens ∧ state.depth + turns tokens = 1
        ∧ ReadsLines state (closedLines lines last .alone) (tokens ++ [.sign ')']) {}
        ∧ ReadsLines state.deeper (closedLines lines last .element)
          (tokens ++ [.sign ')', .sign ',', .inner]) { depth := 1 } := by
  induction lines generalizing state before with
  | nil =>
      obtain ⟨tokens, stays, depth, alone, element⟩ :=
        closes_lastLine sound positive noIndent inLine before early accepted
      exact ⟨tokens, stays, depth, .single alone, .single element⟩
  | cons line lines ih =>
      obtain ⟨first, others⟩ := List.forall_mem_cons.mp whole
      have alone := scanLine_eq sound (.inl (Int.ne_of_gt positive)) line
      have element := scanLine_deeper sound (Int.le_of_lt positive) line
      simp only [closedLines, List.cons_append, lineTokens_cons alone] at early
      simp only [closedLines, List.cons_append, scanLines_cons element] at accepted
      have soundNext := sound.readLine first.endsOnce
      have indentsNext := (indents_readLine state line).trans noIndent
      have depthNext := depth_readLine state line
      rcases staysOpen_or_blank positive early with ⟨stays, early⟩ | ⟨closed, blank⟩
      · have positiveNext : 0 < (state.readLine line).2.depth := by
          rw [depthNext]
          exact stays _ (List.prefix_refl _)
        rw [← depthNext] at early
        obtain ⟨tokens, staysNext, depth, readsAlone, readsElement⟩ :=
          ih soundNext positiveNext indentsNext others _ early accepted
        rw [depthNext] at staysNext depth
        refine ⟨(state.readLine line).1 ++ tokens, stays.append staysNext, ?_, ?_, ?_⟩
        · rw [turns_append, ← Int.add_assoc, depth]
        · rw [List.append_assoc]
          exact .cons alone readsAlone
        · rw [readLine_deeper_tokens stays] at element
          rw [List.append_assoc]
          exact .cons element readsElement
      · rw [← depthNext] at closed
        exact absurd accepted
          (failure_of_blank soundNext closed indentsNext others inLine _ blank)

end LiteralEnum.Target
