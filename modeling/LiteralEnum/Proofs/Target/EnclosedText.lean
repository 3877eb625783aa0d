import LiteralEnum.Proofs.Target.Enclosure
import LiteralEnum.Target.Verdict

/-! Texts in parentheses as elements of a table. A text that stays in its parentheses, in a
sample whose tokens can all be read, is one element of every table: its tokens are those it
has by itself, and the table reads on behind its comma as if nothing had stood there.
-/

namespace LiteralEnum.Target

-----------------------------------------------------------------------------------------
-- Lines behind an opening parenthesis
-----------------------------------------------------------------------------------------

theorem pieceAt?_open (line : List Char)
    : pieceAt? ('(' :: line) = some (.token .operator ['('] line) := rfl

theorem lineMarks_open {lead : List Char} (spacing : ∀ c ∈ lead, isSpacing c = true)
    (line : List Char)
    : lineMarks (lead ++ '(' :: line) = .token (.sign '(') :: lineMarks line := by
  have found : pieceAt? ((lead ++ '(' :: line).dropWhile isSpacing)
      = some (.token .operator ['('] line) := by
    rw [List.dropWhile_append_of_pos spacing]
    exact pieceAt?_open line
  rw [lineMarks_of_piece (by simp) found]
  rfl

/-- The state in which the rest of a line behind an opening parenthesis is read, as the next
line of the statement would be.
-/
def insideState (depth : Int) : LineState := { depth := depth, continued := true }

theorem isSound_insideState (depth : Int) : (insideState depth).IsSound :=
  LineState.isSound_of_noString rfl

/-- A parenthesis that starts a statement. -/
theorem scanLine_statement (line : List Char)
    : scanLine {} ('(' :: line)
      = .line (.sign '(' :: ((insideState 1).readLine line).1)
          ((insideState 1).readLine line).2 := by
  have marks := lineMarks_open (List.forall_mem_nil _) line
  have start : scanLine {} ('(' :: line)
      = .line ([] ++ (scanLineFrom {} ('(' :: line)).1) (scanLineFrom {} ('(' :: line)).2 := rfl
  rw [start, scanLineFrom_eq_read, ← List.nil_append ('(' :: line), marks]
  rfl

/-- A parenthesis that starts an element of a table. -/
theorem scanLine_element {lead : List Char} (spacing : ∀ c ∈ lead, isSpacing c = true)
    (line : List Char)
    : scanLine { depth := 1 } (lead ++ ['('] ++ line)
      = .line (.sign '(' :: ((insideState 2).readLine line).1)
          ((insideState 2).readLine line).2 := by
  have sound : LineState.IsSound { depth := 1 } := LineState.isSound_of_noString rfl
  have marks : LineState.marks { depth := 1 } (lead ++ ['('] ++ line)
      = .token (.sign '(') :: lineMarks line := by
    rw [List.append_assoc]
    exact lineMarks_open spacing line
  rw [scanLine_eq sound (.inl (by decide)), LineState.readLine, marks]
  rfl

/-- The lines with something before the first. -/
def leadLines (lead : List Char) : List (List Char) → List (List Char)
  | [] => [lead]
  | line :: rest => (lead ++ line) :: rest

theorem flatten_leadLines (lead : List Char) (lines : List (List Char))
    : (leadLines lead lines).flatten = lead ++ lines.flatten := by
  cases lines <;> simp [leadLines]

/-- The lines of a statement that is one text in parentheses. -/
theorem ReadsLines.statement {lines : List (List Char)} {tokens : List Token} {last : LineState}
    (reads : ReadsLines (insideState 1) lines tokens last) (nonempty : lines ≠ [])
    : ReadsLines {} (leadLines ['('] lines) (.sign '(' :: tokens) last := by
  cases reads with
  | nil => exact absurd rfl nonempty
  | cons first rest =>
      rw [scanLine_eq (isSound_insideState 1) (.inl (by decide))] at first
      obtain ⟨rfl, rfl⟩ := LineResult.line.inj first
      exact .cons (scanLine_statement _) rest

/-- The lines of a text in parentheses within a table. -/
theorem ReadsLines.element {lines : List (List Char)} {tokens : List Token} {last : LineState}
    (reads : ReadsLines (insideState 2) lines tokens last) (nonempty : lines ≠ [])
    {lead : List Char} (spacing : ∀ c ∈ lead, isSpacing c = true)
    : ReadsLines { depth := 1 } (leadLines (lead ++ ['(']) lines) (.sign '(' :: tokens) last := by
  cases reads with
  | nil => exact absurd rfl nonempty
  | cons first rest =>
      rw [scanLine_eq (isSound_insideState 2) (.inl (by decide))] at first
      obtain ⟨rfl, rfl⟩ := LineResult.line.inj first
      exact .cons (scanLine_element spacing _) rest

/-- The first tokens of a text in parentheses. -/
theorem lineTokens_statement {lines : List (List Char)} (nonempty : lines ≠ [])
    : lineTokens {} (leadLines ['('] lines) = .sign '(' :: lineTokens (insideState 1) lines := by
  obtain ⟨line, rest, rfl⟩ := List.exists_cons_of_ne_nil nonempty
  have inside := scanLine_eq (isSound_insideState 1) (.inl (by decide)) line
  rw [lineTokens_cons inside]
  exact lineTokens_cons (scanLine_statement line) rest

theorem failure_leadLines {lines : List (List Char)} (nonempty : lines ≠ [])
    {lead : List Char} (spacing : ∀ c ∈ lead, isSpacing c = true) (before : List Char)
    (others : List (List Char))
    : (scanLines { depth := 1 } before (leadLines (lead ++ ['(']) lines ++ others)).failure
      = (scanLines (insideState 2) before (lines ++ others)).failure := by
  obtain ⟨line, rest, rfl⟩ := List.exists_cons_of_ne_nil nonempty
  have inside := scanLine_eq (isSound_insideState 2) (.inl (by decide)) line
  simp only [leadLines, List.cons_append, scanLines_cons inside,
    scanLines_cons (scanLine_element spacing line)]
  exact failure_scanLines _ _ _ _

-----------------------------------------------------------------------------------------
-- Lines of the texts
-----------------------------------------------------------------------------------------

theorem closedLines_ne_nil (lines : List (List Char)) (last : List Char) (closing : Closing)
    : closedLines lines last closing ≠ [] := by simp [closedLines]

theorem inLine_of_spacing {lead : List Char} (spacing : ∀ c ∈ lead, isSpacing c = true)
    : InLine lead :=
  ⟨fun member => absurd (spacing _ member) (by decide),
    fun member => absurd (spacing _ member) (by decide)⟩

theorem wholeLine_tableEnd : IsWholeLine tableEnd := ⟨[')'], by simp [InLine], .inl rfl⟩

/-- The first line of a sample of data. -/
def sampleStart : List Char := ['_', 'D', 'A', 'T', 'A', ' ', '=', ' ', '(', '\n']

def sampleIndent : List Char := [' ', ' ', ' ', ' ']

theorem isSpacing_sampleIndent : ∀ c ∈ sampleIndent, isSpacing c = true := by
  simp [sampleIndent, isSpacing]

theorem dataSample_eq (text : List Char)
    : Compiler.dataSample text
      = sampleStart ++ (sampleIndent ++ ['(']) ++ text ++ ([')', ',', '\n'] ++ tableEnd) := rfl

theorem wholeLine_sampleStart : IsWholeLine sampleStart :=
  ⟨['_', 'D', 'A', 'T', 'A', ' ', '=', ' ', '('], by simp [InLine], .inl rfl⟩

theorem scanLine_sampleStart
    : scanLine {} sampleStart
      = .line [⟨.name, ['_', 'D', 'A', 'T', 'A']⟩, .sign '=', .sign '(', .inner]
          { depth := 1 } := by
  decide

section

variable {lines : List (List Char)} {last : List Char}

/-- The lines of a text in parentheses by itself. -/
theorem linesWithBreaks_statement (whole : ∀ line ∈ lines, IsWholeLine line)
    (inLine : InLine last)
    : linesWithBreaks ('(' :: (lines.flatten ++ last) ++ [')'])
      = leadLines ['('] (closedLines lines last .alone) := by
  cases lines with
  | nil =>
      have noFeed : '\n' ∉ '(' :: last ++ [')'] := by simpa using inLine.1
      exact linesWithBreaks_inLine noFeed nofun
  | cons line lines =>
      obtain ⟨first, others⟩ := List.forall_mem_cons.mp whole
      have noFeed : '\n' ∉ last ++ [')'] := by simpa using inLine.1
      have first : IsWholeLine ('(' :: line) := first.cons (by decide) (by decide)
      have all := linesWithBreaks_flatten (List.forall_mem_cons.mpr ⟨first, others⟩)
        (last ++ [')'])
      rw [linesWithBreaks_inLine noFeed (by simp)] at all
      simpa [leadLines, closedLines, Closing.text] using all

/-- The lines of a text in parentheses in a table are whole. -/
theorem wholeLines_element (whole : ∀ line ∈ lines, IsWholeLine line) (inLine : InLine last)
    {lead : List Char} (spacing : InLine lead)
    : ∀ line ∈ leadLines (lead ++ ['(']) (closedLines lines last .element), IsWholeLine line := by
  have closed : ∀ line ∈ closedLines lines last .element, IsWholeLine line :=
    List.forall_mem_append.mpr ⟨whole, by simpa using wholeLine_element inLine⟩
  have isOpen : InLine (lead ++ ['(']) := ⟨by simpa using spacing.1, by simpa using spacing.2⟩
  cases parts : closedLines lines last .element with
  | nil => exact absurd parts (closedLines_ne_nil lines last .element)
  | cons line rest =>
      obtain ⟨first, others⟩ := List.forall_mem_cons.mp (parts ▸ closed)
      exact List.forall_mem_cons.mpr ⟨first.append isOpen, others⟩

theorem flatten_element (lead : List Char)
    : (leadLines (lead ++ ['(']) (closedLines lines last .element)).flatten
      = lead ++ '(' :: (lines.flatten ++ last) ++ [')', ',', '\n'] := by
  rw [flatten_leadLines]
  simp [closedLines, Closing.text]

/-- The lines of a sample of data. -/
theorem linesWithBreaks_dataSample (whole : ∀ line ∈ lines, IsWholeLine line)
    (inLine : InLine last)
    : linesWithBreaks (Compiler.dataSample (lines.flatten ++ last))
      = sampleStart :: leadLines (sampleIndent ++ ['(']) (closedLines lines last .element)
        ++ [tableEnd] := by
  have whole : ∀ line ∈ sampleStart
      :: leadLines (sampleIndent ++ ['(']) (closedLines lines last .element) ++ [tableEnd],
      IsWholeLine line := by
    refine List.forall_mem_append.mpr ⟨List.forall_mem_cons.mpr ⟨wholeLine_sampleStart,
      wholeLines_element whole inLine (inLine_of_spacing isSpacing_sampleIndent)⟩, ?_⟩
    simpa using wholeLine_tableEnd
  have all := linesWithBreaks_flatten whole []
  rw [linesWithBreaks, List.append_nil, List.append_nil] at all
  rw [← all, dataSample_eq, List.flatten_append, List.flatten_cons, flatten_element]
  simp only [List.append_assoc, List.cons_append, List.nil_append, List.flatten_cons,
    List.flatten_nil, List.append_nil]

end

-----------------------------------------------------------------------------------------
-- Accepted data expressions
-----------------------------------------------------------------------------------------

/-- Tokens that close the brackets that they open, and no others. -/
structure IsBalanced (tokens : List Token) : Prop where
  beginnings : ∀ front, front <+: tokens → 0 ≤ turns front
  whole : turns tokens = 0

/-- The tokens of a text: those between the parentheses around it. -/
def HasTokens (text : List Char) (inside : List Token) : Prop :=
  ∃ ending, IsBlank ending
    ∧ tokens ('(' :: text ++ [')']) = ⟨.sign '(' :: inside ++ .sign ')' :: ending, none⟩

/-- The text is whole lines, which are read from one state to the other. -/
def ReadsText (state : LineState) (text : List Char) (tokens : List Token) (last : LineState)
    : Prop :=
  ∃ lines, (∀ line ∈ lines, IsWholeLine line) ∧ lines.flatten = text
    ∧ ReadsLines state lines tokens last

/-- The tokens of a text in parentheses. -/
def elementTokens (inside : List Token) : List Token :=
  .sign '(' :: inside ++ [.sign ')']

theorem isBlank_closingTokens (behind : List Char) : IsBlank (closingTokens {} behind) := by
  have either (addsNewline : Bool)
      : IsBlank ((if addsNewline then [⟨.newline, []⟩] else []) ++ [] ++ [⟨.endOfText, []⟩]) := by
    cases addsNewline <;> simp [IsBlank, Token.isLayout]
  exact either _

/-- A text without lone returns that stays in its parentheses, in a sample whose tokens can
all be read, has balanced tokens, and the same in every table.
-/
theorem exists_tokens {text : List Char} (noLone : hasLoneReturn text = false)
    (stays : escapesParentheses text = false)
    (accepted : (tokens (Compiler.dataSample text)).failure = none)
    : ∃ inside, IsBalanced inside ∧ HasTokens text inside
      ∧ ∀ lead : List Char, (∀ c ∈ lead, isSpacing c = true) →
        ReadsText { depth := 1 } (lead ++ '(' :: text ++ [')', ',', '\n'])
          (elementTokens inside ++ [.sign ',', .inner]) { depth := 1 } := by
  obtain ⟨lines, last, rfl, whole, inLine⟩ := exists_wholeLines noLone
  have early : closesEarly (insideState 1).depth false
      (lineTokens (insideState 1) (closedLines lines last .alone)) = false := by
    rw [escapesParentheses, tokens, linesWithBreaks_statement whole inLine] at stays
    have front := closesEarly_front (isPrefix_lineTokens _ _ _) stays
    rwa [lineTokens_statement (closedLines_ne_nil _ _ _)] at front
  have accepted : (scanLines (insideState 1).deeper []
      (closedLines lines last .element ++ [tableEnd])).failure = none := by
    rw [tokens, linesWithBreaks_dataSample whole inLine, List.cons_append,
      scanLines_cons scanLine_sampleStart,
      failure_leadLines (closedLines_ne_nil _ _ _) isSpacing_sampleIndent] at accepted
    rwa [failure_scanLines _ _ sampleStart]
  obtain ⟨inside, staysOpen, depth, alone, element⟩ :=
    closes_lines (isSound_insideState 1) (by decide) rfl whole inLine [] early accepted
  change 1 + turns inside = 1 at depth
  refine ⟨inside, ⟨fun front isFront => ?_, by omega⟩, ?_, fun lead spacing => ?_⟩
  · have : 0 < 1 + turns front := staysOpen front isFront
    omega
  · obtain ⟨behind, read⟩ := (alone.statement (closedLines_ne_nil _ _ _)).scanLines [] []
    rw [List.append_nil, ← linesWithBreaks_statement whole inLine] at read
    refine ⟨closingTokens {} behind, isBlank_closingTokens behind, ?_⟩
    rw [tokens, read]
    simp [scanLines]
  · refine ⟨_, wholeLines_element whole inLine (inLine_of_spacing spacing), flatten_element lead,
      ?_⟩
    simpa [elementTokens] using element.element (closedLines_ne_nil _ _ _) spacing

-----------------------------------------------------------------------------------------
-- Tables
-----------------------------------------------------------------------------------------

theorem ReadsText.append {state middle last : LineState} {text other : List Char}
    {tokens more : List Token} (first : ReadsText state text tokens middle)
    (second : ReadsText middle other more last)
    : ReadsText state (text ++ other) (tokens ++ more) last := by
  obtain ⟨lines, whole, rfl, reads⟩ := first
  obtain ⟨others, wholeOthers, rfl, readsOthers⟩ := second
  exact ⟨lines ++ others, List.forall_mem_append.mpr ⟨whole, wholeOthers⟩, List.flatten_append,
    reads.append readsOthers⟩

theorem ReadsText.line {state next : LineState} {line : List Char} {tokens : List Token}
    (whole : IsWholeLine line) (read : scanLine state line = .line tokens next)
    : ReadsText state line tokens next :=
  ⟨[line], by simpa using whole, by simp, .single read⟩

/-- The tokens of an element without data. -/
theorem readsText_none {lead : List Char} (spacing : ∀ c ∈ lead, isSpacing c = true)
    : ReadsText { depth := 1 } (lead ++ ['N', 'o', 'n', 'e', ',', '\n'])
        [⟨.name, ['N', 'o', 'n', 'e']⟩, .sign ',', .inner] { depth := 1 } := by
  have whole : IsWholeLine (lead ++ ['N', 'o', 'n', 'e', ',', '\n']) := by
    refine IsWholeLine.append ⟨['N', 'o', 'n', 'e', ','], by simp [InLine], .inl rfl⟩ ?_
    exact inLine_of_spacing spacing
  have unspaced : (lead ++ ['N', 'o', 'n', 'e', ',', '\n']).dropWhile isSpacing
      = ['N', 'o', 'n', 'e', ',', '\n'] := by
    rw [List.dropWhile_append_of_pos spacing]
    rfl
  have found : pieceAt? ['N', 'o', 'n', 'e', ',', '\n']
      = some (.token .name ['N', 'o', 'n', 'e'] [',', '\n']) := by decide
  have marks : lineMarks (lead ++ ['N', 'o', 'n', 'e', ',', '\n'])
      = [.token ⟨.name, ['N', 'o', 'n', 'e']⟩, .token (.sign ','), .lineBreak ['\n']] := by
    rw [← unspaced] at found
    rw [← lineMarks_dropWhile found, unspaced]
    decide
  refine .line whole ?_
  rw [scanLine_eq (LineState.isSound_of_noString rfl) (.inl (by decide)), LineState.readLine,
    LineState.marks]
  simp only [marks]
  rfl

/-- The tokens of a table are those of its rows in parentheses. -/
theorem tokens_table {rows : List Char} {inside : List Token}
    (reads : ReadsText { depth := 1 } rows inside { depth := 1 })
    : tokens ('(' :: '\n' :: rows ++ [')', '\n'])
      = ⟨.sign '(' :: .inner :: inside
          ++ [.sign ')', ⟨.newline, ['\n']⟩, ⟨.endOfText, []⟩], none⟩ := by
  have start : ReadsText {} ['(', '\n'] [.sign '(', .inner] { depth := 1 } :=
    .line ⟨['('], by simp [InLine], .inl rfl⟩ rfl
  obtain ⟨lines, whole, same, reads⟩ := start.append reads
  have all := linesWithBreaks_flatten whole tableEnd
  have last : linesWithBreaks tableEnd = [tableEnd] := rfl
  obtain ⟨behind, read⟩ := reads.scanLines [] [tableEnd]
  rw [same, last] at all
  rw [← all] at read
  exact read

/-- The commas that stand in the outermost brackets only. -/
def outerCommas (depth : Int) : List Token → Nat
  | [] => 0
  | token :: rest =>
      (if depth = 1 ∧ token = .sign ',' then 1 else 0) + outerCommas (depth + token.turn) rest

/-- Tokens in further brackets hold no outer comma. -/
theorem outerCommas_append {depth : Int} {tokens : List Token} (stays : StaysOpen depth tokens)
    (others : List Token)
    : outerCommas (depth + 1) (tokens ++ others)
      = outerCommas (depth + turns tokens + 1) others := by
  induction tokens generalizing depth with
  | nil => rw [turns_nil, Int.add_zero, List.nil_append]
  | cons token rest ih =>
      obtain ⟨positive, stays⟩ := staysOpen_cons.mp stays
      rw [List.cons_append, outerCommas, if_neg (by omega), Nat.zero_add, turns_cons,
        ← Int.add_assoc, ← ih stays, Int.add_right_comm]

/-- A text in parentheses with balanced tokens holds no outer comma. -/
theorem IsBalanced.outerCommas_elementTokens {inside : List Token} (balanced : IsBalanced inside)
    (others : List Token)
    : outerCommas 1 (elementTokens inside ++ others) = outerCommas 1 others := by
  have stays : StaysOpen 1 inside := fun front isFront => by
    have := balanced.beginnings front isFront
    omega
  have within := outerCommas_append stays (.sign ')' :: others)
  rw [balanced.whole] at within
  have start : outerCommas 1 (elementTokens inside ++ others)
      = 0 + outerCommas (1 + 1) (inside ++ .sign ')' :: others) := by
    rw [elementTokens, List.append_assoc]
    rfl
  rw [start, Nat.zero_add, within]
  exact Nat.zero_add _

end LiteralEnum.Target
