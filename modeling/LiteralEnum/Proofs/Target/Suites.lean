import LiteralEnum.Proofs.Target.Statements

/-! Suites of statements and blocks. A suite is read at every width of indent, and its tokens are
the same at all of them.
-/

namespace LiteralEnum.Target

-----------------------------------------------------------------------------------------
-- Suites
-----------------------------------------------------------------------------------------

/-- A line of a suite: an empty one, or the text of a statement or of the heading of a block. -/
inductive Row where
  | blank
  | code (level : Nat) (text : List Char)
deriving DecidableEq

/-- The line, with a width of indent for each level. -/
def Row.line (width : Nat) : Row → List Char
  | blank => []
  | code level text => List.replicate (level * width) ' ' ++ text

/-- The rows are statements and blocks at a level, with these tokens. Some row of every block is
not empty.
-/
inductive Suite : Nat → List Row → List Token → Prop where
  | nil (level : Nat) : Suite level [] []
  | blank {level : Nat} {rows : List Row} {tokens : List Token} (rest : Suite level rows tokens)
    : Suite level (.blank :: rows) tokens
  | statement {level : Nat} {text : List Char} {rows : List Row} {read tokens : List Token}
    (isStatement : statement? text = some read) (rest : Suite level rows tokens)
    : Suite level (.code level text :: rows) (essence read ++ tokens)
  | block {level : Nat} {heading : List Char} {body rows : List Row}
    {read inside tokens : List Token} (isStatement : statement? heading = some read)
    (isBody : Suite (level + 1) body inside) (filled : ∃ row ∈ body, row ≠ .blank)
    (rest : Suite level rows tokens)
    : Suite level (.code level heading :: (body ++ rows))
        (essence read ++ stepIn :: (inside ++ stepOut :: tokens))

theorem Suite.append {level : Nat} {rows others : List Row} {tokens more : List Token}
    (first : Suite level rows tokens) (second : Suite level others more)
    : Suite level (rows ++ others) (tokens ++ more) := by
  induction first with
  | nil => exact second
  | blank rest ih => exact .blank (ih second)
  | statement isStatement rest ih =>
      rw [List.append_assoc]
      exact .statement isStatement (ih second)
  | block isStatement isBody filled rest _ ih =>
      simp only [List.append_assoc, List.cons_append]
      exact .block isStatement isBody filled (ih second)

/-- The texts are read from one level to another, and come to the tokens once the blocks are
closed that are still open behind them.
-/
structure ReadsTexts (width start next level : Nat) (texts : List (List Char))
    (tokens : List Token) : Prop where
  inside : level ≤ next
  reads
    : ∃ read, essence read ++ List.replicate (next - level) stepOut
          = changeLevel start level ++ tokens
        ∧ ReadsLines (between (columns width start)) (texts.flatMap brokenLines) read
            (between (columns width next))

theorem changeLevel_of_le {start level : Nat} (outside : level ≤ start)
    : changeLevel start level = List.replicate (start - level) stepOut :=
  if_neg (Nat.not_lt.mpr outside)

theorem ReadsTexts.nil (width : Nat) {start level : Nat} (outside : level ≤ start)
    : ReadsTexts width start start level [] [] :=
  ⟨outside, [], by rw [changeLevel_of_le outside, List.append_nil]; rfl, .nil _⟩

/-- Texts that are read one after the other. -/
theorem ReadsTexts.append {width start middle next level : Nat} {texts others : List (List Char)}
    {tokens more : List Token} (first : ReadsTexts width start middle level texts tokens)
    (second : ReadsTexts width middle next level others more)
    : ReadsTexts width start next level (texts ++ others) (tokens ++ more) := by
  obtain ⟨read, same, reads⟩ := first.reads
  obtain ⟨readMore, sameMore, readsMore⟩ := second.reads
  refine ⟨second.inside, read ++ readMore, ?_, ?_⟩
  · rw [changeLevel_of_le first.inside] at sameMore
    rw [essence_append, List.append_assoc, sameMore, ← List.append_assoc, same, List.append_assoc]
  · rw [List.flatMap_append]
    exact reads.append readsMore

/-- An empty line is read as a break that means nothing. -/
theorem ReadsTexts.blank {width start next level : Nat} {texts : List (List Char)}
    {tokens : List Token} (rest : ReadsTexts width start next level texts tokens)
    : ReadsTexts width start next level ([] :: texts) tokens := by
  obtain ⟨read, same, reads⟩ := rest.reads
  have scanned : scanLine (between (columns width start)) ['\n']
      = .line [⟨.blankLine, ['\n']⟩] (between (columns width start)) := rfl
  exact ⟨rest.inside, ⟨.blankLine, ['\n']⟩ :: read, same, .cons scanned reads⟩

/-- So is a comment, if it is not indented. -/
theorem ReadsTexts.comment {width start next level : Nat} {text : List Char}
    {texts : List (List Char)} {tokens : List Token} (noFeed : '\n' ∉ text)
    (rest : ReadsTexts width start next level texts tokens)
    : ReadsTexts width start next level (('#' :: text) :: texts) tokens := by
  obtain ⟨read, same, reads⟩ := rest.reads
  have lines : brokenLines ('#' :: text) = ['#' :: (text ++ ['\n'])] :=
    linesWithBreaks_body (List.not_mem_cons_of_ne_of_not_mem (by decide) noFeed) []
  obtain ⟨comment, ending, scanned⟩ : ∃ comment ending,
      scanLine (between (columns width start)) ('#' :: (text ++ ['\n']))
        = .line [⟨.comment, comment⟩, ⟨.blankLine, ending⟩] (between (columns width start)) :=
    ⟨_, _, rfl⟩
  refine ⟨rest.inside, ⟨.comment, comment⟩ :: ⟨.blankLine, ending⟩ :: read, same, ?_⟩
  rw [List.flatMap_cons, lines]
  exact .cons scanned reads

/-- A statement, or the heading of a block. -/
theorem readsTexts_statement {text : List Char} {read : List Token}
    (isStatement : statement? text = some read) {width : Nat} (positive : 0 < width)
    {start level : Nat} (near : level ≤ start + 1)
    : ReadsTexts width start level level [List.replicate (level * width) ' ' ++ text]
        (essence read) := by
  obtain ⟨tokens, same, reads⟩ := readsLines_statement isStatement positive near
  refine ⟨Nat.le_refl level, tokens, ?_, ?_⟩
  · rw [Nat.sub_self, List.replicate_zero, List.append_nil, same]
  · simpa using reads

/-- The body of a block, with the step out of it. -/
theorem ReadsTexts.body {width next level : Nat} {texts : List (List Char)} {tokens : List Token}
    (body : ReadsTexts width level next (level + 1) texts tokens)
    : ReadsTexts width level next level texts (stepIn :: (tokens ++ [stepOut])) := by
  have inside := body.inside
  obtain ⟨read, same, reads⟩ := body.reads
  refine ⟨Nat.le_of_succ_le inside, read, ?_, reads⟩
  have count : next - level = next - (level + 1) + 1 := by omega
  rw [count, List.replicate_succ', ← List.append_assoc, same, changeLevel,
    if_pos (Nat.lt_succ_self level), changeLevel_of_le (Nat.le_refl level), Nat.sub_self]
  rfl

/-- A suite is read at every width, by induction on it. It may be the first of a block, if some
row of it is not empty.
-/
theorem Suite.readsTexts {level : Nat} {rows : List Row} {tokens : List Token}
    (suite : Suite level rows tokens) {width : Nat} (positive : 0 < width) {start : Nat}
    (near : level ≤ start ∨ level = start + 1 ∧ ∃ row ∈ rows, row ≠ .blank)
    : ∃ next, ReadsTexts width start next level (rows.map (Row.line width)) tokens := by
  induction suite generalizing start with
  | nil level =>
      rcases near with outside | ⟨-, row, member, -⟩
      · exact ⟨start, .nil width outside⟩
      · cases member
  | @blank level rows tokens rest ih =>
      have near : level ≤ start ∨ level = start + 1 ∧ ∃ row ∈ rows, row ≠ .blank :=
        near.imp_right fun ⟨same, row, member, code⟩ =>
          ⟨same, row, (List.mem_cons.mp member).resolve_left code, code⟩
      obtain ⟨next, reads⟩ := ih near
      exact ⟨next, reads.blank⟩
  | @statement level text rows read tokens isStatement rest ih =>
      have near : level ≤ start + 1 := near.elim Nat.le_succ_of_le (·.1.le)
      obtain ⟨next, reads⟩ := ih (.inl (Nat.le_refl level))
      exact ⟨next, (readsTexts_statement isStatement positive near).append reads⟩
  | @block level heading body rows read inside tokens isStatement _ filled _ ihBody ih =>
      have near : level ≤ start + 1 := near.elim Nat.le_succ_of_le (·.1.le)
      obtain ⟨last, isBody⟩ := ihBody (.inr ⟨rfl, filled⟩)
      obtain ⟨next, reads⟩ := ih (.inl (Nat.le_of_succ_le isBody.inside))
      have whole := (readsTexts_statement isStatement positive near).append
        (isBody.body.append reads)
      exact ⟨next, by simpa [Row.line] using whole⟩

-----------------------------------------------------------------------------------------
-- Whole texts
-----------------------------------------------------------------------------------------

/-- A text with a line feed behind it is read apart from what follows, by induction on it. -/
theorem linesWithBreaks_broken (text rest : List Char)
    : linesWithBreaks (text ++ '\n' :: rest) = brokenLines text ++ linesWithBreaks rest := by
  induction text with
  | nil => rfl
  | cons c text ih =>
      by_cases feed : c = '\n'
      · subst feed
        exact congrArg (['\n'] :: ·) ih
      · have noFeed : '\n' ∉ [c] := fun member => feed (List.mem_singleton.mp member).symm
        obtain ⟨first, others, lines⟩ := List.exists_cons_of_ne_nil (brokenLines_ne_nil text)
        rw [← List.singleton_append, List.append_assoc, linesWithBreaks_lead noFeed (by simp), ih,
          brokenLines_lead noFeed, lines]
        rfl

/-- The lines of texts that each end with a line feed. -/
theorem linesWithBreaks_texts (texts : List (List Char))
    : linesWithBreaks (texts.flatMap (· ++ ['\n'])) = texts.flatMap brokenLines := by
  induction texts with
  | nil => rfl
  | cons text texts ih =>
      rw [List.flatMap_cons, List.flatMap_cons, List.append_assoc, List.singleton_append,
        linesWithBreaks_broken, ih]

/-- Every line ends with a line feed, by induction on the text. -/
theorem getLast?_of_mem_brokenLines {text line : List Char} (isLine : line ∈ brokenLines text)
    : line.getLast? = some '\n' := by
  induction text generalizing line with
  | nil => rw [List.mem_singleton.mp isLine, List.getLast?_singleton]
  | cons c text ih =>
      by_cases feed : c = '\n'
      · subst feed
        rcases List.mem_cons.mp isLine with rfl | later
        · rfl
        · exact ih later
      · have noFeed : '\n' ∉ [c] := fun member => feed (List.mem_singleton.mp member).symm
        obtain ⟨first, others, lines⟩ := List.exists_cons_of_ne_nil (brokenLines_ne_nil text)
        rw [← List.singleton_append, brokenLines_lead noFeed, lines] at isLine
        rw [lines] at ih
        rcases List.mem_cons.mp isLine with rfl | later
        · rw [List.getLast?_append, ih List.mem_cons_self]
          rfl
        · exact ih (List.mem_cons_of_mem _ later)

/-- Behind the last of lines that end with line feeds, the open blocks are closed. -/
theorem ReadsLines.scanLines_broken {state : LineState} {lines : List (List Char)}
    {tokens : List Token} {indents : List Nat}
    (reads : ReadsLines state lines tokens (between indents))
    (broken : ∀ line ∈ lines, line.getLast? = some '\n') {before : List Char}
    (isBroken : ∀ c ∈ before.getLast?, c = '\n')
    : Target.scanLines state before lines
      = ⟨tokens ++ List.replicate indents.length stepOut ++ [⟨.endOfText, []⟩], none⟩ := by
  generalize ends : between indents = last at reads
  induction reads generalizing before with
  | nil =>
      subst ends
      have closing : closingTokens (between indents) before
          = List.replicate indents.length stepOut ++ [⟨.endOfText, []⟩] := by
        rw [closingTokens]
        cases ending : before.getLast? with
        | none => simp [between, stepOut, List.map_const']
        | some c => simp [between, stepOut, List.map_const', isBroken c ending, isBreak]
      simp [Target.scanLines, between, ← closing]
  | cons first rest ih =>
      obtain ⟨ended, broken⟩ := List.forall_mem_cons.mp broken
      have isBroken : ∀ c ∈ List.getLast? _, c = '\n' := fun c last =>
        Option.some.inj (last.symm.trans ended)
      rw [scanLines_cons first, ih broken isBroken ends]
      simp

theorem length_columns (width level : Nat) : (columns width level).length = level := by
  induction level with
  | zero => rfl
  | succ level ih => rw [columns, List.length_cons, ih]

/-- The tokens of texts that each end with a line feed, when they are read outermost. -/
theorem ReadsTexts.tokens {width next : Nat} {texts : List (List Char)} {tokens : List Token}
    (reads : ReadsTexts width 0 next 0 texts tokens)
    : (Target.tokens (texts.flatMap (· ++ ['\n']))).failure = none
      ∧ essence (Target.tokens (texts.flatMap (· ++ ['\n']))).tokens
        = tokens ++ [⟨.endOfText, []⟩] := by
  obtain ⟨read, same, reads⟩ := reads.reads
  have broken : ∀ line ∈ texts.flatMap brokenLines, line.getLast? = some '\n' := by
    intro line member
    obtain ⟨text, -, isLine⟩ := List.mem_flatMap.mp member
    exact getLast?_of_mem_brokenLines isLine
  have isStart : ∀ c ∈ ([] : List Char).getLast?, c = '\n' := nofun
  have whole := reads.scanLines_broken broken isStart
  rw [length_columns, ← linesWithBreaks_texts] at whole
  have scanned : Target.tokens (texts.flatMap (· ++ ['\n']))
      = ⟨read ++ List.replicate next stepOut ++ [⟨.endOfText, []⟩], none⟩ := whole
  rw [scanned, essence_append, essence_append, essence_stepOut, ← Nat.sub_zero next, same]
  exact ⟨rfl, rfl⟩

-----------------------------------------------------------------------------------------
-- Steps
-----------------------------------------------------------------------------------------

/-- The token steps neither into a block nor out of one. -/
def Token.Stays (token : Token) : Prop := token.kind ≠ .indent ∧ token.kind ≠ .dedent

/-- The token that a piece is steps neither in nor out. -/
def Piece.Stays : Piece → Prop
  | .token kind word _ => Token.Stays ⟨kind, word⟩
  | _ => True

theorem stays_of_kind {kind : Token.Kind} (word : List Char)
    (known : kind ∈ [.newline, .comment, .number, .operator, .string, .name, .error, .blankLine])
    : Token.Stays ⟨kind, word⟩ := by
  constructor <;> rintro rfl <;> simp at known

/-- Whatever piece is found, it steps neither in nor out. -/
def FindsNoStep (found : Option Piece) : Prop := ∀ piece, found = some piece → piece.Stays

theorem FindsNoStep.orElse {first second : Option Piece} (one : FindsNoStep first)
    (other : FindsNoStep second) : FindsNoStep (first.orElse fun _ => second) := by
  cases first with
  | none => exact other
  | some piece => exact one

theorem findsNoStep_pieceAt? (text : List Char) : FindsNoStep (pieceAt? text) := by
  rw [pieceAt?.eq_def]
  split
  next =>
    rintro piece ⟨⟩
    trivial
  next =>
    rintro piece ⟨⟩
    exact stays_of_kind _ (by simp)
  next =>
    refine .orElse ?_ (.orElse ?_ (.orElse ?_ (.orElse ?_ (.orElse ?_ ?_))))
    · intro piece found
      rw [lineEndPiece?.eq_def] at found
      split at found <;> cases found <;> trivial
    · intro piece found
      obtain ⟨opened, -, rfl⟩ := Option.map_eq_some_iff.mp found
      trivial
    · intro piece found
      obtain ⟨number, -, rfl⟩ := Option.map_eq_some_iff.mp found
      exact stays_of_kind _ (by simp)
    · intro piece found
      obtain ⟨operator, -, rfl⟩ := Option.map_eq_some_iff.mp found
      exact stays_of_kind _ (by simp)
    · intro piece found
      rw [stringPiece?] at found
      split at found
      next =>
        split at found <;> cases found
        · exact stays_of_kind _ (by simp)
        · trivial
      next => cases found
    · intro piece found
      cases text with
      | nil => cases found
      | cons c others =>
          obtain ⟨-, same⟩ := Option.ite_none_right_eq_some.mp found
          obtain rfl := Option.some.inj same
          refine stays_of_kind _ ?_
          split <;> simp

/-- The mark steps neither in nor out. -/
def Mark.Stays : Mark → Prop
  | .token found => found.Stays
  | _ => True

theorem stays_of_mem_marksWithin {fuel : Nat} {text : List Char}
    : ∀ mark ∈ marksWithin fuel text, mark.Stays := by
  induction fuel generalizing text with
  | zero => exact List.forall_mem_nil _
  | succ fuel ih =>
      cases text with
      | nil => exact List.forall_mem_nil _
      | cons c rest =>
          rw [marksWithin]
          cases found : pieceAt? ((c :: rest).dropWhile isSpacing) with
          | none => exact List.forall_mem_cons.mpr ⟨stays_of_kind _ (by simp), ih⟩
          | some piece =>
              have stays := findsNoStep_pieceAt? _ piece found
              cases piece with
              | nothing => exact List.forall_mem_nil _
              | continuation others => exact List.forall_mem_cons.mpr ⟨trivial, ih⟩
              | openLine => exact List.forall_mem_cons.mpr ⟨trivial, List.forall_mem_nil _⟩
              | tripleQuote opening quote others =>
                  simp only [Piece.marks]
                  split
                  next => exact List.forall_mem_cons.mpr ⟨stays_of_kind _ (by simp), ih⟩
                  next => exact List.forall_mem_cons.mpr ⟨trivial, List.forall_mem_nil _⟩
              | token kind word others =>
                  cases kind with
                  | newline => exact List.forall_mem_cons.mpr ⟨trivial, ih⟩
                  | _ => exact List.forall_mem_cons.mpr ⟨stays, ih⟩

theorem stays_of_mem_read {state : LineState} {marks : List Mark}
    (stay : ∀ mark ∈ marks, mark.Stays) : ∀ token ∈ (state.read marks).1, token.Stays := by
  induction marks generalizing state with
  | nil => exact List.forall_mem_nil _
  | cons mark rest ih =>
      obtain ⟨first, others⟩ := List.forall_mem_cons.mp stay
      cases mark with
      | token token => exact List.forall_mem_cons.mpr ⟨first, ih others⟩
      | lineBreak text =>
          refine List.forall_mem_cons.mpr ⟨stays_of_kind _ ?_, ih others⟩
          split <;> simp
      | continuation => exact ih others
      | opening string => exact List.forall_mem_nil _

theorem stays_of_mem_marks (state : LineState) (line : List Char)
    : ∀ mark ∈ state.marks line, mark.Stays := by
  rw [LineState.marks]
  split
  next => exact stays_of_mem_marksWithin
  next string _ =>
    rw [OpenString.marks]
    split
    next =>
      exact List.forall_mem_cons.mpr ⟨stays_of_kind _ (by simp), stays_of_mem_marksWithin⟩
    next =>
      split
      · exact List.forall_mem_cons.mpr ⟨stays_of_kind _ (by simp), List.forall_mem_nil _⟩
      · exact List.forall_mem_cons.mpr ⟨trivial, List.forall_mem_nil _⟩

/-- A line that goes on with a statement steps neither in nor out. -/
theorem stays_of_mem_goOn? {state : LineState} {lines : List (List Char)} {tokens : List Token}
    (goesOn : goOn? state lines = some tokens) : ∀ token ∈ tokens, token.Stays := by
  induction lines generalizing state tokens with
  | nil =>
      obtain ⟨-, same⟩ := Option.ite_none_right_eq_some.mp goesOn
      obtain rfl := Option.some.inj same
      exact List.forall_mem_nil _
  | cons line rest ih =>
      rw [goOn?] at goesOn
      obtain ⟨isOpen, goesOn⟩ := Option.ite_none_right_eq_some.mp goesOn
      rw [scanLine_goOn isOpen] at goesOn
      obtain ⟨more, isMore, rfl⟩ := Option.map_eq_some_iff.mp goesOn
      exact List.forall_mem_append.mpr
        ⟨stays_of_mem_read (stays_of_mem_marks state line), ih isMore⟩

/-- A statement steps neither in nor out. -/
theorem stays_of_mem_statement {text : List Char} {tokens : List Token}
    (isStatement : statement? text = some tokens) : ∀ token ∈ essence tokens, token.Stays := by
  obtain ⟨first, more, others, -, -, goesOn, rfl⟩ := exists_lines_of_statement? isStatement
  have stay : ∀ token ∈ (scanLineFrom {} first).1 ++ others, token.Stays := by
    rw [scanLineFrom_eq_read]
    exact List.forall_mem_append.mpr
      ⟨stays_of_mem_read stays_of_mem_marksWithin, stays_of_mem_goOn? goesOn⟩
  intro token member
  obtain ⟨source, isSource, rfl⟩ := List.mem_map.mp member
  have stays := stay source (List.mem_of_mem_filter isSource)
  rwa [Token.bare, if_neg stays.1]

-----------------------------------------------------------------------------------------
-- Texts without an indent
-----------------------------------------------------------------------------------------

/-- Where no block is open, a line without an indent opens none. -/
theorem stays_of_scanLine {state next : LineState} {line : List Char} {tokens : List Token}
    (outermost : state.indents = []) (flat : (measureIndent 0 line).1 = 0)
    (read : scanLine state line = .line tokens next)
    : (∀ token ∈ tokens, token.Stays) ∧ next.indents = [] := by
  cases isOpen : state.isOpen with
  | true =>
      rw [scanLine_goOn isOpen] at read
      obtain ⟨rfl, rfl⟩ := LineResult.line.inj read
      refine ⟨stays_of_mem_read (stays_of_mem_marks state line), ?_⟩
      rw [indents_read, LineState.goingOn]
      split <;> exact outermost
  | false =>
      obtain ⟨⟨depth, continued⟩, pending⟩ :
          (state.depth = 0 ∧ state.continued = false) ∧ state.pending = none := by
        simpa [LineState.isOpen] using isOpen
      have starts : state.depth = 0 ∧ (!state.continued) = true := by simp [depth, continued]
      simp only [scanLine, pending, if_pos starts, scanStatementLine, flat, outermost,
        List.headD_nil, Nat.lt_irrefl, if_false, closeBlocks, scanLineFrom_eq_read,
        List.nil_append] at read
      split at read
      next => cases read
      next first rest _ =>
        split at read
        next =>
          obtain ⟨rfl, rfl⟩ := LineResult.line.inj read
          simp only [List.forall_mem_cons, List.not_mem_nil, false_implies, implies_true, and_true]
          exact ⟨⟨stays_of_kind _ (by simp), stays_of_kind _ (by simp)⟩, outermost⟩
        next =>
          split at read
          next =>
            obtain ⟨rfl, rfl⟩ := LineResult.line.inj read
            exact ⟨List.forall_mem_singleton.mpr (stays_of_kind _ (by simp)), outermost⟩
          next =>
            obtain ⟨rfl, rfl⟩ := LineResult.line.inj read
            exact ⟨stays_of_mem_read stays_of_mem_marksWithin, indents_read _ _⟩

theorem stays_of_mem_closingTokens {state : LineState} (outermost : state.indents = [])
    (last : List Char) : ∀ token ∈ closingTokens state last, token.Stays := by
  have ending : Token.Stays ⟨.endOfText, []⟩ := ⟨by decide, by decide⟩
  rw [closingTokens, outermost]
  split
  all_goals
    split
    · simp [ending, stays_of_kind]
    · simp [ending]

/-- Lines without an indent have no block, by induction on them. -/
theorem stays_of_mem_scanLines {state : LineState} {last : List Char} {lines : List (List Char)}
    (outermost : state.indents = []) (flat : ∀ line ∈ lines, (measureIndent 0 line).1 = 0)
    : ∀ token ∈ (Target.scanLines state last lines).tokens, token.Stays := by
  induction lines generalizing state last with
  | nil =>
      rw [Target.scanLines]
      split
      next => exact List.forall_mem_nil _
      next =>
        split
        next => exact stays_of_mem_closingTokens outermost last
        next => exact List.forall_mem_nil _
  | cons line rest ih =>
      obtain ⟨first, flat⟩ := List.forall_mem_cons.mp flat
      rw [Target.scanLines]
      cases read : scanLine state line with
      | finished => exact stays_of_mem_closingTokens outermost last
      | failed failure => exact List.forall_mem_nil _
      | line tokens next =>
          obtain ⟨stay, outermost⟩ := stays_of_scanLine outermost first read
          exact List.forall_mem_append.mpr ⟨stay, ih outermost flat⟩

/-- A text of which no line has an indent has no block. -/
theorem stepIn_notMem_of_flat {text : List Char}
    (flat : ∀ line ∈ linesWithBreaks text, (measureIndent 0 line).1 = 0)
    : stepIn ∉ essence (Target.tokens text).tokens := by
  intro member
  obtain ⟨token, isToken, same⟩ := List.mem_map.mp member
  have stays := stays_of_mem_scanLines rfl flat token (List.mem_of_mem_filter isToken)
  rw [Token.bare, if_neg stays.1] at same
  exact stays.1 (congrArg Token.kind same)

-----------------------------------------------------------------------------------------
-- Blocks
-----------------------------------------------------------------------------------------

/-- The steps into blocks and out of them match. -/
inductive IsNested : List Token → Prop where
  | nil : IsNested []
  | token {token : Token} {rest : List Token} (stays : token.Stays) (behind : IsNested rest)
    : IsNested (token :: rest)
  | block {inside rest : List Token} (within : IsNested inside) (behind : IsNested rest)
    : IsNested (stepIn :: (inside ++ stepOut :: rest))

/-- Tokens that stay may stand before nested ones. -/
theorem IsNested.append {tokens others : List Token} (stay : ∀ token ∈ tokens, token.Stays)
    (behind : IsNested others) : IsNested (tokens ++ others) := by
  induction tokens with
  | nil => exact behind
  | cons token rest ih =>
      obtain ⟨first, rest⟩ := List.forall_mem_cons.mp stay
      exact .token first (ih rest)

/-- The steps of a suite match, by induction on it. -/
theorem Suite.isNested {level : Nat} {rows : List Row} {tokens : List Token}
    (suite : Suite level rows tokens) : IsNested tokens := by
  induction suite with
  | nil => exact .nil
  | blank rest ih => exact ih
  | statement isStatement rest ih => exact .append (stays_of_mem_statement isStatement) ih
  | block isStatement isBody filled rest ihBody ih =>
      exact .append (stays_of_mem_statement isStatement) (.block ihBody ih)

/-- Behind the heading stands an indented block, up to the step out that matches. -/
def HasBlock (tokens heading : List Token) : Prop :=
  ∃ before inside after, tokens = before ++ heading ++ stepIn :: (inside ++ stepOut :: after)
    ∧ IsNested inside

theorem HasBlock.append {tokens heading : List Token} (block : HasBlock tokens heading)
    (before after : List Token) : HasBlock (before ++ tokens ++ after) heading := by
  obtain ⟨front, inside, back, rfl, nested⟩ := block
  exact ⟨before ++ front, inside, back ++ after, by simp, nested⟩

end LiteralEnum.Target
