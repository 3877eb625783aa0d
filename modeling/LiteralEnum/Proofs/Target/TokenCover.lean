import LiteralEnum.Proofs.Target.EarlyClosing
import LiteralEnum.Proofs.Target.TokenShapes

/-! The tokens of a text cover it. Read to its end, a text is the texts of its tokens in order, and
between them spacing, line breaks and the backslashes that escape them.
-/

namespace LiteralEnum.Target

open Lexer (QuotedItem)

-----------------------------------------------------------------------------------------
-- Covers
-----------------------------------------------------------------------------------------

/-- The text is the texts of the tokens in order, with gaps between them. -/
inductive Covers : List Token → List Char → Prop where
  | nil : Covers [] []
  | gap {c : Char} {tokens : List Token} {text : List Char} (isGap : c ∈ gapMarks)
      (behind : Covers tokens text)
    : Covers tokens (c :: text)
  | token {token : Token} {tokens : List Token} {text : List Char} (shape : token.HasShape)
      (behind : Covers tokens text)
    : Covers (token :: tokens) (token.text ++ text)

theorem Covers.append {tokens others : List Token} {text other : List Char}
    (front : Covers tokens text) (back : Covers others other)
    : Covers (tokens ++ others) (text ++ other) := by
  induction front with
  | nil => exact back
  | gap isGap _ ih => exact .gap isGap ih
  | token shape _ ih =>
      rw [List.append_assoc]
      exact .token shape ih

theorem Covers.hasShape {tokens : List Token} {text : List Char} (covers : Covers tokens text)
    : ∀ token ∈ tokens, token.HasShape := by
  induction covers with
  | nil => nofun
  | gap _ _ ih => exact ih
  | token shape _ ih => exact List.forall_mem_cons.mpr ⟨shape, ih⟩

theorem IsGap.covers {gap : List Char} (isGap : IsGap gap) : Covers [] gap := by
  induction gap with
  | nil => exact .nil
  | cons c rest ih =>
      obtain ⟨first, others⟩ := List.forall_mem_cons.mp isGap
      exact .gap first (ih others)

theorem Covers.single {token : Token} (shape : token.HasShape) : Covers [token] token.text := by
  simpa using Covers.token shape .nil

/-- Tokens without a text cover nothing. -/
theorem covers_nil {tokens : List Token}
    (empty : ∀ token ∈ tokens, token.HasShape ∧ token.text = []) : Covers tokens [] := by
  induction tokens with
  | nil => exact .nil
  | cons token rest ih =>
      obtain ⟨⟨shape, text⟩, others⟩ := List.forall_mem_cons.mp empty
      simpa [text] using Covers.token shape (ih others)

theorem isGap_of_spacing {text : List Char} (spacing : ∀ c ∈ text, isSpacing c = true)
    : IsGap text := by
  intro c member
  have isSpacing := spacing c member
  simp only [Target.isSpacing, Bool.or_eq_true, decide_eq_true_eq] at isSpacing
  rcases isSpacing with (rfl | rfl) | rfl <;> simp [gapMarks]

-----------------------------------------------------------------------------------------
-- Marks
-----------------------------------------------------------------------------------------

/-- An open string that some start of a string has led to. -/
structure OpenString.HasShape (string : OpenString) : Prop where
  isQuote : IsQuote string.quote
  opened : if string.isTriple then IsTripledText string.text
    else IsOpenedText string.quote string.text

/-- The marks make up the text, with gaps between them. -/
inductive Mark.Cover : List Mark → List Char → Prop where
  | nil : Cover [] []
  | gap {c : Char} {marks : List Mark} {text : List Char} (isGap : c ∈ gapMarks)
      (behind : Cover marks text)
    : Cover marks (c :: text)
  | token {token : Token} {marks : List Mark} {text : List Char} (shape : token.HasShape)
      (behind : Cover marks text)
    : Cover (.token token :: marks) (token.text ++ text)
  | lineBreak {lineBreak : List Char} {marks : List Mark} {text : List Char}
      (free : IsFree lineBreak) (behind : Cover marks text)
    : Cover (.lineBreak lineBreak :: marks) (lineBreak ++ text)
  | continuation {marks : List Mark} {text : List Char} (behind : Cover marks text)
    : Cover (.continuation :: marks) text
  | opening {string : OpenString} (shape : string.HasShape)
    : Cover [.opening string] string.text

theorem Mark.Cover.gaps {marks : List Mark} {gap text : List Char} (isGap : IsGap gap)
    (behind : Mark.Cover marks text) : Mark.Cover marks (gap ++ text) := by
  induction gap with
  | nil => exact behind
  | cons c rest ih =>
      obtain ⟨first, others⟩ := List.forall_mem_cons.mp isGap
      exact .gap first (ih others)

/-- The marks of a piece and of what follows it make up the text, if those of every shorter rest
make up this rest.
-/
theorem Piece.Splits.cover {text : List Char} {piece : Piece} (splits : piece.Splits text)
    (shape : piece.HasShape text) (ends : EndsOnce text)
    (ofRest
      : ∀ rest : List Char, rest.length < text.length → rest <:+ text
        → Mark.Cover (lineMarks rest) rest)
    : Mark.Cover (piece.marks lineMarks) text := by
  have fewer := splits.leavesFewer
  cases piece with
  | nothing =>
      obtain rfl := splits
      exact .nil
  | continuation rest =>
      obtain ⟨ending, isGap, rfl⟩ := shape
      exact .continuation (.gaps isGap (ofRest rest fewer (List.suffix_append ending rest)))
  | tripleQuote opening quote rest =>
      obtain ⟨-, rfl, isQuote⟩ := splits
      cases closed : closeTriple? quote opening.reverse rest with
      | none =>
          simp only [Piece.marks, closed]
          have opened : IsTripledText (opening ++ rest) := shape.append rest
          have isOpen : OpenString.HasShape ⟨opening ++ rest, quote, true⟩ := ⟨isQuote, opened⟩
          exact .opening isOpen
      | some close =>
          obtain ⟨read, others⟩ := close
          simp only [Piece.marks, closed]
          have shorter := fewer read others closed
          obtain ⟨more, rfl⟩ := exists_append_of_closeTriple? closed
          have whole := (append_of_closeTriple? closed).1
          rw [List.reverse_reverse] at whole ⊢
          rw [← whole] at shorter ofRest ⊢
          have whole : Token.HasShape ⟨.string, opening ++ more⟩ := .inl (shape more)
          exact .token whole (ofRest others shorter (List.suffix_append _ others))
  | openLine read quote rest =>
      obtain ⟨-, rfl, isQuote⟩ := splits
      obtain ⟨last, opened⟩ := shape
      obtain ⟨front, rfl⟩ := List.getLast?_eq_some_iff.mp last
      -- the line is at its end, because the string goes on behind the line feed
      obtain rfl := ends front rest (by simp)
      rw [List.append_nil]
      simp only [Piece.marks, List.append_nil]
      have isOpen : OpenString.HasShape ⟨front ++ ['\n'], quote, false⟩ := ⟨isQuote, opened⟩
      exact .opening isOpen
  | token kind word rest =>
      obtain ⟨-, rfl⟩ := splits
      have behind := ofRest rest fewer (List.suffix_append word rest)
      cases kind <;> first | exact .lineBreak shape behind | exact .token shape behind

/-- The marks of a line make it up, by induction on its length. -/
theorem cover_lineMarks {line : List Char} (ends : EndsOnce line)
    : Mark.Cover (lineMarks line) line := by
  by_cases empty : line = []
  · rw [empty]
    exact .nil
  have within : line.dropWhile isSpacing <:+ line := List.dropWhile_suffix isSpacing
  have ofRest (rest : List Char) (shorter : rest.length < line.length) (suffix : rest <:+ line)
      : Mark.Cover (lineMarks rest) rest := cover_lineMarks (ends.suffix suffix)
  cases found : pieceAt? (line.dropWhile isSpacing) with
  | none =>
      obtain ⟨c, rest, rfl⟩ := List.exists_cons_of_ne_nil empty
      rw [lineMarks_of_error found]
      have shape : Token.HasShape ⟨.error, [c]⟩ := trivial
      exact .token shape (ofRest rest (Nat.lt_succ_self _) (List.suffix_cons c rest))
  | some piece =>
      have spacing : IsGap (line.takeWhile isSpacing) :=
        isGap_of_spacing fun c => List.mem_takeWhile_imp
      have covered : Mark.Cover (piece.marks lineMarks) (line.dropWhile isSpacing) :=
        (splits_of_pieceAt? found).cover (hasShape_of_pieceAt? found) (ends.suffix within)
          fun rest shorter suffix =>
            ofRest rest (shorter.trans_le within.length_le) (suffix.trans within)
      rw [lineMarks_of_piece empty found]
      simpa using Mark.Cover.gaps spacing covered
termination_by line.length

-----------------------------------------------------------------------------------------
-- Lines
-----------------------------------------------------------------------------------------

/-- The text of the string that is open. -/
def LineState.openText (state : LineState) : List Char :=
  state.pending.elim [] OpenString.text

def LineState.HasShape (state : LineState) : Prop := ∀ string ∈ state.pending, string.HasShape

/-- The tokens cover the text up to the string that the state leaves open. -/
def LineState.Leaves (state : LineState) (tokens : List Token) (text : List Char) : Prop :=
  state.HasShape ∧ ∃ front, Covers tokens front ∧ front ++ state.openText = text

theorem LineState.leaves_of_covers {state : LineState} {tokens : List Token} {text : List Char}
    (noString : state.pending = none) (covers : Covers tokens text) : state.Leaves tokens text :=
  ⟨by simp [HasShape, noString], text, covers, by simp [openText, noString]⟩

/-- Tokens that cover what stands before the text. -/
theorem LineState.Leaves.append {state : LineState} {tokens others : List Token}
    {text before : List Char} (leaves : state.Leaves tokens text) (covers : Covers others before)
    : state.Leaves (others ++ tokens) (before ++ text) := by
  obtain ⟨shape, front, behind, rfl⟩ := leaves
  exact ⟨shape, before ++ front, covers.append behind, List.append_assoc ..⟩

theorem LineState.Leaves.token {state : LineState} {token : Token} {tokens : List Token}
    {text : List Char} (leaves : state.Leaves tokens text) (shape : token.HasShape)
    : state.Leaves (token :: tokens) (token.text ++ text) :=
  leaves.append (.single shape)

/-- Marks are read to tokens that cover what the marks make up. -/
theorem Mark.Cover.leaves {marks : List Mark} {text : List Char} (cover : Mark.Cover marks text)
    {state : LineState} (noString : state.pending = none)
    : (state.read marks).2.Leaves (state.read marks).1 text := by
  induction cover generalizing state with
  | nil => exact LineState.leaves_of_covers noString .nil
  | gap isGap _ ih => exact (ih noString).append (.gap isGap .nil)
  | token shape _ ih => exact LineState.Leaves.token (ih noString) shape
  | lineBreak free _ ih =>
      refine LineState.Leaves.token (ih noString) ?_
      simp only [Token.HasShape]
      split_ifs
      · trivial
      · exact free
  | continuation _ ih => exact ih noString
  | opening shape => exact ⟨by rintro string ⟨⟩; exact shape, [], .nil, rfl⟩

theorem leaves_scanLineFrom {state : LineState} (noString : state.pending = none)
    {line : List Char} (ends : EndsOnce line)
    : (scanLineFrom state line).2.Leaves (scanLineFrom state line).1 line := by
  rw [scanLineFrom_eq_read]
  exact (cover_lineMarks ends).leaves noString

/-- The string is closed in the line. -/
theorem OpenString.HasShape.close {string : OpenString} {line taken rest : List Char}
    (shape : string.HasShape)
    (closed
      : (if string.isTriple then closeTriple? string.quote [] line
          else closeSingle? string.quote [] line) = some (taken, rest))
    : Token.HasShape ⟨.string, string.text ++ taken⟩ ∧ taken ++ rest = line := by
  have opened := shape.opened
  split_ifs at opened closed with triple
  · exact ⟨.inl (opened taken), (append_of_closeTriple? closed).1⟩
  · obtain ⟨items, rfl⟩ := reads_closeSingle? closed
    refine ⟨.inr ?_, append_of_closeSingle? closed⟩
    simpa using (opened.append items).isBody shape.isQuote

theorem getLast?_of_endsEscaped {line : List Char} (escaped : endsEscaped line = true)
    : line.getLast? = some '\n' := by
  rw [List.getLast?_eq_head?_reverse]
  rw [endsEscaped] at escaped
  split at escaped
  next same => rw [same]; rfl
  next same => rw [same]; rfl
  next => cases escaped

/-- The string goes on behind the line. -/
theorem OpenString.HasShape.goOn {string : OpenString} {line : List Char} (shape : string.HasShape)
    (ends : EndsOnce line)
    (unclosed
      : (if string.isTriple then closeTriple? string.quote [] line
          else closeSingle? string.quote [] line) = none)
    (unbroken : ¬(!string.isTriple && !endsEscaped line) = true)
    : OpenString.HasShape { string with text := string.text ++ line } := by
  have opened := shape.opened
  refine ⟨shape.isQuote, ?_⟩
  split_ifs at opened unclosed ⊢ with triple
  · exact opened.append line
  · have single : string.isTriple = false := by simpa using triple
    have escaped : endsEscaped line = true := by simpa [single] using unbroken
    have last : line.getLast? ≠ some '\\' := by
      rw [getLast?_of_endsEscaped escaped]
      decide
    obtain ⟨items, rfl⟩ := reads_of_closeSingle?_eq_none ends last unclosed
    exact opened.append items

/-- A line inside a string ends the string, or goes on with it. -/
theorem leaves_scanStringLine {state next : LineState} {string : OpenString} {line : List Char}
    {tokens : List Token} (shape : string.HasShape) (ends : EndsOnce line)
    (read : scanStringLine state string line = .line tokens next)
    : next.Leaves tokens (string.text ++ line) := by
  simp only [scanStringLine] at read
  split at read
  next taken rest closed =>
    obtain ⟨rfl, rfl⟩ := LineResult.line.inj read
    obtain ⟨tokenShape, rfl⟩ := shape.close closed
    have noString : { state with pending := none }.pending = none := rfl
    have behind := leaves_scanLineFrom noString (ends.suffix (List.suffix_append taken rest))
    rw [← List.append_assoc]
    exact behind.token tokenShape
  next unclosed =>
    split_ifs at read with broken
    · obtain ⟨rfl, rfl⟩ := LineResult.line.inj read
      refine LineState.leaves_of_covers rfl ?_
      have shape : Token.HasShape ⟨.error, string.text ++ line⟩ := trivial
      exact Covers.single shape
    · obtain ⟨rfl, rfl⟩ := LineResult.line.inj read
      refine ⟨?_, [], .nil, rfl⟩
      rintro opened ⟨⟩
      exact shape.goOn ends unclosed broken

theorem text_of_closeBlocks {column : Nat} {indents left : List Nat} {dedents : List Token}
    (closed : closeBlocks column indents = some (dedents, left))
    : ∀ token ∈ dedents, token = ⟨.dedent, []⟩ := by
  induction indents generalizing dedents left with
  | nil => 
    obtain ⟨rfl, rfl⟩ := Prod.mk.inj (Option.some.inj closed)
    simp
  | cons inner outer ih =>
      rw [closeBlocks] at closed
      split_ifs at closed
      · obtain ⟨rfl, rfl⟩ := Prod.mk.inj (Option.some.inj closed)
        simp
      · obtain ⟨⟨more, rest⟩, behind, same⟩ := Option.map_eq_some_iff.mp closed
        obtain ⟨rfl, rfl⟩ := Prod.mk.inj same
        exact List.forall_mem_cons.mpr ⟨rfl, ih behind⟩

/-- A line that starts a statement: its spacing may be a token, and so is what ends blocks. -/
theorem leaves_scanStatementLine {state next : LineState} {line : List Char} {tokens : List Token}
    (noString : state.pending = none) (ends : EndsOnce line)
    (read : scanStatementLine state line = .line tokens next) : next.Leaves tokens line := by
  obtain ⟨column, body, measured⟩ : ∃ column body, measureIndent 0 line = (column, body) :=
    ⟨_, _, rfl⟩
  obtain ⟨lead, gap, rfl⟩ : ∃ lead, IsGap lead ∧ lead ++ body = line := by
    refine ⟨line.takeWhile isSpacing, isGap_of_spacing fun c => List.mem_takeWhile_imp, ?_⟩
    have behind : body = line.dropWhile isSpacing := by
      rw [← measureIndent_snd 0 line, measured]
    rw [behind, List.takeWhile_append_dropWhile]
  replace ends : EndsOnce body := ends.suffix (List.suffix_append lead body)
  rw [scanStatementLine, measured] at read
  cases body with
  | nil => cases read
  | cons first rest =>
    dsimp only at read
    split_ifs at read with comment isBreak indented
    · obtain ⟨rfl, rfl⟩ := LineResult.line.inj read
      have isPrefix : dropBreaks (first :: rest) <+: first :: rest :=
        List.rdropWhile_prefix isBreak (first :: rest)
      have parts := List.prefix_iff_eq_append.mp isPrefix
      have commentShape : Token.HasShape ⟨.comment, dropBreaks (first :: rest)⟩ := trivial
      have endShape : Token.HasShape
          ⟨.blankLine, (first :: rest).drop (dropBreaks (first :: rest)).length⟩ := trivial
      have covers := Covers.token commentShape (.single endShape)
      rw [parts] at covers
      exact LineState.leaves_of_covers noString (gap.covers.append covers)
    · obtain ⟨rfl, rfl⟩ := LineResult.line.inj read
      have covers : Covers [⟨.blankLine, first :: rest⟩] (first :: rest) := .single trivial
      exact LineState.leaves_of_covers noString (gap.covers.append covers)
    · obtain ⟨rfl, rfl⟩ := LineResult.line.inj read
      have spacing : (lead ++ first :: rest).take
          ((lead ++ first :: rest).length - (first :: rest).length) = lead := by
        simp
      rw [spacing]
      have deeper : { state with indents := column :: state.indents }.pending = none := noString
      have indent : Token.HasShape ⟨.indent, lead⟩ := gap.isFree
      exact (leaves_scanLineFrom deeper ends).token indent
    · split at read
      next => cases read
      next dedents indents closed =>
        obtain ⟨rfl, rfl⟩ := LineResult.line.inj read
        have outer : { state with indents := indents }.pending = none := noString
        have behind := leaves_scanLineFrom outer ends
        have empty : Covers dedents [] := covers_nil fun token member => by
          rw [text_of_closeBlocks closed token member]
          exact ⟨by simp [Token.HasShape, IsFree], rfl⟩
        exact (behind.append empty).append gap.covers

theorem leaves_scanLine {state next : LineState} {line : List Char} {tokens : List Token}
    (shape : state.HasShape) (ends : EndsOnce line)
    (read : scanLine state line = .line tokens next)
    : next.Leaves tokens (state.openText ++ line) := by
  rw [scanLine] at read
  cases pending : state.pending with
  | some string =>
      rw [pending] at read
      rw [LineState.openText, pending]
      exact leaves_scanStringLine (shape string pending) ends read
  | none =>
      simp only [pending] at read
      rw [LineState.openText, pending]
      split_ifs at read
      · exact leaves_scanStatementLine pending ends read
      · obtain ⟨rfl, rfl⟩ := LineResult.line.inj read
        exact leaves_scanLineFrom rfl ends

-----------------------------------------------------------------------------------------
-- Texts
-----------------------------------------------------------------------------------------

/-- Tokens of the next lines cover the string that is left open and these lines. -/
theorem LineState.Leaves.covers {state : LineState} {tokens others : List Token}
    {text rest : List Char} (leaves : state.Leaves tokens text)
    (behind : Covers others (state.openText ++ rest))
    : Covers (tokens ++ others) (text ++ rest) := by
  obtain ⟨-, front, covers, rfl⟩ := leaves
  rw [List.append_assoc]
  exact covers.append behind

/-- Only a line of spacing is passed over. -/
theorem isGap_of_finished {state : LineState} {line : List Char}
    (finished : scanLine state line = .finished)
    : state.pending = none ∧ ∀ c ∈ line, isSpacing c = true := by
  rw [scanLine] at finished
  split at finished
  next string pending =>
    simp only [scanStringLine] at finished
    split at finished
    · cases finished
    · split at finished <;> cases finished
  next pending =>
    refine ⟨pending, ?_⟩
    split at finished
    · rw [scanStatementLine] at finished
      have body := measureIndent_snd 0 line
      cases measured : measureIndent 0 line with
      | mk column rest => 
          rw [measured] at finished body
          cases rest with
          | nil => exact fun c member => List.dropWhile_eq_nil_iff.mp body.symm c member
          | cons first rest =>
              dsimp only at finished
              split_ifs at finished
              split at finished <;> cases finished
    · cases finished

/-- The tokens behind the last line have no text. -/
theorem covers_closingTokens (state : LineState) (last : List Char)
    : Covers (closingTokens state last) [] := by
  refine covers_nil fun token member => ?_
  have free : IsFree [] := by simp [IsFree]
  simp only [closingTokens, List.mem_append, List.mem_map, List.mem_singleton] at member
  rcases member with (added | ⟨_, -, rfl⟩) | rfl
  · split_ifs at added
    · rw [List.mem_singleton.mp added]
      exact ⟨free, rfl⟩
    · cases added
  · exact ⟨free, rfl⟩
  · exact ⟨free, rfl⟩

/-- The first line of a text and the text behind it. -/
theorem exists_firstLine {text : List Char} (nonempty : text ≠ [])
    : ∃ line rest, text = line ++ rest ∧ line ≠ [] ∧ EndsOnce line
        ∧ linesWithBreaks text = line :: linesWithBreaks rest ∧ ('\n' ∈ line ∨ rest = []) := by
  by_cases broken : '\n' ∈ text
  · obtain ⟨body, rest, rfl, noFeed⟩ := List.eq_append_cons_of_mem broken
    exact ⟨body ++ ['\n'], rest, by simp, by simp, endsOnce_concat noFeed,
      linesWithBreaks_body noFeed rest, .inl (by simp)⟩
  · refine ⟨text, [], by simp, nonempty, ?_, linesWithBreaks_inLine broken nonempty, .inr rfl⟩
    rintro before behind rfl
    simp at broken

/-- By induction on the length of the text, a line at a time. -/
theorem covers_scanLines {state : LineState} (shape : state.HasShape) (last text : List Char)
    (complete : (scanLines state last (linesWithBreaks text)).failure = none)
    : Covers (scanLines state last (linesWithBreaks text)).tokens (state.openText ++ text) := by
  by_cases empty : text = []
  · subst empty
    rw [linesWithBreaks, scanLines] at complete ⊢
    split_ifs at complete ⊢ with isOpen
    have noString : state.pending = none := by simpa using isOpen
    rw [LineState.openText, noString]
    exact covers_closingTokens state last
  · obtain ⟨line, rest, rfl, nonempty, ends, lines, isLast⟩ := exists_firstLine empty
    rw [lines, scanLines] at complete ⊢
    cases read : scanLine state line with
    | failed failure =>
        rw [read] at complete
        cases complete
    | finished =>
        obtain ⟨noString, spacing⟩ := isGap_of_finished read
        have noBreak : '\n' ∉ line := fun member => absurd (spacing _ member) (by decide)
        obtain rfl := isLast.resolve_left noBreak
        rw [LineState.openText, noString, List.append_nil]
        simpa using (isGap_of_spacing spacing).covers.append (covers_closingTokens state last)
    | line tokens next =>
        have leaves := leaves_scanLine shape ends read
        have shorter : rest.length < (line ++ rest).length := by
          have := List.length_pos_of_ne_nil nonempty
          simp only [List.length_append]
          omega
        rw [read] at complete
        have behind := covers_scanLines leaves.1 line rest complete
        rw [← List.append_assoc]
        exact leaves.covers behind
termination_by text.length

/-- The tokens of a text that is read to its end cover it. -/
theorem covers_tokens {text : List Char} (complete : (tokens text).failure = none)
    : Covers (tokens text).tokens text := by
  have start : ∀ string ∈ LineState.pending {}, string.HasShape := nofun
  exact covers_scanLines start [] text complete

end LiteralEnum.Target
