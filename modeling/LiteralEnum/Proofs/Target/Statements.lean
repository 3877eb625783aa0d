import LiteralEnum.Proofs.Target.EnclosedText

/-! Statements, and how they are read at every indent. A statement is a text that is read from
its first character to the line feed behind it without another statement beginning in between. Its
tokens do not depend on how far it is indented; before them stand steps into a block or out of
blocks.
-/

namespace LiteralEnum.Target

-----------------------------------------------------------------------------------------
-- Statements
-----------------------------------------------------------------------------------------

/-- The next line goes on with a statement. -/
def LineState.isOpen (state : LineState) : Bool :=
  state.depth ≠ 0 || state.continued || state.pending.isSome

/-- The tokens of the lines that go on with a statement, if it ends with the last of them. -/
def goOn? (state : LineState) : List (List Char) → Option (List Token)
  | [] => if state = {} then some [] else none
  | line :: rest =>
      if state.isOpen then
        match scanLine state line with
        | .line tokens next => (goOn? next rest).map (tokens ++ ·)
        | _ => none
      else none

/-- The line starts a statement where it stands. -/
def startsStatement : List Char → Bool
  | [] => false
  | c :: _ => !isSpacing c && c ≠ '#' && !isBreak c

/-- The lines of a text with a line feed behind it. -/
def brokenLines (text : List Char) : List (List Char) := linesWithBreaks (text ++ ['\n'])

/-- The tokens of a text that is one statement. -/
def statement? (text : List Char) : Option (List Token) :=
  match brokenLines text with
  | [] => none
  | first :: more =>
      if startsStatement first then
        let (tokens, next) := scanLineFrom {} first
        (goOn? next more).map (tokens ++ ·)
      else none

-----------------------------------------------------------------------------------------
-- Statements within blocks
-----------------------------------------------------------------------------------------

/-- The state with other blocks open. -/
def LineState.within (state : LineState) (indents : List Nat) : LineState :=
  { state with indents }

theorem read_within (state : LineState) (indents : List Nat) (marks : List Mark)
    : (state.within indents).read marks
      = ((state.read marks).1, (state.read marks).2.within indents) := by
  induction marks generalizing state with
  | nil => rfl
  | cons mark rest ih =>
      cases mark with
      | token token =>
          have same : (state.within indents).pass token = (state.pass token).within indents := rfl
          simp only [LineState.read, same, ih, scanRest.add]
      | lineBreak text =>
          simp only [LineState.read, ih, scanRest.add]
          rfl
      | continuation => exact ih { state with continued := true }
      | opening string => rfl

theorem scanLineFrom_within (state : LineState) (indents : List Nat) (text : List Char)
    : scanLineFrom (state.within indents) text
      = ((scanLineFrom state text).1, (scanLineFrom state text).2.within indents) := by
  rw [scanLineFrom_eq_read, scanLineFrom_eq_read, read_within]

/-- The state in which the marks of a line are read that goes on with a statement. -/
def LineState.goingOn (state : LineState) : LineState :=
  if state.pending.isSome then { state with pending := none } else { state with continued := false }

/-- A line that goes on with a statement is read by its marks. -/
theorem scanLine_goOn {state : LineState} (isOpen : state.isOpen = true) (line : List Char)
    : scanLine state line
      = .line (state.goingOn.read (state.marks line)).1
          (state.goingOn.read (state.marks line)).2 := by
  rw [scanLine]
  cases pending : state.pending with
  | some string =>
      simp only [LineState.goingOn, LineState.marks, pending, Option.isSome_some, if_true,
        scanStringLine, OpenString.marks]
      generalize (if string.isTriple = true then closeTriple? string.quote [] line
        else closeSingle? string.quote [] line) = closing
      cases closing with
      | some close =>
          simp only [LineState.read, scanRest.add, scanLineFrom_eq_read]
          rw [pass_of_ne_operator]
          simp
      | none =>
          simp only
          split <;> simp [LineState.read, scanRest.add, pass_of_ne_operator]
  | none =>
      have goesOn : ¬(state.depth = 0 ∧ (!state.continued) = true) := by
        simp only [LineState.isOpen, pending] at isOpen
        rintro ⟨closed, notContinued⟩
        simp_all
      simp only [LineState.goingOn, LineState.marks, pending, if_neg goesOn, scanLineFrom_eq_read,
        Option.isSome_none, Bool.false_eq_true, if_false]

/-- A line that goes on with a statement is read alike in every block. -/
theorem scanLine_within {state next : LineState} {line : List Char} {tokens : List Token}
    (isOpen : state.isOpen = true) (read : scanLine state line = .line tokens next)
    (indents : List Nat)
    : scanLine (state.within indents) line = .line tokens (next.within indents) := by
  rw [scanLine_goOn isOpen] at read
  obtain ⟨rfl, rfl⟩ := LineResult.line.inj read
  have stillOpen : (state.within indents).isOpen = true := isOpen
  have goingOn : (state.within indents).goingOn = state.goingOn.within indents := by
    cases pending : state.pending <;> simp [LineState.goingOn, LineState.within, pending]
  rw [scanLine_goOn stillOpen, goingOn]
  exact congrArg (fun found => LineResult.line found.1 found.2) (read_within _ indents _)

/-- The state between statements, with blocks open. -/
def between (indents : List Nat) : LineState := { indents }

/-- A statement that has begun in a block is read on to its end, by induction on its lines. -/
theorem readsLines_of_goOn? {state : LineState} {lines : List (List Char)} {tokens : List Token}
    (goesOn : goOn? state lines = some tokens) (indents : List Nat)
    : ReadsLines (state.within indents) lines tokens (between indents) := by
  induction lines generalizing state tokens with
  | nil =>
      obtain ⟨rfl, same⟩ := Option.ite_none_right_eq_some.mp goesOn
      obtain rfl := Option.some.inj same
      exact .nil _
  | cons line rest ih =>
      rw [goOn?] at goesOn
      obtain ⟨isOpen, goesOn⟩ := Option.ite_none_right_eq_some.mp goesOn
      cases read : scanLine state line with
      | line first next =>
          rw [read] at goesOn
          obtain ⟨more, isMore, rfl⟩ := Option.map_eq_some_iff.mp goesOn
          exact .cons (scanLine_within isOpen read indents) (ih isMore)
      | finished | failed => simp [read] at goesOn

-----------------------------------------------------------------------------------------
-- What matters of tokens
-----------------------------------------------------------------------------------------

/-- The token is neither a comment nor a break that means nothing. -/
def Token.matters (token : Token) : Bool := token.kind ≠ .comment && token.kind ≠ .blankLine

/-- The token without the text of an indent. -/
def Token.bare (token : Token) : Token :=
  if token.kind = .indent then { token with text := [] } else token

/-- The tokens that matter, without the texts of indents. -/
def essence (tokens : List Token) : List Token := (tokens.filter Token.matters).map Token.bare

@[simp] theorem essence_nil : essence [] = [] := rfl

@[simp] theorem essence_append (tokens others : List Token)
    : essence (tokens ++ others) = essence tokens ++ essence others := by
  rw [essence, List.filter_append, List.map_append]
  rfl

/-- A step into a block. -/
def stepIn : Token := ⟨.indent, []⟩

/-- A step out of a block. -/
def stepOut : Token := ⟨.dedent, []⟩

theorem essence_stepOut (count : Nat)
    : essence (List.replicate count stepOut) = List.replicate count stepOut := by
  induction count with
  | zero => rfl
  | succ count ih =>
      rw [List.replicate_succ, ← List.singleton_append, essence_append, ih]
      rfl

-----------------------------------------------------------------------------------------
-- Levels
-----------------------------------------------------------------------------------------

/-- The columns of the blocks that are open at a level, each a width further in. -/
def columns (width : Nat) : Nat → List Nat
  | 0 => []
  | level + 1 => (level + 1) * width :: columns width level

theorem headD_columns (width level : Nat) : (columns width level).headD 0 = level * width := by
  cases level with
  | zero => exact (Nat.zero_mul width).symm
  | succ level => rfl

theorem mem_columns {width level inner : Nat} (positive : 0 < level) (within : level ≤ inner)
    : level * width ∈ columns width inner := by
  induction inner with
  | zero => omega
  | succ inner ih =>
      by_cases last : level = inner + 1
      · rw [last, columns]
        exact List.mem_cons_self
      · exact List.mem_cons_of_mem _ (ih (by omega))

/-- Going out to a level closes the blocks in between, by induction on where it starts. -/
theorem closeBlocks_columns {width : Nat} (positive : 0 < width) {level start : Nat}
    (outside : level ≤ start)
    : closeBlocks (level * width) (columns width start)
      = some (List.replicate (start - level) stepOut, columns width level) := by
  induction start with
  | zero =>
      obtain rfl := Nat.le_zero.mp outside
      rfl
  | succ start ih =>
      rw [columns, closeBlocks]
      by_cases here : level = start + 1
      · subst here
        simp [columns]
      · have farther : ¬(start + 1) * width ≤ level * width := by
          rw [Nat.mul_le_mul_right_iff positive]
          omega
        have listed : level * width = 0 ∨ level * width ∈ columns width start := by
          by_cases outermost : level = 0
          · exact .inl (by rw [outermost, Nat.zero_mul])
          · exact .inr (mem_columns (Nat.pos_of_ne_zero outermost) (by omega))
        have count : start + 1 - level = start - level + 1 := by omega
        rw [if_neg farther, if_pos listed, ih (by omega), count]
        rfl

/-- The tokens before a statement at a level, if the last one stood at another. -/
def changeLevel (start level : Nat) : List Token :=
  if start < level then [stepIn] else List.replicate (start - level) stepOut

theorem measureIndent_spaces {text : List Char} (starts : startsStatement text = true)
    (column count : Nat)
    : measureIndent column (List.replicate count ' ' ++ text) = (column + count, text) := by
  induction count generalizing column with
  | zero =>
      obtain _ | ⟨c, rest⟩ := text
      · cases starts
      simp only [startsStatement, isSpacing, Bool.and_eq_true, Bool.not_eq_true',
        Bool.or_eq_false_iff, decide_eq_false_iff_not] at starts
      obtain ⟨⟨⟨⟨notSpace, notTab⟩, notFeed⟩, -⟩, -⟩ := starts
      rw [List.replicate_zero, List.nil_append, measureIndent, Nat.add_zero]
      · exact fun _ same => notSpace (List.cons.inj same).1
      · exact fun _ same => notTab (List.cons.inj same).1
      · exact fun _ same => notFeed (List.cons.inj same).1
  | succ count ih =>
      rw [List.replicate_succ, List.cons_append, measureIndent, ih]
      congr 1
      omega

/-- The first line of a statement at a level: steps in or out, and the tokens of the line. -/
theorem scanLine_atLevel {width : Nat} (positive : 0 < width) {start level : Nat}
    (near : level ≤ start + 1) {line : List Char} (starts : startsStatement line = true)
    : ∃ change, essence change = changeLevel start level
        ∧ scanLine (between (columns width start)) (List.replicate (level * width) ' ' ++ line)
          = .line (change ++ (scanLineFrom {} line).1)
              ((scanLineFrom {} line).2.within (columns width level)) := by
  have within (indents : List Nat) : scanLineFrom (between indents) line
      = ((scanLineFrom {} line).1, (scanLineFrom {} line).2.within indents) :=
    scanLineFrom_within {} indents line
  have measured := measureIndent_spaces starts 0 (level * width)
  have asStatement (text : List Char) : scanLine (between (columns width start)) text
      = scanStatementLine (between (columns width start)) text := rfl
  obtain _ | ⟨c, rest⟩ := line
  · cases starts
  simp only [startsStatement, Bool.and_eq_true, Bool.not_eq_true', decide_eq_true_eq] at starts
  obtain ⟨⟨-, notComment⟩, notBreak⟩ := starts
  rw [asStatement, scanStatementLine, measured]
  simp only [Nat.zero_add, notComment, notBreak, if_false, Bool.false_eq_true]
  have current : (between (columns width start)).indents.headD 0 = start * width :=
    headD_columns width start
  rw [current]
  by_cases inside : start < level
  · obtain rfl : level = start + 1 := by omega
    have further : start * width < (start + 1) * width :=
      (Nat.mul_lt_mul_right positive).mpr (Nat.lt_succ_self start)
    rw [if_pos further]
    generalize List.take _ (List.replicate ((start + 1) * width) ' ' ++ c :: rest) = spaces
    refine ⟨[⟨.indent, spaces⟩], ?_, congrArg
      (fun found => LineResult.line (⟨.indent, spaces⟩ :: found.1) found.2) (within _)⟩
    rw [changeLevel, if_pos inside]
    rfl
  · have notFurther : ¬start * width < level * width := by
      rw [Nat.mul_lt_mul_right positive]
      exact inside
    have closed : closeBlocks (level * width) (between (columns width start)).indents
        = some (List.replicate (start - level) stepOut, columns width level) :=
      closeBlocks_columns positive (Nat.not_lt.mp inside)
    rw [if_neg notFurther, closed]
    refine ⟨List.replicate (start - level) stepOut, ?_, congrArg
      (fun found => LineResult.line (List.replicate (start - level) stepOut ++ found.1) found.2)
      (within _)⟩
    rw [changeLevel, if_neg inside, essence_stepOut]

-----------------------------------------------------------------------------------------
-- Statements at a level
-----------------------------------------------------------------------------------------

theorem linesWithBreaks_ne_nil {text : List Char} (nonempty : text ≠ [])
    : linesWithBreaks text ≠ [] := by
  obtain ⟨c, rest, rfl⟩ := List.exists_cons_of_ne_nil nonempty
  rw [linesWithBreaks.eq_def]
  split
  next => contradiction
  next => exact List.cons_ne_nil _ _
  next => split <;> exact List.cons_ne_nil _ _

/-- What stands before a text stands before its first line. -/
theorem linesWithBreaks_lead {lead text : List Char} (noFeed : '\n' ∉ lead) (nonempty : text ≠ [])
    : linesWithBreaks (lead ++ text) = leadLines lead (linesWithBreaks text) := by
  obtain ⟨line, rest, lines⟩ := List.exists_cons_of_ne_nil (linesWithBreaks_ne_nil nonempty)
  rw [lines, leadLines]
  induction lead with
  | nil => exact lines
  | cons c lead ih =>
      have other : c ≠ '\n' := Ne.symm (List.ne_of_not_mem_cons noFeed)
      rw [List.cons_append, linesWithBreaks, ih (List.not_mem_of_not_mem_cons noFeed)]
      · rfl
      · exact other

theorem brokenLines_ne_nil (text : List Char) : brokenLines text ≠ [] :=
  linesWithBreaks_ne_nil (by simp)

theorem brokenLines_lead {lead : List Char} (noFeed : '\n' ∉ lead) (text : List Char)
    : brokenLines (lead ++ text) = leadLines lead (brokenLines text) := by
  rw [brokenLines, List.append_assoc, linesWithBreaks_lead noFeed (by simp)]
  rfl

/-- The first line of a text that starts a statement starts it. -/
theorem exists_first_brokenLines {text : List Char} (starts : startsStatement text = true)
    : ∃ first more, brokenLines text = first :: more ∧ startsStatement first = true := by
  cases text with
  | nil => cases starts
  | cons c rest =>
      have noFeed : '\n' ∉ [c] := by
        intro member
        obtain rfl := List.mem_singleton.mp member
        cases starts
      obtain ⟨first, more, lines⟩ := List.exists_cons_of_ne_nil (brokenLines_ne_nil rest)
      refine ⟨c :: first, more, ?_, starts⟩
      rw [← List.singleton_append, brokenLines_lead noFeed, lines]
      rfl

theorem exists_lines_of_statement? {text : List Char} {tokens : List Token}
    (isStatement : statement? text = some tokens)
    : ∃ first more others, brokenLines text = first :: more ∧ startsStatement first = true
        ∧ goOn? (scanLineFrom {} first).2 more = some others
        ∧ tokens = (scanLineFrom {} first).1 ++ others := by
  rw [statement?] at isStatement
  split at isStatement
  next => cases isStatement
  next first more lines =>
    obtain ⟨starts, isStatement⟩ := Option.ite_none_right_eq_some.mp isStatement
    obtain ⟨others, goesOn, rfl⟩ := Option.map_eq_some_iff.mp isStatement
    exact ⟨first, more, others, lines, starts, goesOn, rfl⟩

/-- A statement at a level is read like the statement by itself, after steps in or out. -/
theorem readsLines_statement {text : List Char} {tokens : List Token}
    (isStatement : statement? text = some tokens) {width : Nat} (positive : 0 < width)
    {start level : Nat} (near : level ≤ start + 1)
    : ∃ read, essence read = changeLevel start level ++ essence tokens
        ∧ ReadsLines (between (columns width start))
            (brokenLines (List.replicate (level * width) ' ' ++ text)) read
            (between (columns width level)) := by
  obtain ⟨first, more, others, lines, starts, goesOn, rfl⟩ :=
    exists_lines_of_statement? isStatement
  obtain ⟨change, same, scanned⟩ := scanLine_atLevel positive near starts
  have noFeed : '\n' ∉ List.replicate (level * width) ' ' := by simp
  have led : brokenLines (List.replicate (level * width) ' ' ++ text)
      = (List.replicate (level * width) ' ' ++ first) :: more := by
    rw [brokenLines_lead noFeed, lines]
    rfl
  refine ⟨change ++ (scanLineFrom {} first).1 ++ others, ?_, ?_⟩
  · rw [List.append_assoc, essence_append, same]
  · rw [led]
    exact .cons scanned (readsLines_of_goOn? goesOn _)

end LiteralEnum.Target
