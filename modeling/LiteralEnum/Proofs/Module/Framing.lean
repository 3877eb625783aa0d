import LiteralEnum.Proofs.Module.Layout
import LiteralEnum.Target.Lexeme

/-! What the header and the exported names add to a module. They stand before and behind a text
that is the same under all settings of the two. A header is comment lines, whatever it says, and
what is read behind comment lines is what is read without them.
-/

namespace LiteralEnum

-----------------------------------------------------------------------------------------
-- Lines of a text
-----------------------------------------------------------------------------------------

namespace Text

/-- What is collected stands in the text, by induction on it. -/
theorem mem_of_mem_go {current text line : List Char} {c : Char}
    (isLine : line ∈ splitLines.go current text) (member : c ∈ line)
    : c ∈ current ∨ c ∈ text := by
  fun_induction splitLines.go current text with
  | case1 current empty => cases isLine
  | case2 current nonempty =>
    rw [List.mem_singleton.mp isLine, List.mem_reverse] at member
    exact .inl member
  | case3 current rest ih | case4 current c rest _ broken ih =>
    rcases List.mem_cons.mp isLine with rfl | later
    · exact .inl (List.mem_reverse.mp member)
    · rcases ih later with inNone | inRest
      · cases inNone
      · exact .inr (by simp [inRest])
  | case5 current first rest _ unbroken ih =>
    rcases ih isLine with collected | inRest
    · rcases List.mem_cons.mp collected with rfl | before
      · exact .inr List.mem_cons_self
      · exact .inl before
    · exact .inr (List.mem_cons_of_mem first inRest)

theorem mem_of_mem_splitLines {text line : List Char} {c : Char}
    (isLine : line ∈ splitLines text) (member : c ∈ line) : c ∈ text :=
  (mem_of_mem_go isLine member).resolve_left List.not_mem_nil

end Text

-----------------------------------------------------------------------------------------
-- Comment lines
-----------------------------------------------------------------------------------------

namespace Target

/-- Each line starts as a comment and ends in a line feed, without another break. -/
inductive AreCommentLines : List Char → Prop where
  | nil : AreCommentLines []
  | cons {line rest : List Char} (inLine : InLine line) (others : AreCommentLines rest)
    : AreCommentLines ('#' :: ' ' :: (line ++ '\n' :: rest))

/-- A token of a line without a statement. -/
def Token.IsAside (token : Token) : Prop := token.kind = .comment ∨ token.kind = .blankLine

/-- Only the last character of the line before matters, and a line feed as much as no line. -/
theorem scanLines_behind {behind : List Char} (ended : behind.getLast? = some '\n')
    (lines : List (List Char))
    : scanLines {} behind lines = scanLines {} [] lines := by
  have closing : closingTokens {} behind = closingTokens {} [] := by
    simp [closingTokens, ended, isBreak]
  cases lines with
  | nil => simp only [scanLines, closing]
  | cons line rest => rw [scanLines, scanLines, closing]

/-- The tokens of comment lines stand before those of the text behind them, by induction on the
lines.
-/
theorem AreCommentLines.tokens {header : List Char} (comments : AreCommentLines header)
    : ∃ front, (∀ token ∈ front, token.IsAside)
        ∧ ∀ text, Target.tokens (header ++ text)
          = ⟨front ++ (Target.tokens text).tokens, (Target.tokens text).failure⟩ := by
  induction comments with
  | nil => exact ⟨[], nofun, fun _ => rfl⟩
  | @cons line rest inLine others ih =>
      obtain ⟨front, aside, read⟩ := ih
      obtain ⟨comment, ending, scanned⟩ : ∃ comment ending,
          scanLine {} ('#' :: ' ' :: (line ++ ['\n']))
            = .line [⟨.comment, comment⟩, ⟨.blankLine, ending⟩] {} := ⟨_, _, rfl⟩
      refine ⟨⟨.comment, comment⟩ :: ⟨.blankLine, ending⟩ :: front, ?_, fun text => ?_⟩
      · exact List.forall_mem_cons.mpr ⟨.inl rfl, List.forall_mem_cons.mpr ⟨.inr rfl, aside⟩⟩
      · have noFeed : '\n' ∉ '#' :: ' ' :: line := by simpa using inLine.1
        have first : linesWithBreaks ('#' :: ' ' :: (line ++ '\n' :: rest) ++ text)
            = ('#' :: ' ' :: (line ++ ['\n'])) :: linesWithBreaks (rest ++ text) := by
          simpa using linesWithBreaks_body noFeed (rest ++ text)
        have ended : ('#' :: ' ' :: (line ++ ['\n'])).getLast? = some '\n' := by
          rw [← List.cons_append, ← List.cons_append, List.getLast?_concat]
        rw [Target.tokens, first, scanLines_cons scanned, scanLines_behind ended]
        change (⟨_ ++ (Target.tokens (rest ++ text)).tokens, _⟩ : Tokens) = _
        rw [← Target.tokens, read text]
        rfl

theorem AreCommentLines.noReturn {header : List Char} (comments : AreCommentLines header)
    : '\r' ∉ header := by
  induction comments with
  | nil => exact List.not_mem_nil
  | cons inLine others ih => simpa using ⟨inLine.2, ih⟩

theorem AreCommentLines.getLast? {header : List Char} (comments : AreCommentLines header)
    (nonempty : header ≠ []) : header.getLast? = some '\n' := by
  induction comments with
  | nil => exact absurd rfl nonempty
  | @cons line rest inLine others ih =>
      rcases List.eq_nil_or_concat rest with rfl | ⟨more, c, rfl⟩
      · rw [← List.cons_append, ← List.cons_append, List.getLast?_concat]
      · have last := ih (by simp)
        rw [List.concat_eq_append, List.getLast?_concat] at last
        rw [List.concat_eq_append, ← List.cons_append, ← List.cons_append, ← List.cons_append,
          ← List.append_assoc, List.getLast?_concat, last]

-----------------------------------------------------------------------------------------
-- Lexemes
-----------------------------------------------------------------------------------------

namespace Lexeme

/-- More fuel changes nothing, by induction on the reading. -/
theorem scan?_succ {fuel : Nat} {context : Context} {lineStart : Bool} {text : List Char}
    {lexemes : List Lexeme} (read : scan? fuel context lineStart text = some lexemes)
    : scan? (fuel + 1) context lineStart text = some lexemes := by
  fun_induction scan? fuel context lineStart text generalizing lexemes with
  | case1 | case2 | case4 | case6 | case9 | case13 => cases read
  | case3 context text fuel column outermost measured =>
    rw [scan?, if_pos rfl, measured]
    simpa [outermost] using read
  | case5 context text fuel column c rest skipped measured ih =>
    rw [scan?, if_pos rfl, measured]
    simpa [skipped] using ih read
  | case7 context text fuel column c rest starts outermost others blocks changed measured ih =>
    obtain ⟨more, found, rfl⟩ := Option.map_eq_some_iff.mp read
    rw [scan?, if_pos rfl, measured]
    simp [starts, outermost, changed, ih found]
  | case8 context text fuel column c rest starts inside measured ih =>
    rw [scan?, if_pos rfl, measured]
    simpa [starts, inside] using ih read
  | case10 context lineStart text fuel within rest ended outermost ih =>
    obtain ⟨more, found, rfl⟩ := Option.map_eq_some_iff.mp read
    rw [scan?, if_neg within, ended]
    simp [outermost, ih found]
  | case11 context lineStart text fuel within rest ended inside ih =>
    rw [scan?, if_neg within, ended]
    simpa [inside] using ih read
  | case12 context lineStart text fuel within c rest continued ih =>
    rw [scan?, if_neg within, continued]
    exact ih read
  | case14 context lineStart text fuel within lexeme next rest nonempty unended straight taken ih =>
    obtain ⟨more, found, rfl⟩ := Option.map_eq_some_iff.mp read
    rw [scan?, if_neg within]
    split
    next empty => exact absurd empty nonempty
    next rest ended => exact absurd ended (unended rest)
    next c rest continued => exact absurd continued (straight c rest)
    next => simp [taken, ih found]

theorem scan?_of_le {fuel more : Nat} (enough : fuel ≤ more) {context : Context}
    {lineStart : Bool} {text : List Char} {lexemes : List Lexeme}
    (read : scan? fuel context lineStart text = some lexemes)
    : scan? more context lineStart text = some lexemes := by
  induction enough with
  | refl => exact read
  | step _ ih => exact scan?_succ ih

/-- Comment lines have no lexemes, by induction on them. They take a step each, and are longer than
that.
-/
theorem scan?_comments {header : List Char} (comments : AreCommentLines header) {fuel : Nat}
    {text : List Char} {lexemes : List Lexeme} (read : scan? fuel {} true text = some lexemes)
    : scan? (fuel + header.length) {} true (header ++ text) = some lexemes := by
  induction comments with
  | nil => exact read
  | @cons line rest inLine others ih =>
      have comment : dropComment ('#' :: ' ' :: (line ++ '\n' :: (rest ++ text)))
          = '\n' :: (rest ++ text) := by
        have passed : ∀ c ∈ ' ' :: line, decide (c ≠ '\n') = true := by
          intro c member
          simp only [decide_eq_true_eq]
          rintro rfl
          simp [inLine.1] at member
        rw [dropComment, ← List.cons_append, List.dropWhile_append_of_pos passed]
        rfl
      have step (fuel : Nat)
          : scan? (fuel + 1) {} true ('#' :: ' ' :: (line ++ '\n' :: (rest ++ text)))
            = scan? fuel {} true (rest ++ text) := by
        rw [scan?, if_pos rfl]
        change scan? fuel {} true
          (dropComment ('#' :: ' ' :: (line ++ '\n' :: (rest ++ text)))).tail = _
        rw [comment, List.tail_cons]
      have shape : '#' :: ' ' :: (line ++ '\n' :: rest) ++ text
          = '#' :: ' ' :: (line ++ '\n' :: (rest ++ text)) := by simp
      have behind := (step _).trans ih
      rw [shape]
      refine scan?_of_le ?_ behind
      simp only [List.length_cons, List.length_append]
      omega

end Lexeme

/-- Breaks without carriage returns stay as they are. -/
theorem unifyBreaks_append {header : List Char} (noReturn : '\r' ∉ header) (text : List Char)
    : Text.unifyBreaks (header ++ text) = header ++ Text.unifyBreaks text := by
  induction header with
  | nil => rfl
  | cons c rest ih =>
      have other : c ≠ '\r' := Ne.symm (List.ne_of_not_mem_cons noReturn)
      rw [List.cons_append, Text.unifyBreaks, if_neg other,
        ih (List.not_mem_of_not_mem_cons noReturn)]
      · rfl
      · exact fun _ isReturn => absurd isReturn other

theorem completeLine_append (header : List Char) {text : List Char} (nonempty : text ≠ [])
    : Lexeme.completeLine (header ++ text) = header ++ Lexeme.completeLine text := by
  rw [Lexeme.completeLine, Lexeme.completeLine, List.getLast?_append_of_ne_nil _ nonempty]
  split
  next => rfl
  next => rw [List.append_assoc]

/-- The lexemes of a text are the same behind comment lines. -/
theorem AreCommentLines.lexemes {header : List Char} (comments : AreCommentLines header)
    (noNull : '\x00' ∉ header) {text : List Char} {lexemes : List Lexeme}
    (read : Lexeme.ofText? text = some lexemes)
    : Lexeme.ofText? (header ++ text) = some lexemes := by
  by_cases begun : header = []
  · rwa [begun, List.nil_append]
  · have textNoNull : '\x00' ∉ text := by
      intro member
      simp [Lexeme.ofText?, member] at read
    rw [Lexeme.ofText?, if_neg (by simpa using textNoNull)] at read
    rw [Lexeme.ofText?, if_neg (by simp [noNull, textNoNull]),
      unifyBreaks_append comments.noReturn]
    generalize Text.unifyBreaks text = text at read ⊢
    by_cases empty : text = []
    · -- The break that completes an empty text is not added behind a header.
      subst empty
      obtain rfl : lexemes = [] := (Option.some.inj read).symm
      have complete : Lexeme.completeLine (header ++ []) = header := by
        rw [List.append_nil, Lexeme.completeLine, if_pos (comments.getLast? begun)]
      have scanned : Lexeme.scan? (1 + header.length) {} true (header ++ []) = some [] :=
        Lexeme.scan?_comments comments rfl
      rw [List.append_nil] at scanned
      dsimp only
      rw [complete]
      exact Lexeme.scan?_of_le (by omega) scanned
    · have scanned := Lexeme.scan?_comments comments read
      dsimp only
      rw [completeLine_append header empty]
      refine Lexeme.scan?_of_le ?_ scanned
      rw [List.length_append]
      omega

end Target

-----------------------------------------------------------------------------------------
-- Header and exported names
-----------------------------------------------------------------------------------------

/-- The same settings without a header and a list of exported names. -/
def Settings.bare (settings : Settings) : Settings :=
  { settings with emitHeader := false, emitAll := false }

namespace Module

open Target (AreCommentLines)

theorem unlines_append (lines others : List String)
    : unlines (lines ++ others) = unlines lines ++ unlines others := by
  rw [unlines, List.map_append, String.join_append]
  rfl

/-- A module is the bare module between its header and its exported names. -/
theorem render_eq_map (settings : Settings) (model : Model)
    : model.render settings
      = (model.render settings.bare).map fun body =>
          unlines (headerLines settings) ++ body ++ unlines (allLines settings model.name) := by
  have indent : settings.bare.indent = settings.indent := rfl
  have noHeader : headerLines settings.bare = [] := rfl
  have noExports : allLines settings.bare model.name = [] := rfl
  rw [Model.render, Model.render, lines, lines, indent, noHeader, noExports]
  cases bodyLines settings.indent model with
  | error error => rfl
  | ok body =>
      change Except.ok _ = Except.ok _
      rw [unlines_append, unlines_append, List.nil_append, List.append_nil]

/-- The lines of any text are comment lines behind their marks, by induction on them. -/
theorem areCommentLines_header (settings : Settings)
    : AreCommentLines (unlines (headerLines settings)).toList := by
  rw [headerLines]
  split
  next =>
    have inLine : ∀ line ∈ Text.splitLines settings.headerText.toList, Target.InLine line :=
      fun line isLine =>
        ⟨fun member => absurd (Text.isLineBreak_of_mem_splitLines isLine _ member) (by decide),
          fun member => absurd (Text.isLineBreak_of_mem_splitLines isLine _ member) (by decide)⟩
    generalize Text.splitLines settings.headerText.toList = header at inLine ⊢
    induction header with
    | nil => exact .nil
    | cons line header ih =>
        obtain ⟨first, others⟩ := List.forall_mem_cons.mp inLine
        have mark : "# ".toList = ['#', ' '] := by decide +kernel
        have comment := AreCommentLines.cons first (ih others)
        rw [toList_unlines] at comment ⊢
        simpa [mark] using comment
  next => exact .nil

/-- A header has the characters of its text, and what makes comment lines of it. -/
theorem mem_header {settings : Settings} {c : Char}
    (member : c ∈ (unlines (headerLines settings)).toList)
    : c ∈ settings.headerText.toList ∨ c ∈ ['#', ' ', '\n'] := by
  obtain ⟨row, isRow, member⟩ := List.mem_flatMap.mp (toList_unlines _ ▸ member)
  rw [headerLines] at isRow
  split at isRow
  next =>
    obtain ⟨line, isLine, rfl⟩ := List.mem_map.mp isRow
    have mark : "# ".toList = ['#', ' '] := by decide +kernel
    rw [String.toList_append, mark, String.toList_ofList, List.append_assoc] at member
    rcases List.mem_append.mp member with marked | member
    · exact .inr (List.mem_append_left ['\n'] marked)
    · rcases List.mem_append.mp member with inLine | ended
      · exact .inl (Text.mem_of_mem_splitLines isLine inLine)
      · exact .inr (List.mem_append_right ['#', ' '] ended)
  next => cases isRow

/-- Every break of a header text starts a comment line of its own. -/
example : headerLines { headerText := "a\rimport os\r\n\u2028b" }
    = ["# a", "# import os", "# ", "# b"] := by decide +kernel

end Module

end LiteralEnum
