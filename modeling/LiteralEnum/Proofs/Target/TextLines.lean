import LiteralEnum.Proofs.Target.ClosedPiece
import LiteralEnum.Proofs.Target.OpenLines

/-! The lines of a text, and the tokens of some lines in the middle of a text. -/

namespace LiteralEnum.Target

-----------------------------------------------------------------------------------------
-- Lines of a text
-----------------------------------------------------------------------------------------

/-- A carriage return stands before something other than a line feed. -/
def hasLoneReturn : List Char → Bool
  | '\r' :: '\n' :: rest => hasLoneReturn rest
  | '\r' :: _ => true
  | _ :: rest => hasLoneReturn rest
  | [] => false

/-- A line with its break, which is a line feed or a carriage return and a line feed. -/
def IsWholeLine (line : List Char) : Prop :=
  ∃ body, InLine body ∧ (line = body ++ ['\n'] ∨ line = body ++ ['\r', '\n'])

theorem InLine.cons {c : Char} {text : List Char} (inLine : InLine text) (noFeed : c ≠ '\n')
    (noReturn : c ≠ '\r') : InLine (c :: text) :=
  ⟨fun member => (List.mem_cons.mp member).elim (fun same => noFeed same.symm) inLine.1,
    fun member => (List.mem_cons.mp member).elim (fun same => noReturn same.symm) inLine.2⟩

theorem IsWholeLine.cons {c : Char} {line : List Char} (whole : IsWholeLine line)
    (noFeed : c ≠ '\n') (noReturn : c ≠ '\r') : IsWholeLine (c :: line) := by
  obtain ⟨body, inLine, rfl | rfl⟩ := whole
  · exact ⟨c :: body, inLine.cons noFeed noReturn, .inl rfl⟩
  · exact ⟨c :: body, inLine.cons noFeed noReturn, .inr rfl⟩

/-- A text without lone returns is whole lines and the beginning of one more. -/
theorem exists_wholeLines {text : List Char} (noLone : hasLoneReturn text = false)
    : ∃ (lines : List (List Char)) (last : List Char),
        text = lines.flatten ++ last ∧ (∀ line ∈ lines, IsWholeLine line) ∧ InLine last := by
  revert noLone
  fun_induction hasLoneReturn text with
  | case1 rest ih =>
    intro noLone
    obtain ⟨lines, last, rfl, whole, inLine⟩ := ih noLone
    refine ⟨['\r', '\n'] :: lines, last, rfl, ?_, inLine⟩
    exact List.forall_mem_cons.mpr ⟨⟨[], by simp [InLine], .inr rfl⟩, whole⟩
  | case2 => nofun
  | case3 c rest _ notReturn ih =>
    intro noLone
    obtain ⟨lines, last, rfl, whole, inLine⟩ := ih noLone
    by_cases feed : c = '\n'
    · subst feed
      refine ⟨['\n'] :: lines, last, rfl, ?_, inLine⟩
      exact List.forall_mem_cons.mpr ⟨⟨[], by simp [InLine], .inl rfl⟩, whole⟩
    · cases lines with
      | nil => exact ⟨[], c :: last, rfl, by simp, inLine.cons feed notReturn⟩
      | cons line lines =>
          obtain ⟨first, others⟩ := List.forall_mem_cons.mp whole
          exact ⟨(c :: line) :: lines, last, rfl,
            List.forall_mem_cons.mpr ⟨first.cons feed notReturn, others⟩, inLine⟩
  | case4 => exact fun _ => ⟨[], [], rfl, by simp, by simp [InLine]⟩

theorem linesWithBreaks_body {body : List Char} (noFeed : '\n' ∉ body) (rest : List Char)
    : linesWithBreaks (body ++ '\n' :: rest) = (body ++ ['\n']) :: linesWithBreaks rest := by
  induction body with
  | nil => rfl
  | cons c body ih =>
      have other : c ≠ '\n' := fun same => noFeed (same ▸ List.mem_cons_self)
      rw [List.cons_append, linesWithBreaks]
      · rw [ih fun member => noFeed (List.mem_cons_of_mem c member)]
        rfl
      · exact other

/-- A whole line is the first line of a text that begins with it. -/
theorem IsWholeLine.linesWithBreaks {line : List Char} (whole : IsWholeLine line)
    (rest : List Char)
    : linesWithBreaks (line ++ rest) = line :: linesWithBreaks rest := by
  obtain ⟨body, inLine, rfl | rfl⟩ := whole
  · simpa using linesWithBreaks_body inLine.1 rest
  · have noFeed : '\n' ∉ body ++ ['\r'] := by simpa using inLine.1
    simpa using linesWithBreaks_body noFeed rest

theorem linesWithBreaks_flatten {lines : List (List Char)}
    (whole : ∀ line ∈ lines, IsWholeLine line) (rest : List Char)
    : linesWithBreaks (lines.flatten ++ rest) = lines ++ linesWithBreaks rest := by
  induction lines with
  | nil => rfl
  | cons line lines ih =>
      obtain ⟨first, others⟩ := List.forall_mem_cons.mp whole
      rw [List.flatten_cons, List.append_assoc, first.linesWithBreaks, ih others]
      rfl

theorem linesWithBreaks_inLine {text : List Char} (noFeed : '\n' ∉ text) (nonempty : text ≠ [])
    : linesWithBreaks text = [text] := by
  induction text with
  | nil => exact absurd rfl nonempty
  | cons c rest ih =>
      have other : c ≠ '\n' := fun same => noFeed (same ▸ List.mem_cons_self)
      rw [linesWithBreaks]
      · cases rest with
        | nil => rfl
        | cons d rest => rw [ih (fun member => noFeed (List.mem_cons_of_mem c member)) nofun]
      · exact other

theorem IsWholeLine.append {line : List Char} (whole : IsWholeLine line) {lead : List Char}
    (inLine : InLine lead) : IsWholeLine (lead ++ line) := by
  induction lead with
  | nil => exact whole
  | cons c lead ih => exact (ih inLine.tail).cons inLine.head.1 inLine.head.2

theorem endsOnce_concat {body : List Char} (noFeed : '\n' ∉ body)
    : EndsOnce (body ++ ['\n']) := by
  intro before behind same
  rcases List.eq_nil_or_concat behind with rfl | ⟨more, c, rfl⟩
  · rfl
  · rw [List.concat_eq_append, ← List.cons_append, ← List.append_assoc] at same
    obtain ⟨rfl, -⟩ := List.append_inj' same rfl
    exact absurd (List.mem_append_right before List.mem_cons_self) noFeed

/-- The line feed of a whole line is its last character. -/
theorem IsWholeLine.endsOnce {line : List Char} (whole : IsWholeLine line) : EndsOnce line := by
  obtain ⟨body, inLine, rfl | rfl⟩ := whole
  · exact endsOnce_concat inLine.1
  · have noFeed : '\n' ∉ body ++ ['\r'] := by simpa using inLine.1
    simpa using endsOnce_concat noFeed

-----------------------------------------------------------------------------------------
-- Tokens of some lines
-----------------------------------------------------------------------------------------

/-- The lines are read from one state to the other, one after the other. -/
inductive ReadsLines : LineState → List (List Char) → List Token → LineState → Prop where
  | nil (state : LineState) : ReadsLines state [] [] state
  | cons {state next last : LineState} {line : List Char} {lines : List (List Char)}
    {tokens more : List Token} (first : scanLine state line = .line tokens next)
    (rest : ReadsLines next lines more last)
    : ReadsLines state (line :: lines) (tokens ++ more) last

theorem ReadsLines.single {state next : LineState} {line : List Char} {tokens : List Token}
    (read : scanLine state line = .line tokens next) : ReadsLines state [line] tokens next := by
  have reads := ReadsLines.cons read (.nil next)
  rwa [List.append_nil] at reads

theorem ReadsLines.append {state middle last : LineState} {lines others : List (List Char)}
    {tokens more : List Token} (first : ReadsLines state lines tokens middle)
    (second : ReadsLines middle others more last)
    : ReadsLines state (lines ++ others) (tokens ++ more) last := by
  induction first with
  | nil => exact second
  | cons line rest ih =>
      rw [List.append_assoc]
      exact .cons line (ih second)

/-- The tokens of lines, without those that the end of the text adds. -/
def lineTokens (state : LineState) : List (List Char) → List Token
  | [] => []
  | line :: rest =>
      match scanLine state line with
      | .line tokens next => tokens ++ lineTokens next rest
      | _ => []

theorem lineTokens_cons {state next : LineState} {line : List Char} {tokens : List Token}
    (read : scanLine state line = .line tokens next) (lines : List (List Char))
    : lineTokens state (line :: lines) = tokens ++ lineTokens next lines := by
  rw [lineTokens, read]

/-- The tokens of a text start with those of its lines. -/
theorem isPrefix_lineTokens (state : LineState) (before : List Char) (lines : List (List Char))
    : lineTokens state lines <+: (scanLines state before lines).tokens := by
  induction lines generalizing state before with
  | nil => exact List.nil_prefix
  | cons line rest ih =>
      rw [lineTokens, scanLines]
      cases scanLine state line with
      | line tokens next => exact (List.prefix_append_right_inj tokens).mpr (ih next line)
      | finished | failed => exact List.nil_prefix

theorem scanLines_cons {state next : LineState} {line : List Char} {tokens : List Token}
    (read : scanLine state line = .line tokens next) (before : List Char)
    (lines : List (List Char))
    : scanLines state before (line :: lines)
      = ⟨tokens ++ (scanLines next line lines).tokens, (scanLines next line lines).failure⟩ := by
  rw [scanLines, read]

/-- Lines that are read at the beginning of others. -/
theorem ReadsLines.scanLines {state last : LineState} {lines : List (List Char)}
    {tokens : List Token} (reads : ReadsLines state lines tokens last) (before : List Char)
    (others : List (List Char))
    : ∃ behind, scanLines state before (lines ++ others)
      = ⟨tokens ++ (scanLines last behind others).tokens,
        (scanLines last behind others).failure⟩ := by
  induction reads generalizing before with
  | nil => exact ⟨before, rfl⟩
  | cons line rest ih =>
      obtain ⟨behind, same⟩ := ih _
      exact ⟨behind, by rw [List.cons_append, scanLines_cons line, same, List.append_assoc]⟩

/-- What stops the tokens of lines does not depend on the line before them. -/
theorem failure_scanLines (state : LineState) (before other : List Char)
    (lines : List (List Char))
    : (scanLines state before lines).failure = (scanLines state other lines).failure := by
  cases lines with
  | nil =>
      simp only [scanLines]
      split
      · rfl
      · split <;> rfl
  | cons line rest =>
      simp only [scanLines]
      cases scanLine state line <;> rfl

end LiteralEnum.Target
