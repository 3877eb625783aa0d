import LiteralEnum.Proofs.Target.ClosedPiece
import LiteralEnum.Proofs.Target.OpenLines

/-! The last line of a text in parentheses. Either the line comes to the closing parenthesis,
or a comment or a broken string takes the parenthesis in, or a string in three quotes does.
It is one and the same of these by itself and in a table.
-/

namespace LiteralEnum.Target

/-- The tokens of what follows a text. -/
def Closing.marks : Closing → List Mark
  | .alone => [.token ⟨.operator, [')']⟩]
  | .element => [.token ⟨.operator, [')']⟩, .token ⟨.operator, [',']⟩, .lineBreak ['\n']]

/-- How the marks of a line come to its closing. -/
inductive ComesTo (marks : Closing → List Mark) : Prop where
  | closing (tokens : List Token)
    (found : ∀ closing : Closing, marks closing = tokens.map .token ++ closing.marks)
  /-- A token that is no bracket takes the closing in, up to a line break. -/
  | token (tokens : List Token) (last : Closing → Token) (behind : Closing → List Mark)
    (solid : ∀ closing, (last closing).isLayout = false ∧ (last closing).turn = 0)
    (breaks : ∀ closing, ∀ mark ∈ behind closing, ∃ text, mark = .lineBreak text)
    (found
      : ∀ closing, marks closing = tokens.map .token ++ .token (last closing) :: behind closing)
  | string (tokens : List Token) (last : Closing → OpenString)
    (isTriple : ∀ closing, (last closing).isTriple = true)
    (found : ∀ closing, marks closing = tokens.map .token ++ [.opening (last closing)])

theorem ComesTo.cons {marks : Closing → List Mark} (comes : ComesTo marks) (token : Token)
    : ComesTo fun closing => .token token :: marks closing := by
  cases comes with
  | closing tokens found => exact .closing (token :: tokens) fun closing => by simp [found]
  | token tokens last behind solid breaks found =>
      exact .token (token :: tokens) last behind solid breaks fun closing => by simp [found]
  | string tokens last isTriple found =>
      exact .string (token :: tokens) last isTriple fun closing => by simp [found]

theorem lineMarks_closing (closing : Closing) : lineMarks closing.text = closing.marks := by
  cases closing <;> decide

theorem pieceAt?_closing (closing : Closing)
    : pieceAt? closing.text = some (.token .operator [')'] (closing.text.drop 1)) := by
  cases closing <;> decide

/-- A comment runs to the end of its line. -/
theorem comesTo_comment {text rest : List Char} (inLine : InLine text)
    (comment : text.dropWhile isSpacing = '#' :: rest)
    : ComesTo fun closing => lineMarks (text ++ closing.text) := by
  have inLine : InLine ('#' :: rest) := comment ▸ inLine.suffix (List.dropWhile_suffix isSpacing)
  let isComment (c : Char) : Bool := c ≠ '\r' && c ≠ '\n'
  have all : ∀ c ∈ '#' :: rest, isComment c = true := by
    intro c member
    have noReturn : c ≠ '\r' := fun same => inLine.2 (same ▸ member)
    have noFeed : c ≠ '\n' := fun same => inLine.1 (same ▸ member)
    simp [isComment, noReturn, noFeed]
  have found (closing : Closing)
      : pieceAt? ((text ++ closing.text).dropWhile isSpacing)
        = some (.token .comment ('#' :: rest ++ closing.text.takeWhile isComment)
            (closing.text.dropWhile isComment)) := by
    rw [dropWhile_closing (by decide), comment, ← List.takeWhile_append_of_pos all,
      ← List.dropWhile_append_of_pos all]
    rfl
  refine .token [] (fun closing => ⟨.comment, '#' :: rest ++ closing.text.takeWhile isComment⟩)
    (fun closing => lineMarks (closing.text.dropWhile isComment)) (fun closing => ⟨rfl, rfl⟩)
    (fun closing => ?_) fun closing => ?_
  · cases closing
    · nofun
    · intro mark member
      exact ⟨['\n'], List.mem_singleton.mp member⟩
  · exact lineMarks_of_piece (by cases closing <;> simp [Closing.text]) (found closing)

/-- What is left behind something in a text is shorter than the text. -/
theorem shorter_of_append {taken rest within text : List Char} (nonempty : taken ≠ [])
    (whole : taken ++ rest = within) (suffix : within <:+ text) : rest.length < text.length := by
  have := List.length_pos_of_ne_nil nonempty
  have := suffix.length_le
  rw [← whole, List.length_append] at this
  omega

/-- The text of a line comes to its closing, by induction on its length. -/
theorem comesTo_lineMarks {text : List Char} (inLine : InLine text)
    : ComesTo fun closing => lineMarks (text ++ closing.text) := by
  have dropped (closing : Closing) := dropWhile_closing (p := isSpacing) (by decide) text closing
  have within : text.dropWhile isSpacing <:+ text := List.dropWhile_suffix isSpacing
  have nonempty (closing : Closing) : text ++ closing.text ≠ [] := by
    cases closing <;> simp [Closing.text]
  have ofRest (rest : List Char) (shorter : rest.length < text.length) (suffix : rest <:+ text)
      : ComesTo fun closing => lineMarks (rest ++ closing.text) :=
    comesTo_lineMarks (inLine.suffix suffix)
  by_cases empty : text.dropWhile isSpacing = []
  · refine .closing [] fun closing => ?_
    have found := pieceAt?_closing closing
    simp only [empty, List.nil_append] at dropped
    rw [← dropped] at found
    have := lineMarks_dropWhile found
    rw [dropped] at this
    simp [← this, lineMarks_closing]
  by_cases comment : (text.dropWhile isSpacing).head? = some '#'
  · obtain ⟨rest, same⟩ := List.head?_eq_some_iff.mp comment
    exact comesTo_comment inLine same
  have settled := settled_pieceAt? empty (inLine.suffix within) comment
  simp only [← dropped] at settled
  cases settled with
  | none found =>
      have filled : text ≠ [] := by
        rintro rfl
        exact empty rfl
      obtain ⟨c, rest, rfl⟩ := List.exists_cons_of_ne_nil filled
      have marks (closing : Closing)
          : lineMarks (c :: rest ++ closing.text)
            = .token ⟨.error, [c]⟩ :: lineMarks (rest ++ closing.text) :=
        lineMarks_of_error (found closing)
      simp only [marks]
      exact (ofRest rest (Nat.lt_succ_self _) (List.suffix_cons c rest)).cons _
  | token kind word rest inLine found =>
      obtain ⟨taken, whole⟩ := splits_of_pieceAt? (found .alone)
      rw [dropped, ← List.append_assoc] at whole
      have whole := List.append_cancel_right whole
      have suffix : rest <:+ text := .trans ⟨word, whole⟩ within
      have marks (closing : Closing)
          : lineMarks (text ++ closing.text)
            = .token ⟨kind, word⟩ :: lineMarks (rest ++ closing.text) := by
        rw [lineMarks_of_piece (nonempty closing) (found closing)]
        cases kind <;> first | rfl | exact absurd rfl inLine
      simp only [marks]
      refine (ofRest rest ?_ suffix).cons _
      exact shorter_of_append taken whole within
  | tripleQuote opening quote rest found =>
      obtain ⟨taken, whole, isQuote⟩ := splits_of_pieceAt? (found .alone)
      rw [dropped, ← List.append_assoc] at whole
      have suffix : rest <:+ text := .trans ⟨opening, List.append_cancel_right whole⟩ within
      have marks (closing : Closing) := lineMarks_of_piece (nonempty closing) (found closing)
      simp only [marks, Piece.marks]
      rcases settled_closeTriple? isQuote opening.reverse (inLine.suffix suffix) with
        none | ⟨read, others, closed⟩
      · simp only [none]
        exact .string [] _ (fun _ => rfl) fun _ => rfl
      · simp only [closed]
        obtain ⟨same, nonempty⟩ := append_of_closeTriple? (closed .alone)
        rw [List.reverse_reverse, ← List.append_assoc, ← List.append_assoc, whole] at same
        have whole := List.append_cancel_right same
        exact (ofRest others (shorter_of_append nonempty whole within)
          (.trans ⟨read, whole⟩ within)).cons _
termination_by text.length

theorem endsEscaped_closing (text : List Char) (closing : Closing)
    : endsEscaped (text ++ closing.text) = false := by
  cases closing <;> simp [endsEscaped, Closing.text]

/-- A line that begins inside a string comes to its closing. -/
theorem comesTo_stringMarks {string : OpenString} (isQuote : IsQuote string.quote)
    {text : List Char} (inLine : InLine text)
    : ComesTo fun closing => string.marks (text ++ closing.text) := by
  have settled : Settled fun closing =>
      if string.isTriple then closeTriple? string.quote [] (text ++ closing.text)
      else closeSingle? string.quote [] (text ++ closing.text) := by
    split
    · exact settled_closeTriple? isQuote [] inLine
    · exact settled_closeSingle? isQuote [] inLine
  rcases settled with none | ⟨read, rest, found⟩
  · simp only [OpenString.marks, none, endsEscaped_closing]
    cases triple : string.isTriple with
    | false =>
        exact .token [] _ (fun _ => []) (fun _ => ⟨rfl, rfl⟩) (fun _ => List.forall_mem_nil _)
          fun _ => rfl
    | true =>
        let last (closing : Closing) : OpenString :=
          ⟨string.text ++ (text ++ closing.text), string.quote, true⟩
        exact .string [] last (fun _ => rfl) fun _ => rfl
  · simp only [OpenString.marks, found]
    have suffix : rest <:+ text := by
      have closed := found .alone
      split at closed
      · have whole := (append_of_closeTriple? closed).1
        rw [List.reverse_nil, List.nil_append, ← List.append_assoc] at whole
        exact ⟨read, List.append_cancel_right whole⟩
      · have whole := append_of_closeSingle? closed
        rw [List.reverse_nil, List.nil_append, ← List.append_assoc] at whole
        exact ⟨read, List.append_cancel_right whole⟩
    exact (comesTo_lineMarks (inLine.suffix suffix)).cons _

/-- The next line of a text, if it is the last, comes to its closing. -/
theorem comesTo_marks {state : LineState} (sound : state.IsSound) {text : List Char}
    (inLine : InLine text) : ComesTo fun closing => state.marks (text ++ closing.text) := by
  cases pending : state.pending with
  | none =>
      simp only [LineState.marks, pending]
      exact comesTo_lineMarks inLine
  | some string =>
      obtain ⟨-, isQuote⟩ := sound string pending
      simp only [LineState.marks, pending]
      exact comesTo_stringMarks isQuote inLine

end LiteralEnum.Target
