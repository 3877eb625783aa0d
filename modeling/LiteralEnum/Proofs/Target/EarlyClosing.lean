import LiteralEnum.Proofs.Target.ClosedPiece
import LiteralEnum.Proofs.Target.TextLines

/-! What it means that a text in parentheses does not close them early. Its tokens leave a
bracket open throughout, or they close the last one and only layout follows. Lines of layout
are read as if the statement went on.
-/

namespace LiteralEnum.Target

-----------------------------------------------------------------------------------------
-- Tokens that close the first bracket
-----------------------------------------------------------------------------------------

/-- No token is more than layout. -/
def IsBlank (tokens : List Token) : Prop := ∀ token ∈ tokens, token.isLayout = true

theorem turn_of_isLayout {token : Token} (layout : token.isLayout = true) : token.turn = 0 := by
  refine turn_of_ne_operator fun operator => ?_
  rw [Token.isLayout, operator] at layout
  cases layout

theorem IsBlank.turns {tokens : List Token} (blank : IsBlank tokens) : turns tokens = 0 := by
  induction tokens with
  | nil => rfl
  | cons token rest ih =>
      obtain ⟨first, others⟩ := List.forall_mem_cons.mp blank
      rw [turns_cons, turn_of_isLayout first, ih others, Int.zero_add]

theorem IsBlank.append {tokens others : List Token}
    : IsBlank (tokens ++ others) ↔ IsBlank tokens ∧ IsBlank others := List.forall_mem_append

/-- Behind the last bracket only layout may stand. -/
theorem closesEarly_closed {depth : Int} {tokens : List Token}
    (early : closesEarly depth true tokens = false) : IsBlank tokens := by
  induction tokens generalizing depth with
  | nil => nofun
  | cons token rest ih =>
      rw [closesEarly] at early
      split at early
      next => cases early
      next solid =>
        have layout : token.isLayout = true := by simpa using solid
        have notBracket : token.isOpening = false ∧ token.isClosing = false := by
          obtain ⟨kind, text⟩ := token
          cases kind <;> first | exact ⟨rfl, rfl⟩ | cases layout
        rw [notBracket.1, notBracket.2] at early
        exact List.forall_mem_cons.mpr ⟨layout, ih early⟩

/-- Tokens that do not close early leave a bracket open throughout, or close the last one and
only layout follows.
-/
theorem staysOpen_or_blank {depth : Int} {tokens others : List Token} (positive : 0 < depth)
    (early : closesEarly depth false (tokens ++ others) = false)
    : StaysOpen depth tokens ∧ closesEarly (depth + turns tokens) false others = false
      ∨ depth + turns tokens = 0 ∧ IsBlank others := by
  induction tokens generalizing depth with
  | nil =>
      refine .inl ⟨fun front isFront => ?_, by simpa using early⟩
      obtain rfl := List.prefix_nil.mp isFront
      simpa using positive
  | cons token rest ih =>
      have goesOn (still : 0 < depth + token.turn)
          (early : closesEarly (depth + token.turn) false (rest ++ others) = false)
          : StaysOpen depth (token :: rest)
              ∧ closesEarly (depth + turns (token :: rest)) false others = false
            ∨ depth + turns (token :: rest) = 0 ∧ IsBlank others := by
        rw [turns_cons, ← Int.add_assoc, staysOpen_cons]
        exact (ih still early).imp_left fun ⟨stays, behind⟩ => ⟨⟨positive, stays⟩, behind⟩
      rw [List.cons_append, closesEarly, Bool.false_and, if_neg Bool.false_ne_true] at early
      split at early
      next isOpening =>
        have turn : token.turn = 1 := if_pos isOpening
        exact goesOn (by omega) (turn ▸ early)
      next notOpening =>
        split at early
        next isClosing =>
          have turn : token.turn = -1 := by rw [Token.turn, if_neg notOpening, if_pos isClosing]
          by_cases last : depth - 1 = 0
          · rw [decide_eq_true last] at early
            have blank := IsBlank.append.mp (closesEarly_closed early)
            exact .inr ⟨by rw [turns_cons, blank.1.turns]; omega, blank.2⟩
          · rw [decide_eq_false last] at early
            exact goesOn (by omega) (by rwa [turn])
        next notClosing =>
          have turn : token.turn = 0 := by rw [Token.turn, if_neg notOpening, if_neg notClosing]
          exact goesOn (by omega) (by rwa [turn, Int.add_zero])

/-- The beginning of tokens that do not close early does not either. -/
theorem closesEarly_front {depth : Int} {closed : Bool} {front tokens : List Token}
    (isFront : front <+: tokens) (early : closesEarly depth closed tokens = false)
    : closesEarly depth closed front = false := by
  obtain ⟨behind, rfl⟩ := isFront
  induction front generalizing depth closed with
  | nil => rfl
  | cons token rest ih =>
      rw [List.cons_append, closesEarly] at early
      rw [closesEarly]
      split at early
      next => cases early
      next inside =>
        rw [if_neg inside]
        split at early
        next isOpening => rw [if_pos isOpening, ih early]
        next notOpening =>
          rw [if_neg notOpening]
          split at early
          next isClosing => rw [if_pos isClosing, ih early]
          next notClosing => rw [if_neg notClosing, ih early]

-----------------------------------------------------------------------------------------
-- Lines that only hold layout
-----------------------------------------------------------------------------------------

theorem measureIndent_snd (column : Nat) (line : List Char)
    : (measureIndent column line).2 = line.dropWhile isSpacing := by
  fun_induction measureIndent column line with
  | case1 _ _ ih | case2 _ _ ih | case3 _ _ ih => rw [ih]; rfl
  | case4 column line noSpace noTab noFeed =>
    cases line with
    | nil => rfl
    | cons c rest =>
        have notSpacing : isSpacing c = false := by
          simp only [isSpacing, Bool.or_eq_false_iff, decide_eq_false_iff_not]
          refine ⟨⟨?_, ?_⟩, ?_⟩
          · rintro rfl
            exact noSpace rest rfl
          · rintro rfl
            exact noTab rest rfl
          · rintro rfl
            exact noFeed rest rfl
        rw [List.dropWhile_cons_of_neg (by simp [notSpacing])]

/-- Something stands in the line, and a break only at its end. -/
structure HoldsPiece (line : List Char) : Prop where
  nonempty : line.dropWhile isSpacing ≠ []
  atBreak
    : ∀ c rest, line.dropWhile isSpacing = c :: rest → isBreak c = true
        → pieceAt? (c :: rest) = some (.token .newline (c :: rest) [])

/-- A line that starts a statement and holds no more than layout is read by its marks. -/
theorem scanLine_start {line : List Char} (holds : HoldsPiece line)
    : ∃ tokens next, scanLine {} line = .line tokens next
        ∧ (IsBlank tokens → IsBlank (LineState.readLine {} line).1
          ∧ next = (LineState.readLine {} line).2) := by
  obtain ⟨first, rest, body⟩ := List.exists_cons_of_ne_nil holds.nonempty
  have measured : measureIndent 0 line = ((measureIndent 0 line).1, first :: rest) := by
    rw [← body, ← measureIndent_snd 0 line]
  generalize (measureIndent 0 line).1 = column at measured
  have start : scanLine {} line = scanStatementLine {} line := rfl
  rw [start, scanStatementLine, measured]
  dsimp only
  split
  next => exact ⟨_, _, rfl, fun blank => absurd (blank _ List.mem_cons_self) Bool.false_ne_true⟩
  next noComment =>
    split
    next isBreak =>
      have piece := holds.atBreak first rest body isBreak
      rw [← body] at piece
      have nonempty : line ≠ [] := by rintro rfl; exact holds.nonempty rfl
      have read : LineState.readLine {} line = ([⟨.newline, line.dropWhile isSpacing⟩], {}) := by
        rw [LineState.readLine, LineState.marks]
        simp only [lineMarks_of_piece nonempty piece]
        rfl
      refine ⟨_, _, rfl, fun _ => ?_⟩
      rw [read]
      exact ⟨by simp [IsBlank, Token.isLayout], rfl⟩
    next noBreak =>
      split
      next => exact ⟨_, _, rfl, fun blank => absurd (blank _ List.mem_cons_self) Bool.false_ne_true⟩
      next noIndent =>
        have read : scanLineFrom {} (first :: rest)
            = LineState.read {} (lineMarks (line.dropWhile isSpacing)) := by
          rw [scanLineFrom_eq_read, body]
        refine ⟨_, _, rfl, ?_⟩
        rw [read, List.nil_append]
        intro blank
        cases piece : pieceAt? (line.dropWhile isSpacing) with
        | none =>
            rw [body] at piece blank
            have spaced : (first :: rest).dropWhile isSpacing = first :: rest := by
              rw [← body, List.dropWhile_idempotent]
            rw [lineMarks_of_error (by rwa [spaced])] at blank
            exact absurd (blank _ List.mem_cons_self) Bool.false_ne_true
        | some piece =>
            rw [lineMarks_dropWhile ‹_›] at blank ⊢
            exact ⟨blank, rfl⟩

/-- Where no bracket is open, a line that holds no more than layout is read by its marks. -/
theorem scanLine_blank {state : LineState} (sound : state.IsSound) (closed : state.depth = 0)
    (noIndent : state.indents = []) {line : List Char} (holds : HoldsPiece line)
    : ∃ tokens next, scanLine state line = .line tokens next
        ∧ (IsBlank tokens → IsBlank (state.readLine line).1
          ∧ next = (state.readLine line).2) := by
  by_cases goesOn : state.continued = true ∨ state.pending ≠ none
  · exact ⟨_, _, scanLine_eq sound (.inr goesOn) line, fun blank => ⟨blank, rfl⟩⟩
  · obtain ⟨notContinued, noString⟩ := not_or.mp goesOn
    have start : state = {} := by
      obtain ⟨depth, continued, pending, indents⟩ := state
      simp_all
    rw [start]
    exact scanLine_start holds

theorem InLine.isBreak_head {c : Char} {text : List Char} (inLine : InLine (c :: text))
    : ¬isBreak c = true := by
  simpa [isBreak] using And.intro inLine.head.2 inLine.head.1

theorem IsWholeLine.holdsPiece {line : List Char} (whole : IsWholeLine line)
    : HoldsPiece line := by
  obtain ⟨body, inLine, same⟩ := whole
  have ending : ∃ ending, line = body ++ ending ∧ ending.dropWhile isSpacing = ending
      ∧ ending ≠ [] ∧ pieceAt? ending = some (.token .newline ending []) := by
    rcases same with rfl | rfl
    · exact ⟨['\n'], rfl, by decide⟩
    · exact ⟨['\r', '\n'], rfl, by decide⟩
  obtain ⟨ending, rfl, unspaced, nonempty, piece⟩ := ending
  have dropped : (body ++ ending).dropWhile isSpacing
      = if (body.dropWhile isSpacing).isEmpty then ending.dropWhile isSpacing
        else body.dropWhile isSpacing ++ ending := List.dropWhile_append
  rw [unspaced] at dropped
  cases spaced : body.dropWhile isSpacing with
  | nil =>
      rw [spaced, List.isEmpty_nil, if_pos rfl] at dropped
      refine ⟨by rwa [dropped], fun c rest same _ => ?_⟩
      rwa [← same, dropped]
  | cons first more =>
      rw [spaced, List.isEmpty_cons, if_neg Bool.false_ne_true] at dropped
      refine ⟨by rw [dropped]; nofun, fun c rest same isBreak => ?_⟩
      rw [dropped] at same
      obtain rfl := (List.cons.inj same).1
      have inLine : InLine (first :: more) :=
        spaced ▸ inLine.suffix (List.dropWhile_suffix isSpacing)
      exact absurd isBreak (inLine.isBreak_head)

theorem holdsPiece_closing {text : List Char} (inLine : InLine text) (closing : Closing)
    : HoldsPiece (text ++ closing.text) := by
  have dropped := dropWhile_closing (p := isSpacing) (by decide) text closing
  constructor
  · rw [dropped]
    cases closing <;> simp [Closing.text]
  · intro c rest same isBreak
    rw [dropped] at same
    have inLine := inLine.suffix (List.dropWhile_suffix isSpacing)
    cases spaced : text.dropWhile isSpacing with
    | nil =>
        rw [spaced] at same
        cases closing <;> obtain rfl := (List.cons.inj same).1 <;> cases isBreak
    | cons first more =>
        rw [spaced] at same inLine
        obtain rfl := (List.cons.inj same).1
        exact absurd isBreak inLine.isBreak_head

end LiteralEnum.Target
