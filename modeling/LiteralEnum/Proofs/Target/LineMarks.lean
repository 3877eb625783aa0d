import LiteralEnum.Proofs.Target.PieceSplitting
import Mathlib.Algebra.Ring.Int.Defs
import Mathlib.Data.List.DropRight
import Mathlib.Data.List.TakeWhile

/-! What a line holds, apart from the state that it is read in. The marks of a line are found
from its text alone; the depth only decides which kind of break a break is. So a line that is
read one bracket deeper has the same tokens and ends one bracket deeper.
-/

namespace LiteralEnum.Target

-----------------------------------------------------------------------------------------
-- Marks
-----------------------------------------------------------------------------------------

/-- What a line holds. -/
inductive Mark where
  | token (token : Token)
  | lineBreak (text : List Char)
  | continuation
  | opening (string : OpenString)
deriving Repr, DecidableEq

/-- The marks of a piece, before those of the text behind it. -/
def Piece.marks (further : List Char → List Mark) : Piece → List Mark
  | .nothing => []
  | .continuation others => .continuation :: further others
  | .tripleQuote opening quote others =>
      match closeTriple? quote opening.reverse others with
      | some (read, others) => .token ⟨.string, read⟩ :: further others
      | none => [.opening ⟨opening ++ others, quote, true⟩]
  | .openLine read quote others => [.opening ⟨read ++ others, quote, false⟩]
  | .token .newline newline others => .lineBreak newline :: further others
  | .token kind word others => .token ⟨kind, word⟩ :: further others

/-- The marks of the rest of a line, with fuel as for its tokens. -/
def marksWithin : Nat → List Char → List Mark
  | 0, _ => []
  | _, [] => []
  | fuel + 1, c :: rest =>
      match pieceAt? ((c :: rest).dropWhile isSpacing) with
      | some piece => piece.marks (marksWithin fuel)
      | none => .token ⟨.error, [c]⟩ :: marksWithin fuel rest

/-- The marks of a line. -/
def lineMarks (text : List Char) : List Mark := marksWithin text.length text

/-- One for an opening bracket, minus one for a closing one. -/
def Token.turn (token : Token) : Int :=
  if token.isOpening then 1 else if token.isClosing then -1 else 0

/-- The state behind a token. -/
def LineState.pass (state : LineState) (token : Token) : LineState :=
  { state with depth := state.depth + token.turn }

/-- The tokens of marks, and the state behind them. -/
def LineState.read (state : LineState) : List Mark → List Token × LineState
  | [] => ([], state)
  | .token token :: rest => scanRest.add token ((state.pass token).read rest)
  | .lineBreak text :: rest =>
      scanRest.add ⟨if 0 < state.depth then .blankLine else .newline, text⟩ (state.read rest)
  | .continuation :: rest => { state with continued := true }.read rest
  | .opening string :: _ => ([], { state with pending := some string })

theorem turn_of_ne_operator {token : Token} (other : token.kind ≠ .operator)
    : token.turn = 0 := by
  simp [Token.turn, Token.isOpening, Token.isClosing, other]

theorem pass_of_ne_operator {token : Token} (state : LineState) (other : token.kind ≠ .operator)
    : state.pass token = state := by
  rw [LineState.pass, turn_of_ne_operator other, Int.add_zero]

theorem pass_operator (state : LineState) (text : List Char)
    : state.pass ⟨.operator, text⟩ = { state with depth := nextDepth state.depth text } := by
  simp only [LineState.pass, Token.turn, Token.isOpening, Token.isClosing, nextDepth, decide_true,
    Bool.true_and]
  congr 1
  split
  · rfl
  · split
    · rfl
    · exact Int.add_zero _

/-- A line is read by its marks, by induction on the fuel. -/
theorem scanRest_eq_read (state : LineState) (fuel : Nat) (text : List Char)
    : scanRest state fuel text = state.read (marksWithin fuel text) := by
  induction fuel generalizing state text with
  | zero => rfl
  | succ fuel ih =>
      cases text with
      | nil => rfl
      | cons c rest =>
          rw [scanRest, marksWithin]
          generalize pieceAt? ((c :: rest).dropWhile isSpacing) = found
          cases found with
          | none => simp only [LineState.read, ih, pass_of_ne_operator state, ne_eq, reduceCtorEq,
              not_false_eq_true]
          | some piece =>
              cases piece with
              | nothing => rfl
              | continuation others => exact ih _ others
              | tripleQuote opening quote others =>
                  cases closed : closeTriple? quote opening.reverse others with
                  | none => simp only [Piece.marks, closed, LineState.read]
                  | some found => simp only [Piece.marks, closed, LineState.read, ih,
                      pass_of_ne_operator state, ne_eq, reduceCtorEq, not_false_eq_true]
              | openLine => rfl
              | token kind word others =>
                  cases kind with
                  | operator => simp only [Piece.marks, LineState.read, ih, pass_operator]
                  | newline => simp only [Piece.marks, LineState.read, ih]
                  | _ => simp only [Piece.marks, LineState.read, ih, pass_of_ne_operator state,
                      ne_eq, reduceCtorEq, not_false_eq_true]

theorem scanLineFrom_eq_read (state : LineState) (text : List Char)
    : scanLineFrom state text = state.read (lineMarks text) :=
  scanRest_eq_read state text.length text

-----------------------------------------------------------------------------------------
-- The marks of a line from its pieces
-----------------------------------------------------------------------------------------

/-- Fewer characters are left behind the piece than there were. -/
def Piece.LeavesFewer (length : Nat) : Piece → Prop
  | .nothing | .openLine .. => True
  | .continuation rest | .token _ _ rest => rest.length < length
  | .tripleQuote opening quote rest =>
      ∀ read others, closeTriple? quote opening.reverse rest = some (read, others)
        → others.length < length

theorem Piece.Splits.leavesFewer {text : List Char} {piece : Piece} (splits : piece.Splits text)
    : piece.LeavesFewer text.length := by
  cases piece with
  | nothing => trivial
  | openLine => trivial
  | continuation rest =>
      obtain ⟨ending, member, rfl⟩ := splits
      have := List.length_pos_of_mem member
      simp only [Piece.LeavesFewer, List.length_append]
      omega
  | token kind word rest =>
      obtain ⟨nonempty, rfl⟩ := splits
      have := List.length_pos_of_ne_nil nonempty
      simp only [Piece.LeavesFewer, List.length_append]
      omega
  | tripleQuote opening quote rest =>
      obtain ⟨-, rfl, -⟩ := splits
      intro read others closed
      obtain ⟨whole, nonempty⟩ := append_of_closeTriple? closed
      have := List.length_pos_of_ne_nil nonempty
      rw [← List.reverse_reverse opening, ← whole, List.length_append]
      omega

/-- The marks of a piece depend on the marks of shorter texts only. -/
theorem Piece.LeavesFewer.marks {length : Nat} {piece : Piece} (fewer : piece.LeavesFewer length)
    {one other : List Char → List Mark}
    (same : ∀ text : List Char, text.length < length → one text = other text)
    : piece.marks one = piece.marks other := by
  cases piece with
  | nothing => rfl
  | openLine => rfl
  | continuation rest => exact congrArg _ (same rest fewer)
  | token kind word rest => cases kind <;> exact congrArg _ (same rest fewer)
  | tripleQuote opening quote rest =>
      cases closed : closeTriple? quote opening.reverse rest with
      | none => simp only [Piece.marks, closed]
      | some found =>
          simp only [Piece.marks, closed]
          exact congrArg _ (same found.2 (fewer found.1 found.2 closed))

/-- More fuel finds no other marks, by induction on the fuel. -/
theorem marksWithin_eq {fuel more : Nat} {text : List Char} (enough : text.length ≤ fuel)
    (enoughMore : text.length ≤ more) : marksWithin fuel text = marksWithin more text := by
  induction fuel generalizing more text with
  | zero =>
      obtain rfl := List.length_eq_zero_iff.mp (Nat.le_zero.mp enough)
      cases more <;> rfl
  | succ fuel ih =>
      cases text with
      | nil => cases more <;> rfl
      | cons c rest =>
          obtain ⟨more, rfl⟩ : ∃ less, more = less + 1 :=
            Nat.exists_eq_add_one_of_ne_zero (by rintro rfl; cases enoughMore)
          have shorter (others : List Char) (fewer : others.length < (c :: rest).length)
              : marksWithin fuel others = marksWithin more others :=
            ih (by omega) (by omega)
          rw [marksWithin, marksWithin]
          cases found : pieceAt? ((c :: rest).dropWhile isSpacing) with
          | none => exact congrArg _ (shorter rest (Nat.lt_succ_self _))
          | some piece =>
              refine (splits_of_pieceAt? found).leavesFewer.marks fun others fewer => ?_
              exact shorter others (Nat.lt_of_lt_of_le fewer (List.length_dropWhile_le isSpacing _))

theorem lineMarks_of_piece {text : List Char} {piece : Piece} (nonempty : text ≠ [])
    (found : pieceAt? (text.dropWhile isSpacing) = some piece)
    : lineMarks text = piece.marks lineMarks := by
  obtain ⟨c, rest, rfl⟩ := List.exists_cons_of_ne_nil nonempty
  rw [lineMarks, List.length_cons, marksWithin]
  simp only [found]
  refine (splits_of_pieceAt? found).leavesFewer.marks fun others fewer => ?_
  have := List.length_dropWhile_le isSpacing (c :: rest)
  rw [List.length_cons] at this
  exact marksWithin_eq (by omega) (Nat.le_refl _)

theorem lineMarks_of_error {c : Char} {rest : List Char}
    (found : pieceAt? ((c :: rest).dropWhile isSpacing) = none)
    : lineMarks (c :: rest) = .token ⟨.error, [c]⟩ :: lineMarks rest := by
  rw [lineMarks, List.length_cons, marksWithin]
  simp only [found]
  rfl

/-- Spacing before a piece is not marked. Where no piece is found it is, one character after
the other.
-/
theorem lineMarks_dropWhile {text : List Char} {piece : Piece}
    (found : pieceAt? (text.dropWhile isSpacing) = some piece)
    : lineMarks (text.dropWhile isSpacing) = lineMarks text := by
  by_cases empty : text = []
  · rw [empty, List.dropWhile_nil]
  · rw [lineMarks_of_piece empty found]
    by_cases none : text.dropWhile isSpacing = []
    · rw [none] at found ⊢
      obtain rfl := Option.some.inj found
      rfl
    · rw [lineMarks_of_piece none]
      rw [List.dropWhile_idempotent, found]

-----------------------------------------------------------------------------------------
-- Depth
-----------------------------------------------------------------------------------------

/-- The opening brackets among tokens less the closing ones. -/
def turns (tokens : List Token) : Int := (tokens.map Token.turn).sum

@[simp] theorem turns_nil : turns [] = 0 := rfl

@[simp] theorem turns_cons (token : Token) (tokens : List Token)
    : turns (token :: tokens) = token.turn + turns tokens := rfl

@[simp] theorem turns_append (tokens others : List Token)
    : turns (tokens ++ others) = turns tokens + turns others := by
  rw [turns, List.map_append, List.sum_append]
  rfl

/-- Some bracket is open before the tokens and behind each of them. -/
def StaysOpen (depth : Int) (tokens : List Token) : Prop :=
  ∀ front, front <+: tokens → 0 < depth + turns front

theorem staysOpen_cons {depth : Int} {token : Token} {tokens : List Token}
    : StaysOpen depth (token :: tokens) ↔ 0 < depth ∧ StaysOpen (depth + token.turn) tokens := by
  constructor
  · intro stays
    refine ⟨by simpa using stays [] List.nil_prefix, fun front isFront => ?_⟩
    have := stays (token :: front) ((List.prefix_cons_inj token).mpr isFront)
    rw [turns_cons] at this
    omega
  · rintro ⟨positive, stays⟩ front isFront
    rcases List.prefix_cons_iff.mp isFront with rfl | ⟨front, rfl, shorter⟩
    · simpa using positive
    · have := stays front shorter
      rw [turns_cons]
      omega

theorem StaysOpen.append {depth : Int} {tokens others : List Token}
    (first : StaysOpen depth tokens) (second : StaysOpen (depth + turns tokens) others)
    : StaysOpen depth (tokens ++ others) := by
  induction tokens generalizing depth with
  | nil => simpa using second
  | cons token rest ih =>
      obtain ⟨positive, stays⟩ := staysOpen_cons.mp first
      refine staysOpen_cons.mpr ⟨positive, ih stays ?_⟩
      rwa [turns_cons, ← Int.add_assoc] at second

-----------------------------------------------------------------------------------------
-- Reading marks
-----------------------------------------------------------------------------------------

theorem read_tokens (state : LineState) (tokens : List Token) (marks : List Mark)
    : state.read (tokens.map .token ++ marks)
      = (tokens ++ ({ state with depth := state.depth + turns tokens }.read marks).1,
          ({ state with depth := state.depth + turns tokens }.read marks).2) := by
  induction tokens generalizing state with
  | nil => simp
  | cons token rest ih =>
      simp only [List.map_cons, List.cons_append, LineState.read, ih, LineState.pass, turns_cons,
        Int.add_assoc]
      rfl

theorem turn_lineBreak (state : LineState) (text : List Char)
    : Token.turn ⟨if 0 < state.depth then .blankLine else .newline, text⟩ = 0 :=
  turn_of_ne_operator (by split <;> nofun)

theorem depth_read (state : LineState) (marks : List Mark)
    : (state.read marks).2.depth = state.depth + turns (state.read marks).1 := by
  induction marks generalizing state with
  | nil => exact (Int.add_zero _).symm
  | cons mark rest ih =>
      cases mark with
      | token token =>
          simp only [LineState.read, scanRest.add, ih, LineState.pass, turns_cons, Int.add_assoc]
      | lineBreak text =>
          simp only [LineState.read, scanRest.add, ih, turns_cons, turn_lineBreak, Int.zero_add]
      | continuation => exact ih { state with continued := true }
      | opening string => exact (Int.add_zero _).symm

theorem indents_read (state : LineState) (marks : List Mark)
    : (state.read marks).2.indents = state.indents := by
  induction marks generalizing state with
  | nil => rfl
  | cons mark rest ih =>
      cases mark with
      | token token => exact ih (state.pass token)
      | lineBreak text => exact ih state
      | continuation => exact ih { state with continued := true }
      | opening string => rfl

/-- The state with one more open bracket. -/
def LineState.deeper (state : LineState) : LineState := { state with depth := state.depth + 1 }

theorem pass_deeper (state : LineState) (token : Token)
    : state.deeper.pass token = (state.pass token).deeper := by
  simp only [LineState.pass, LineState.deeper, Int.add_right_comm]

/-- Read one bracket deeper, marks end one bracket deeper. -/
theorem read_deeper (state : LineState) (marks : List Mark)
    : (state.deeper.read marks).2 = (state.read marks).2.deeper := by
  induction marks generalizing state with
  | nil => rfl
  | cons mark rest ih =>
      cases mark with
      | token token => simp only [LineState.read, scanRest.add, pass_deeper, ih]
      | lineBreak text => exact ih state
      | continuation => exact ih { state with continued := true }
      | opening string => rfl

/-- Where brackets are open throughout, one more changes no token. -/
theorem read_deeper_tokens {state : LineState} {marks : List Mark}
    (stays : StaysOpen state.depth (state.read marks).1)
    : (state.deeper.read marks).1 = (state.read marks).1 := by
  induction marks generalizing state with
  | nil => rfl
  | cons mark rest ih =>
      cases mark with
      | token token =>
          simp only [LineState.read, scanRest.add] at stays ⊢
          rw [pass_deeper, ih (staysOpen_cons.mp stays).2]
      | lineBreak text =>
          simp only [LineState.read, scanRest.add] at stays ⊢
          obtain ⟨positive, stays⟩ := staysOpen_cons.mp stays
          have deeper : 0 < state.deeper.depth := Int.lt_add_one_of_le (Int.le_of_lt positive)
          rw [turn_lineBreak, Int.add_zero] at stays
          rw [if_pos positive, if_pos deeper, ih stays]
      | continuation => exact ih stays
      | opening string => rfl

end LiteralEnum.Target
