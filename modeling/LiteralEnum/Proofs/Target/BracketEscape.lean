import LiteralEnum.Proofs.Target.EnclosedText

/-! Which texts escape the parentheses around them. The check counts brackets in one pass over the
tokens, and its answer says where a bracket is closed: some tokens at the front, but not all of
them, have as many closing brackets as opening ones.
-/

namespace LiteralEnum.Target

/-- The tokens of a text in parentheses that are more than layout, up to where the reading of
the text stops.
-/
def enclosedTokens (text : List Char) : List Token :=
  (tokens ('(' :: text ++ [')'])).tokens.filter (!·.isLayout)

-----------------------------------------------------------------------------------------
-- Counting brackets
-----------------------------------------------------------------------------------------

theorem turn_cases (token : Token)
    : token.isOpening = true ∧ token.isClosing = false ∧ token.turn = 1
      ∨ token.isOpening = false ∧ token.isClosing = true ∧ token.turn = -1
      ∨ token.isOpening = false ∧ token.isClosing = false ∧ token.turn = 0 := by
  obtain ⟨kind, text⟩ := token
  by_cases opening : isOpeningText text = true
  · obtain ⟨c, rfl⟩ : ∃ c, text = [c] := by
      match text, opening with
      | [c], _ => exact ⟨c, rfl⟩
    have notClosing : isClosingText [c] = false := by
      simp only [isOpeningText, isOpeningBracket, Bool.or_eq_true, decide_eq_true_eq] at opening
      rcases opening with (rfl | rfl) | rfl <;> rfl
    by_cases operator : kind = .operator <;>
      simp [Token.turn, Token.isOpening, Token.isClosing, operator, opening, notClosing]
  · by_cases operator : kind = .operator <;>
      by_cases closing : isClosingText text = true <;>
        simp [Token.turn, Token.isOpening, Token.isClosing, operator, opening, closing]

/-- The turns of tokens are their opening brackets less their closing ones. -/
theorem turns_eq_countP (tokens : List Token)
    : turns tokens = tokens.countP Token.isOpening - tokens.countP Token.isClosing := by
  induction tokens with
  | nil => rfl
  | cons token rest ih =>
      rw [turns_cons, ih, List.countP_cons, List.countP_cons]
      rcases turn_cases token with ⟨opening, closing, turn⟩ | ⟨opening, closing, turn⟩
        | ⟨opening, closing, turn⟩
      · simp only [opening, closing, turn, if_true, Bool.false_eq_true, if_false]
        omega
      · simp only [opening, closing, turn, if_true, Bool.false_eq_true, if_false]
        omega
      · simp only [opening, closing, turn, Bool.false_eq_true, if_false]
        omega

/-- Brackets that all get closed are closed one by one: the last of them is closed somewhere, and
until then some bracket is open. By induction on the tokens.
-/
theorem exists_closing {depth : Int} {tokens : List Token} (positive : 0 < depth)
    (closed : depth + turns tokens = 0)
    : ∃ inside closing behind,
        tokens = inside ++ closing :: behind
        ∧ StaysOpen depth inside
        ∧ depth + turns inside = 1
        ∧ closing.isClosing = true := by
  induction tokens generalizing depth with
  | nil =>
      rw [turns_nil] at closed
      omega
  | cons token rest ih =>
      rw [turns_cons, ← Int.add_assoc] at closed
      by_cases last : depth + token.turn = 0
      · refine ⟨[], token, rest, rfl, ?_, ?_⟩
        · intro front isFront
          rw [List.prefix_nil.mp isFront, turns_nil]
          omega
        · rw [turns_nil]
          rcases turn_cases token with ⟨-, -, turn⟩ | ⟨-, closing, turn⟩ | ⟨-, -, turn⟩
          · omega
          · exact ⟨by omega, closing⟩
          · omega
      · have still : 0 < depth + token.turn := by
          rcases turn_cases token with ⟨-, -, turn⟩ | ⟨-, -, turn⟩ | ⟨-, -, turn⟩ <;> omega
        obtain ⟨inside, closing, behind, rfl, stays, level, isClosing⟩ := ih still closed
        refine ⟨token :: inside, closing, behind, rfl, staysOpen_cons.mpr ⟨positive, stays⟩, ?_,
          isClosing⟩
        rw [turns_cons, ← Int.add_assoc, level]

-----------------------------------------------------------------------------------------
-- The check
-----------------------------------------------------------------------------------------

/-- The check passes over layout, by induction on the tokens. -/
theorem closesEarly_filter (depth : Int) (closed : Bool) (tokens : List Token)
    : closesEarly depth closed (tokens.filter (!·.isLayout)) = closesEarly depth closed tokens := by
  induction tokens generalizing depth closed with
  | nil => rfl
  | cons token rest ih =>
      by_cases layout : token.isLayout = true
      · have turn := turn_of_isLayout layout
        rw [List.filter_cons_of_neg (by simp [layout]), ih, closesEarly, layout, Bool.not_true,
          Bool.and_false, if_neg Bool.false_ne_true]
        rcases turn_cases token with ⟨-, -, other⟩ | ⟨-, -, other⟩ | ⟨opening, closing, -⟩
        · omega
        · omega
        · rw [opening, closing, if_neg Bool.false_ne_true, if_neg Bool.false_ne_true]
      · rw [List.filter_cons_of_pos (by simpa using layout), closesEarly, closesEarly]
        simp only [ih]

/-- Behind the bracket that closes the last open one, the next token decides. -/
theorem closesEarly_closed_iff {depth : Int} {tokens : List Token}
    (solid : ∀ token ∈ tokens, token.isLayout = false)
    : closesEarly depth true tokens = true ↔ tokens ≠ [] := by
  cases tokens with
  | nil => simp [closesEarly]
  | cons token rest => simp [closesEarly, solid token List.mem_cons_self]

/-- Where a bracket is open, the check finds the tokens that close it and have others behind them.
By induction on the tokens.
-/
theorem closesEarly_iff {depth : Int} {tokens : List Token} (positive : 0 < depth)
    (solid : ∀ token ∈ tokens, token.isLayout = false)
    : closesEarly depth false tokens = true
      ↔ ∃ front behind, tokens = front ++ behind ∧ behind ≠ [] ∧ depth + turns front = 0 := by
  induction tokens generalizing depth with
  | nil =>
      refine ⟨nofun, ?_⟩
      rintro ⟨front, behind, none, nonempty, -⟩
      exact absurd (List.append_eq_nil_iff.mp none.symm).2 nonempty
  | cons token rest ih =>
      obtain ⟨-, others⟩ := List.forall_mem_cons.mp solid
      -- A bracket is open before the token, so it belongs to the tokens that close it.
      have passed
          : (∃ front behind, token :: rest = front ++ behind ∧ behind ≠ []
              ∧ depth + turns front = 0)
            ↔ ∃ front behind, rest = front ++ behind ∧ behind ≠ []
                ∧ depth + token.turn + turns front = 0 := by
        constructor
        · rintro ⟨front, behind, same, nonempty, closed⟩
          cases front with
          | nil =>
              rw [turns_nil] at closed
              omega
          | cons first front =>
              obtain ⟨rfl, rfl⟩ := List.cons.inj same
              rw [turns_cons, ← Int.add_assoc] at closed
              exact ⟨front, behind, rfl, nonempty, closed⟩
        · rintro ⟨front, behind, rfl, nonempty, closed⟩
          refine ⟨token :: front, behind, rfl, nonempty, ?_⟩
          rw [turns_cons, ← Int.add_assoc, closed]
      rw [passed, closesEarly, Bool.false_and, if_neg Bool.false_ne_true]
      rcases turn_cases token with ⟨opening, -, turn⟩ | ⟨opening, closing, turn⟩
        | ⟨opening, closing, turn⟩
      · rw [if_pos opening, turn]
        exact ih (by omega) others
      · rw [opening, if_neg Bool.false_ne_true, if_pos closing, turn]
        by_cases last : depth - 1 = 0
        · rw [decide_eq_true last, closesEarly_closed_iff others]
          constructor
          · intro nonempty
            exact ⟨[], rest, rfl, nonempty, by rw [turns_nil]; omega⟩
          · rintro ⟨front, behind, rfl, nonempty, -⟩
            exact List.append_ne_nil_of_right_ne_nil front nonempty
        · rw [decide_eq_false last]
          exact ih (by omega) others
      · rw [opening, closing, if_neg Bool.false_ne_true, if_neg Bool.false_ne_true, turn,
          Int.add_zero]
        exact ih positive others

-----------------------------------------------------------------------------------------
-- Texts in parentheses
-----------------------------------------------------------------------------------------

/-- The first token is the parenthesis in front of the text, whatever the text is. -/
theorem exists_enclosedTokens (text : List Char)
    : ∃ rest, enclosedTokens text = .sign '(' :: rest := by
  obtain ⟨line, others, lines⟩ : ∃ line others,
      linesWithBreaks ('(' :: text ++ [')']) = ('(' :: line) :: others := by
    rw [List.cons_append, linesWithBreaks]
    · cases linesWithBreaks (text ++ [')']) with
      | nil => exact ⟨[], [], rfl⟩
      | cons line others => exact ⟨line, others, rfl⟩
    · decide
  have first := scanLines_cons (scanLine_statement line) [] others
  rw [enclosedTokens, tokens, lines, first]
  exact ⟨_, rfl⟩

/-- More fuel reads no further into a line. -/
theorem scanRest_eq_scanLineFrom {fuel : Nat} {line : List Char} (enough : line.length ≤ fuel)
    (state : LineState)
    : scanRest state fuel line = scanLineFrom state line := by
  rw [scanRest_eq_read, scanLineFrom_eq_read, lineMarks, marksWithin_eq enough (Nat.le_refl _)]

/-- The first token has opened the bracket that the others close. -/
theorem escapesParentheses_iff {text : List Char} {rest : List Token}
    (same : enclosedTokens text = .sign '(' :: rest)
    : escapesParentheses text = true
      ↔ ∃ front behind, rest = front ++ behind ∧ behind ≠ [] ∧ 1 + turns front = 0 := by
  have others : ∀ token ∈ rest, token.isLayout = false := by
    intro token member
    have inAll : token ∈ enclosedTokens text := same ▸ List.mem_cons_of_mem _ member
    simpa using List.of_mem_filter inAll
  have checked : escapesParentheses text = closesEarly 0 false (enclosedTokens text) :=
    (closesEarly_filter 0 false _).symm
  rw [checked, same]
  exact closesEarly_iff Int.zero_lt_one others

/-- Behind an opening bracket, tokens close it just where the front that they make up with it has
as many brackets of both kinds.
-/
theorem balancedFront_iff (rest : List Token)
    : (∃ front,
        front <+: .sign '(' :: rest
        ∧ front ≠ []
        ∧ front ≠ .sign '(' :: rest
        ∧ front.countP Token.isClosing = front.countP Token.isOpening)
      ↔ ∃ front behind, rest = front ++ behind ∧ behind ≠ [] ∧ 1 + turns front = 0 := by
  have counted (front : List Token)
      : (.sign '(' :: front).countP Token.isClosing = (.sign '(' :: front).countP Token.isOpening
        ↔ 1 + turns front = 0 := by
    have turn : turns (.sign '(' :: front) = 1 + turns front := rfl
    rw [← turn, turns_eq_countP]
    omega
  constructor
  · rintro ⟨front, ⟨behind, whole⟩, nonempty, isProper, balanced⟩
    cases front with
    | nil => exact absurd rfl nonempty
    | cons first front =>
        obtain ⟨rfl, rfl⟩ := List.cons.inj whole
        refine ⟨front, behind, rfl, ?_, (counted front).mp balanced⟩
        rintro rfl
        exact isProper (congrArg _ (List.append_nil front).symm)
  · rintro ⟨front, behind, rfl, nonempty, closed⟩
    refine ⟨.sign '(' :: front, ?_, List.cons_ne_nil _ _, ?_, (counted front).mpr closed⟩
    · exact (List.prefix_cons_inj _).mpr (List.prefix_append front behind)
    · simpa using nonempty

/-- Tokens close an open bracket just where one of them is the bracket that does. -/
theorem closingBracket_iff (rest : List Token)
    : (∃ inside closing behind,
        rest = inside ++ closing :: behind
        ∧ StaysOpen 1 inside
        ∧ turns inside = 0
        ∧ closing.isClosing = true
        ∧ behind ≠ [])
      ↔ ∃ front behind, rest = front ++ behind ∧ behind ≠ [] ∧ 1 + turns front = 0 := by
  constructor
  · rintro ⟨inside, closing, behind, rfl, -, level, isClosing, nonempty⟩
    refine ⟨inside ++ [closing], behind, by simp, nonempty, ?_⟩
    rcases turn_cases closing with ⟨-, other, -⟩ | ⟨-, -, turn⟩ | ⟨-, other, -⟩
    · exact absurd isClosing (by simp [other])
    · rw [turns_append, level, turns_cons, turns_nil, turn]
      rfl
    · exact absurd isClosing (by simp [other])
  · rintro ⟨front, behind, rfl, nonempty, closed⟩
    obtain ⟨inside, closing, more, rfl, stays, level, isClosing⟩ :=
      exists_closing Int.zero_lt_one closed
    refine ⟨inside, closing, more ++ behind, by simp, stays, by omega, isClosing, ?_⟩
    exact List.append_ne_nil_of_right_ne_nil more nonempty

/-- The check says of every text whether it escapes the parentheses around it. The first token is
the parenthesis in front of the text, and the text escapes just where the tokens, without layout,
have a front with as many closing brackets as opening ones that is neither empty nor all of them: in
other words, where that parenthesis is closed before the last token. What stops the reading of the
text does not stop the check, and its lines are read to their ends, which more fuel does not move.
-/
theorem escapesParentheses_exact (text : List Char)
    : ∃ rest,
        enclosedTokens text = .sign '(' :: rest
        ∧ (escapesParentheses text = true
          ↔ ∃ front,
              front <+: enclosedTokens text
              ∧ front ≠ []
              ∧ front ≠ enclosedTokens text
              ∧ front.countP Token.isClosing = front.countP Token.isOpening)
        ∧ (escapesParentheses text = true
          ↔ ∃ inside closing behind,
              rest = inside ++ closing :: behind
              ∧ StaysOpen 1 inside
              ∧ turns inside = 0
              ∧ closing.isClosing = true
              ∧ behind ≠ [])
        ∧ ∀ line ∈ linesWithBreaks ('(' :: text ++ [')']), ∀ state fuel,
            line.length ≤ fuel → scanRest state fuel line = scanLineFrom state line := by
  obtain ⟨rest, same⟩ := exists_enclosedTokens text
  refine ⟨rest, same, ?_, ?_, fun _ _ state _ enough => scanRest_eq_scanLineFrom enough state⟩
  · rw [escapesParentheses_iff same, same, balancedFront_iff]
  · rw [escapesParentheses_iff same, closingBracket_iff]

/-- An expression that closes the parenthesis and opens another. -/
example : escapesParentheses "1), (2".toList = true := by decide +kernel

end LiteralEnum.Target
