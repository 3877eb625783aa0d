import LiteralEnum.Proofs.Target.ClosedNumber
import Mathlib.Data.List.Find

/-! Pieces of a text that a closing parenthesis follows. Whether the parenthesis ends the
text or stands in a line of a table, every piece before it is the same; only a comment and a
string can take the parenthesis in.
-/

namespace LiteralEnum.Target

-----------------------------------------------------------------------------------------
-- Texts within a line
-----------------------------------------------------------------------------------------

/-- No line ends within the text. -/
def InLine (text : List Char) : Prop := '\n' ∉ text ∧ '\r' ∉ text

theorem InLine.suffix {text rest : List Char} (inLine : InLine text) (suffix : rest <:+ text)
    : InLine rest :=
  ⟨fun member => inLine.1 (suffix.subset member), fun member => inLine.2 (suffix.subset member)⟩

theorem InLine.tail {c : Char} {text : List Char} (inLine : InLine (c :: text)) : InLine text :=
  ⟨fun member => inLine.1 (List.mem_cons_of_mem c member),
    fun member => inLine.2 (List.mem_cons_of_mem c member)⟩

theorem InLine.head {c : Char} {text : List Char} (inLine : InLine (c :: text))
    : c ≠ '\n' ∧ c ≠ '\r' :=
  ⟨fun same => inLine.1 (same ▸ List.mem_cons_self),
    fun same => inLine.2 (same ▸ List.mem_cons_self)⟩

theorem head?_closing {text : List Char} (inLine : InLine text) (closing : Closing)
    : (text ++ closing.text).head? ≠ some '\n' ∧ (text ++ closing.text).head? ≠ some '\r' := by
  cases text with
  | nil => cases closing <;> decide
  | cons c rest =>
      obtain ⟨noFeed, noReturn⟩ := inLine.head
      exact ⟨fun same => noFeed (Option.some.inj same),
        fun same => noReturn (Option.some.inj same)⟩

/-- No line ends before the closing. -/
theorem lineEndPiece?_eq_none {text : List Char} (nonempty : text ≠ []) (inLine : InLine text)
    (closing : Closing) : lineEndPiece? (text ++ closing.text) = none := by
  obtain ⟨c, rest, rfl⟩ := List.exists_cons_of_ne_nil nonempty
  obtain ⟨noFeed, noReturn⟩ := inLine.head
  rw [lineEndPiece?.eq_def]
  split
  case h_1 behind same =>
    exact absurd (congrArg (·.tail.head?) same) (head?_closing inLine.tail closing).1
  case h_2 behind same =>
    exact absurd (congrArg (·.tail.head?) same) (head?_closing inLine.tail closing).2
  case h_3 behind same => exact absurd (List.cons.inj same).1 noReturn
  case h_4 behind same => exact absurd (List.cons.inj same).1 noFeed
  case h_5 => rfl

-----------------------------------------------------------------------------------------
-- Pieces under every closing
-----------------------------------------------------------------------------------------

/-- A piece is the same under every closing: none, one token, or an opening of three quotes. -/
inductive SettledPiece (find : Closing → Option Piece) : Prop where
  | none (found : ∀ closing, find closing = none)
  | token (kind : Token.Kind) (word rest : List Char) (inLine : kind ≠ .newline)
    (found : ∀ closing : Closing, find closing = some (.token kind word (rest ++ closing.text)))
  | tripleQuote (opening : List Char) (quote : Char) (rest : List Char)
    (found
      : ∀ closing : Closing,
          find closing = some (.tripleQuote opening quote (rest ++ closing.text)))

theorem SettledPiece.orElse {first second : Closing → Option Piece}
    (one : SettledPiece first) (other : SettledPiece second)
    : SettledPiece fun closing => (first closing).orElse fun _ => second closing := by
  cases one with
  | none found => simpa only [found, Option.orElse_none] using other
  | token kind word rest inLine found =>
      exact .token kind word rest inLine fun closing => by simp only [found, Option.orElse_some]
  | tripleQuote opening quote rest found =>
      exact .tripleQuote opening quote rest fun closing => by
        simp only [found, Option.orElse_some]

theorem Settled.piece {find : Closing → Option (List Char × List Char)} (settled : Settled find)
    {kind : Token.Kind} (inLine : kind ≠ .newline)
    : SettledPiece fun closing =>
        (find closing).map fun (word, rest) => Piece.token kind word rest := by
  rcases settled with none | ⟨word, rest, found⟩
  · exact .none fun closing => by simp only [none, Option.map_none]
  · exact .token kind word rest inLine fun closing => by simp only [found, Option.map_some]

-----------------------------------------------------------------------------------------
-- Operators and words
-----------------------------------------------------------------------------------------

/-- A text without a closing parenthesis starts none that follows. -/
theorem isPrefixOf_closing {word : List Char} (absent : ')' ∉ word) (text : List Char)
    (closing : Closing) : word.isPrefixOf (text ++ closing.text) = word.isPrefixOf text := by
  induction text generalizing word with
  | nil =>
      cases word with
      | nil => rfl
      | cons c word =>
          have other : (c == ')') = false :=
            beq_false_of_ne fun same => absent (same ▸ List.mem_cons_self)
          cases closing <;> simp [Closing.text, List.isPrefixOf, other]
  | cons c rest ih =>
      cases word with
      | nil => rfl
      | cons d word =>
          rw [List.cons_append, List.isPrefixOf, List.isPrefixOf,
            ih fun member => absent (List.mem_cons_of_mem d member)]

/-- The closing parenthesis is an operator, and stands in no other. -/
theorem absent_of_mem_operators {operator : List Char} (member : operator ∈ operators)
    : operator = [')'] ∨ ')' ∉ operator := by
  have all : (operators.all fun operator => operator = [')'] ∨ ')' ∉ operator) = true := by decide
  exact of_decide_eq_true (List.all_eq_true.mp all operator member)

theorem settled_operatorAt? {text : List Char} (nonempty : text ≠ [])
    : Settled fun closing => operatorAt? (text ++ closing.text) := by
  obtain ⟨c, rest, rfl⟩ := List.exists_cons_of_ne_nil nonempty
  have same (closing : Closing) : operators.find? (·.isPrefixOf (c :: rest ++ closing.text))
      = operators.find? (·.isPrefixOf (c :: rest)) := by
    refine List.find?_congr fun operator member => ?_
    rcases absent_of_mem_operators member with rfl | absent
    · rfl
    · exact isPrefixOf_closing absent (c :: rest) closing
  simp only [Settled, operatorAt?, same]
  cases found : operators.find? (·.isPrefixOf (c :: rest)) with
  | none => exact .inl fun _ => rfl
  | some operator =>
      have starts := List.find?_some found
      have isFront := List.isPrefixOf_iff_prefix.mp starts
      refine .inr ⟨operator, (c :: rest).drop operator.length, fun closing => ?_⟩
      rw [Option.map_some, List.drop_append_of_le_length isFront.length_le]

theorem takeWhile_closing {p : Char → Bool} (stops : p ')' = false) (text : List Char)
    (closing : Closing) : (text ++ closing.text).takeWhile p = text.takeWhile p := by
  induction text with
  | nil => cases closing <;> simp [Closing.text, stops]
  | cons c rest ih => rw [List.cons_append, List.takeWhile_cons, List.takeWhile_cons, ih]

theorem dropWhile_closing {p : Char → Bool} (stops : p ')' = false) (text : List Char)
    (closing : Closing)
    : (text ++ closing.text).dropWhile p = text.dropWhile p ++ closing.text := by
  induction text with
  | nil => cases closing <;> simp [Closing.text, stops]
  | cons c rest ih =>
      rw [List.cons_append, List.dropWhile_cons, List.dropWhile_cons, ih]
      split <;> rfl

theorem settled_wordPiece? {text : List Char} (nonempty : text ≠ [])
    : SettledPiece fun closing => wordPiece? (text ++ closing.text) := by
  obtain ⟨c, rest, rfl⟩ := List.exists_cons_of_ne_nil nonempty
  have stops : Lexer.isWordPart ')' = false := by decide
  simp only [List.cons_append, wordPiece?, takeWhile_closing stops, dropWhile_closing stops]
  split
  · refine .token _ _ _ ?_ fun closing => rfl
    split <;> decide
  · exact .none fun _ => rfl

-----------------------------------------------------------------------------------------
-- Strings
-----------------------------------------------------------------------------------------

theorem settled_openQuote? (text : List Char)
    : (∀ closing : Closing, openQuote? (text ++ closing.text) = none)
      ∨ ∃ letters quote rest, ∀ closing : Closing,
          openQuote? (text ++ closing.text) = some (letters, quote, rest ++ closing.text) := by
  have stops : Char.isAlpha ')' = false := by decide
  simp only [openQuote?, takeWhile_closing stops]
  have := List.takeWhile_prefix Char.isAlpha (l := text)
  simp only [List.drop_append_of_le_length this.length_le]
  cases text.drop (text.takeWhile Char.isAlpha).length with
  | nil => exact .inl fun closing => by cases closing <;> simp [Closing.text]
  | cons quote rest =>
      simp only [List.cons_append]
      split
      · exact .inr ⟨_, quote, rest, fun _ => rfl⟩
      · exact .inl fun _ => rfl

theorem settled_openTriple? (text : List Char)
    : (∀ closing : Closing, openTriple? (text ++ closing.text) = none)
      ∨ ∃ opening quote rest, ∀ closing : Closing,
          openTriple? (text ++ closing.text) = some (opening, quote, rest ++ closing.text) := by
  rcases settled_openQuote? text with none | ⟨letters, quote, rest, found⟩
  · exact .inl fun closing => by rw [openTriple?, none]
  · have isQuote := (append_of_openQuote? (found .alone)).2
    simp only [openTriple?, found]
    rcases rest with _ | ⟨second, _ | ⟨third, rest⟩⟩
    · refine .inl fun closing => ?_
      rcases isQuote with rfl | rfl <;> cases closing <;> simp [Closing.text]
    · refine .inl fun closing => ?_
      rcases isQuote with rfl | rfl <;> cases closing <;> simp [Closing.text]
    · simp only [List.cons_append]
      split
      · exact .inr ⟨_, quote, rest, fun _ => rfl⟩
      · exact .inl fun _ => rfl

/-- A character that is no backslash with something or nothing behind it is none. -/
theorem ne_backslash {c : Char} {rest : List Char}
    (notEscape : ∀ d others, c = '\\' → rest = d :: others → False)
    (notLast : c = '\\' → rest = [] → False) : c ≠ '\\' := by
  rintro rfl
  cases rest with
  | nil => exact notLast rfl rfl
  | cons d others => exact notEscape d others rfl rfl

/-- A closing holds no quote, also behind a backslash. -/
theorem scanLineString_closing {quote : Char} (isQuote : IsQuote quote) (read : List Char)
    (closing : Closing)
    : scanLineString quote read closing.text = .broken
      ∧ scanLineString quote read ('\\' :: closing.text) = .broken := by
  rcases isQuote with rfl | rfl <;> cases closing <;> simp [scanLineString, Closing.text]

/-- A string that begins within the text ends there, or is broken by the end of the line. -/
theorem settled_scanLineString {quote : Char} (isQuote : IsQuote quote)
    (read : List Char) {text : List Char} (inLine : InLine text)
    : (∀ closing : Closing, scanLineString quote read (text ++ closing.text) = .broken)
      ∨ ∃ taken rest, ∀ closing : Closing,
          scanLineString quote read (text ++ closing.text)
            = .closed taken (rest ++ closing.text) := by
  fun_induction scanLineString quote read text with
  | case1 read rest => exact absurd rfl inLine.tail.head.1
  | case2 read rest => exact absurd rfl inLine.tail.head.2
  | case3 read c rest _ _ ih =>
    obtain ⟨noFeed, noReturn⟩ := inLine.tail.head
    simpa [scanLineString, noFeed, noReturn] using ih inLine.tail.tail
  | case4 read =>
    exact .inl fun closing => (scanLineString_closing isQuote read closing).2
  | case5 read rest =>
    refine .inr ⟨(quote :: read).reverse, rest, fun closing => ?_⟩
    rcases isQuote with rfl | rfl <;> simp [scanLineString]
  | case6 read rest => exact absurd rfl inLine.head.1
  | case7 read c rest notFeed notReturn notEscape notLast other noFeed ih =>
    have noBackslash := ne_backslash notEscape notLast
    simpa [scanLineString, noBackslash, other, noFeed] using ih inLine.tail
  | case8 read =>
    exact .inl fun closing => (scanLineString_closing isQuote read closing).1

/-- No closing completes two quotes. -/
theorem take_two_closing {quote : Char} (isQuote : IsQuote quote) (text : List Char)
    (closing : Closing)
    : (text ++ closing.text).take 2 = [quote, quote] ↔ text.take 2 = [quote, quote] := by
  match text with
  | [] => rcases isQuote with rfl | rfl <;> cases closing <;> simp [Closing.text]
  | [c] => rcases isQuote with rfl | rfl <;> cases closing <;> simp [Closing.text]
  | c :: d :: rest => simp

theorem closeTriple?_closing {quote : Char} (isQuote : IsQuote quote) (read : List Char)
    (closing : Closing)
    : closeTriple? quote read closing.text = none
      ∧ closeTriple? quote read ('\\' :: closing.text) = none := by
  rcases isQuote with rfl | rfl <;> cases closing <;> simp [closeTriple?, Closing.text]

theorem settled_closeTriple? {quote : Char} (isQuote : IsQuote quote)
    (read : List Char) {text : List Char} (inLine : InLine text)
    : Settled fun closing => closeTriple? quote read (text ++ closing.text) := by
  fun_induction closeTriple? quote read text with
  | case1 read rest => exact absurd rfl inLine.tail.head.1
  | case2 read c rest noFeed ih =>
    simpa [Settled, closeTriple?, noFeed] using ih inLine.tail.tail
  | case3 read =>
    exact .inl fun closing => (closeTriple?_closing isQuote read closing).2
  | case4 read c rest notEscape notLast closes =>
    obtain ⟨rfl, two⟩ := closes
    have noBackslash : c ≠ '\\' := by rcases isQuote with rfl | rfl <;> decide
    have long : 2 ≤ rest.length := by
      have := congrArg List.length two
      simp only [List.length_take, List.length_cons, List.length_nil] at this
      omega
    refine .inr ⟨(c :: c :: c :: read).reverse, rest.drop 2, fun closing => ?_⟩
    simp [closeTriple?, noBackslash, two, take_two_closing isQuote,
      List.drop_append_of_le_length long]
  | case5 read c rest notEscape notLast notClosed ih =>
    have noBackslash := ne_backslash notEscape notLast
    simpa [Settled, closeTriple?, noBackslash, take_two_closing isQuote, notClosed]
      using ih inLine.tail
  | case6 read =>
    exact .inl fun closing => (closeTriple?_closing isQuote read closing).1

theorem closeSingle?_closing {quote : Char} (isQuote : IsQuote quote) (read : List Char)
    (closing : Closing)
    : closeSingle? quote read closing.text = none
      ∧ closeSingle? quote read ('\\' :: closing.text) = none := by
  rcases isQuote with rfl | rfl <;> cases closing <;> simp [closeSingle?, Closing.text]

theorem settled_closeSingle? {quote : Char} (isQuote : IsQuote quote)
    (read : List Char) {text : List Char} (inLine : InLine text)
    : Settled fun closing => closeSingle? quote read (text ++ closing.text) := by
  fun_induction closeSingle? quote read text with
  | case1 read rest => exact absurd rfl inLine.tail.head.1
  | case2 read c rest noFeed ih =>
    simpa [Settled, closeSingle?, noFeed] using ih inLine.tail.tail
  | case3 read =>
    exact .inl fun closing => (closeSingle?_closing isQuote read closing).2
  | case4 read rest notEscape notLast =>
    refine .inr ⟨(quote :: read).reverse, rest, fun closing => ?_⟩
    rcases isQuote with rfl | rfl <;> simp [closeSingle?]
  | case5 read c rest notEscape notLast other ih =>
    have noBackslash := ne_backslash notEscape notLast
    simpa [Settled, closeSingle?, noBackslash, other] using ih inLine.tail
  | case6 read =>
    exact .inl fun closing => (closeSingle?_closing isQuote read closing).1

theorem settled_stringPiece? {text : List Char} (inLine : InLine text)
    : SettledPiece fun closing => stringPiece? (text ++ closing.text) := by
  rcases settled_openQuote? text with none | ⟨letters, quote, rest, found⟩
  · exact .none fun closing => by simp only [stringPiece?, none]
  · obtain ⟨whole, isQuote⟩ := append_of_openQuote? (found .alone)
    have inLine : InLine rest := by
      have whole : letters ++ quote :: rest = text :=
        List.append_cancel_right (by simpa using whole)
      exact inLine.suffix ⟨letters ++ [quote], by rw [← whole, List.append_assoc]; rfl⟩
    simp only [stringPiece?, found]
    rcases settled_scanLineString isQuote (quote :: letters.reverse) inLine with
      broken | ⟨taken, others, closed⟩
    · exact .none fun closing => by simp only [broken]
    · exact .token .string taken others (by decide) fun closing => by simp only [closed]

-----------------------------------------------------------------------------------------
-- All pieces
-----------------------------------------------------------------------------------------

theorem settled_pieceAt? {text : List Char} (nonempty : text ≠ []) (inLine : InLine text)
    (noComment : text.head? ≠ some '#')
    : SettledPiece fun closing => pieceAt? (text ++ closing.text) := by
  obtain ⟨c, rest, rfl⟩ := List.exists_cons_of_ne_nil nonempty
  have noComment : c ≠ '#' := fun same => noComment (congrArg some same)
  simp only [List.cons_append, pieceAt?_of_ne noComment]
  simp only [← List.cons_append]
  refine .orElse (.none (lineEndPiece?_eq_none nonempty inLine)) (.orElse ?_
    (.orElse ((settled_spanNumber? _).piece (by decide))
    (.orElse ((settled_operatorAt? nonempty).piece (by decide))
    (.orElse (settled_stringPiece? inLine) (settled_wordPiece? nonempty)))))
  rcases settled_openTriple? (c :: rest) with none | ⟨opening, quote, others, found⟩
  · exact .none fun closing => by simp only [none, Option.map_none]
  · exact .tripleQuote opening quote others fun closing => by simp only [found, Option.map_some]

end LiteralEnum.Target
