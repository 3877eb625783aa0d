import LiteralEnum.Proofs.Target.ClosedPiece
import LiteralEnum.Proofs.Target.LineMarks

/-! Plain text, which has no quote, no backslash, no comment and no line break. A line of plain
text holds tokens only, and every bracket of the text is a token by itself, so that its brackets
can be counted character by character.
-/

namespace LiteralEnum.Target

-----------------------------------------------------------------------------------------
-- Plain characters and brackets
-----------------------------------------------------------------------------------------

/-- The characters that start strings, comments and breaks, or escape a break. -/
def marking : List Char := ['"', '\'', '\\', '#', '\n', '\r']

def isPlain (c : Char) : Bool := !marking.contains c

/-- Characters with a property that no marking character has are plain. -/
theorem isPlain_of {property : Char → Bool} (excludes : marking.all (!property ·) = true)
    {c : Char} (holds : property c = true) : isPlain c = true := by
  cases member : marking.contains c with
  | false => rw [isPlain, member, Bool.not_false]
  | true =>
      have without := List.all_eq_true.mp excludes c (List.contains_iff_mem.mp member)
      rw [holds] at without
      cases without

/-- One for an opening bracket, minus one for a closing one. -/
def bracket (c : Char) : Int :=
  if isOpeningBracket c then 1 else if isClosingBracket c then -1 else 0

/-- The opening brackets of a text less the closing ones. -/
def balance (text : List Char) : Int := (text.map bracket).sum

@[simp] theorem balance_nil : balance [] = 0 := rfl

@[simp] theorem balance_cons (c : Char) (text : List Char)
    : balance (c :: text) = bracket c + balance text := rfl

@[simp] theorem balance_append (text others : List Char)
    : balance (text ++ others) = balance text + balance others := by
  rw [balance, List.map_append, List.sum_append]
  rfl

theorem balance_eq_zero {text : List Char} (free : ∀ c ∈ text, bracket c = 0)
    : balance text = 0 := by
  induction text with
  | nil => rfl
  | cons c rest ih =>
      obtain ⟨first, others⟩ := List.forall_mem_cons.mp free
      rw [balance_cons, first, ih others, Int.add_zero]

/-- The brackets. -/
def brackets : List Char := ['(', '[', '\x7b', ')', ']', '\x7d']

theorem bracket_eq_zero {c : Char} (other : c ∉ brackets) : bracket c = 0 := by
  simp only [brackets, List.mem_cons, List.not_mem_nil, or_false, not_or] at other
  simp [bracket, isOpeningBracket, isClosingBracket, other]

/-- Characters with a property that no bracket has hold no bracket. -/
theorem bracket_eq_zero_of {property : Char → Bool} (excludes : brackets.all (!property ·) = true)
    {c : Char} (holds : property c = true) : bracket c = 0 := by
  refine bracket_eq_zero fun member => ?_
  have without := List.all_eq_true.mp excludes c member
  rw [holds] at without
  cases without

-----------------------------------------------------------------------------------------
-- Numbers
-----------------------------------------------------------------------------------------

/-- A character that may stand in a number. -/
def isNumberChar (c : Char) : Bool := c.isAlphanum || ['.', '_', '+', '-'].contains c

/-- The digits of a base. -/
def AreNumberChars (isDigit : Char → Bool) : Prop :=
  ∀ c, isDigit c = true → isNumberChar c = true

theorem areNumberChars_isDigit : AreNumberChars Char.isDigit := by
  intro c isDigit
  simp [isNumberChar, Char.isAlphanum, isDigit]

theorem areNumberChars_isHexDigit : AreNumberChars isHexDigit := by
  intro c isDigit
  simp only [isHexDigit, Bool.or_eq_true, Bool.and_eq_true, decide_eq_true_eq] at isDigit
  have isLetter : c.isAlpha
      = (decide (c.val ≥ 'A'.val ∧ c.val ≤ 'Z'.val)
        || (decide (c.val ≥ 'a'.val) && decide (c.val ≤ 'z'.val))) := rfl
  simp only [isNumberChar, Char.isAlphanum, isLetter]
  have := @Char.le_def
  grind

/-- What is found at the start of a text has only such characters. -/
def OfNumberChars (found : Option (List Char × List Char)) : Prop :=
  ∀ taken rest, found = some (taken, rest) → ∀ c ∈ taken, isNumberChar c = true

theorem OfNumberChars.orElse {first second : Option (List Char × List Char)}
    (one : OfNumberChars first) (other : OfNumberChars second)
    : OfNumberChars (first.orElse fun _ => second) := by
  cases first with
  | none => exact other
  | some found => exact one

section

variable {isDigit : Char → Bool} {text taken rest : List Char}

theorem isNumberChar_of_spanMoreDigits (areDigits : AreNumberChars isDigit)
    (span : spanMoreDigits isDigit text = (taken, rest)) : ∀ c ∈ taken, isNumberChar c = true := by
  have underscore : isNumberChar '_' = true := by decide
  fun_induction spanMoreDigits isDigit text generalizing taken rest <;> grind [AreNumberChars]

theorem isNumberChar_of_spanDigits (areDigits : AreNumberChars isDigit)
    (span : spanDigits isDigit text = (taken, rest)) : ∀ c ∈ taken, isNumberChar c = true := by
  rw [spanDigits.eq_def] at span
  grind [AreNumberChars, isNumberChar_of_spanMoreDigits]

theorem isNumberChar_of_spanExponent (span : spanExponent text = (taken, rest))
    : ∀ c ∈ taken, isNumberChar c = true := by
  have known : ∀ c ∈ ['e', 'E', '+', '-'], isNumberChar c = true :=
    List.all_eq_true.mp (by decide)
  have digits := areNumberChars_isDigit
  rw [spanExponent.eq_def] at span
  grind [isNumberChar_of_spanDigits]

end

theorem ofNumberChars_spanFloat? (text : List Char) : OfNumberChars (spanFloat? text) := by
  have point : isNumberChar '.' = true := by decide
  intro taken left found
  cases isWhole : spanDigits Char.isDigit text with
  | mk whole rest =>
      have inWhole := isNumberChar_of_spanDigits areNumberChars_isDigit isWhole
      by_cases pointed : rest.head? = some '.'
      · obtain ⟨more, rfl⟩ := List.head?_eq_some_iff.mp pointed
        cases isFraction : spanDigits Char.isDigit more with
        | mk fraction others =>
            cases isExponent : spanExponent others with
            | mk exponent rest =>
                have inFraction := isNumberChar_of_spanDigits areNumberChars_isDigit isFraction
                have inExponent := isNumberChar_of_spanExponent isExponent
                rw [spanFloat?_of_point isWhole isFraction isExponent,
                  Option.ite_none_left_eq_some] at found
                obtain ⟨rfl, rfl⟩ := Prod.mk.inj (Option.some.inj found.2)
                simp only [List.append_assoc, List.cons_append, List.forall_mem_append,
                  List.forall_mem_cons]
                exact ⟨inWhole, point, inFraction, inExponent⟩
      · cases isExponent : spanExponent rest with
        | mk exponent others =>
            have inExponent := isNumberChar_of_spanExponent isExponent
            rw [spanFloat?_of_no_point isWhole pointed isExponent,
              Option.ite_none_left_eq_some] at found
            obtain ⟨rfl, rfl⟩ := Prod.mk.inj (Option.some.inj found.2)
            exact List.forall_mem_append.mpr ⟨inWhole, inExponent⟩

theorem ofNumberChars_spanBased? {lower upper : Char} {isDigit : Char → Bool}
    (areDigits : AreNumberChars isDigit) (isLower : isNumberChar lower = true)
    (isUpper : isNumberChar upper = true) (text : List Char)
    : OfNumberChars (spanBased? lower upper isDigit text) := by
  have zero : isNumberChar '0' = true := by decide
  intro taken left found
  match text with
  | [] | [_] => simp [spanBased?] at found
  | c :: mark :: rest =>
      by_cases marked : c = '0' ∧ (mark = lower ∨ mark = upper)
      swap
      · rw [spanBased?_eq_none marked] at found
        cases found
      obtain ⟨rfl, isMark⟩ := marked
      cases isDigits : spanMoreDigits isDigit rest with
      | mk digits others =>
          have inDigits := isNumberChar_of_spanMoreDigits areDigits isDigits
          rw [spanBased?_of_mark isMark isDigits, Option.ite_none_left_eq_some] at found
          obtain ⟨rfl, rfl⟩ := Prod.mk.inj (Option.some.inj found.2)
          simp only [List.forall_mem_cons]
          exact ⟨zero, isMark.elim (· ▸ isLower) (· ▸ isUpper), inDigits⟩

theorem OfNumberChars.addImaginary? {found : Option (List Char × List Char)}
    (ofChars : OfNumberChars found) : OfNumberChars (found.bind addImaginary?) := by
  have known : ∀ c ∈ ['j', 'J'], isNumberChar c = true := List.all_eq_true.mp (by decide)
  intro taken rest same
  obtain ⟨⟨number, behind⟩, isNumber, marked⟩ := Option.bind_eq_some_iff.mp same
  have inNumber := ofChars number behind isNumber
  cases behind with
  | nil => cases marked
  | cons c others =>
      simp only [Target.addImaginary?, Option.ite_none_right_eq_some, Option.some.injEq,
        Prod.mk.injEq] at marked
      obtain ⟨isMark, rfl, rfl⟩ := marked
      refine List.forall_mem_append.mpr ⟨inNumber, ?_⟩
      simpa using known c (by simpa using isMark)

theorem ofNumberChars_spanInteger? (text : List Char) : OfNumberChars (spanInteger? text) := by
  have octal : AreNumberChars isOctalDigit := by
    intro c isDigit
    simp only [isOctalDigit, Bool.and_eq_true, decide_eq_true_eq] at isDigit
    exact areNumberChars_isHexDigit c (by simp [isHexDigit, Char.isDigit]; grind [Char.le_def])
  have binary : AreNumberChars isBinaryDigit := by
    intro c isDigit
    simp only [isBinaryDigit, Bool.or_eq_true, decide_eq_true_eq] at isDigit
    rcases isDigit with rfl | rfl <;> decide
  have zeros : AreNumberChars (· = '0') := by
    intro c isZero
    obtain rfl : c = '0' := by simpa using isZero
    decide
  rw [spanInteger?.eq_def]
  refine .orElse (ofNumberChars_spanBased? areNumberChars_isHexDigit rfl rfl text)
    (.orElse (ofNumberChars_spanBased? binary rfl rfl text)
    (.orElse (ofNumberChars_spanBased? octal rfl rfl text) ?_))
  intro taken rest found
  split at found
  next more =>
    obtain ⟨rfl, rfl⟩ := Prod.mk.inj (Option.some.inj found)
    exact List.forall_mem_cons.mpr ⟨rfl, isNumberChar_of_spanMoreDigits zeros rfl⟩
  next =>
    split at found
    next => cases found
    next =>
      exact isNumberChar_of_spanDigits areNumberChars_isDigit (Option.some.inj found)

/-- A number has only such characters. -/
theorem ofNumberChars_spanNumber? (text : List Char) : OfNumberChars (spanNumber? text) := by
  rw [spanNumber?]
  refine .orElse ?_ (.orElse (ofNumberChars_spanFloat? text).addImaginary?
    (.orElse (ofNumberChars_spanFloat? text) (ofNumberChars_spanInteger? text)))
  split
  next =>
    intro taken rest same
    cases same
  next =>
    have digits : OfNumberChars (some (spanDigits Char.isDigit text)) := by
      intro taken rest same
      exact isNumberChar_of_spanDigits areNumberChars_isDigit (Option.some.inj same)
    exact digits.addImaginary?

-----------------------------------------------------------------------------------------
-- Pieces
-----------------------------------------------------------------------------------------

/-- A token that ends within its line and whose brackets are those of its text. -/
structure IsPlainToken (kind : Token.Kind) (word : List Char) : Prop where
  nonempty : word ≠ []
  inLine : '\n' ∉ word
  code : kind = .name ∨ kind = .number ∨ kind = .operator
  turn : Token.turn ⟨kind, word⟩ = balance word

theorem isPlainToken_number {word : List Char} (nonempty : word ≠ [])
    (inNumber : ∀ c ∈ word, isNumberChar c = true) : IsPlainToken .number word where
  nonempty := nonempty
  inLine member := absurd (inNumber _ member) (by decide)
  code := .inr (.inl rfl)
  turn := by
    have free : ∀ c ∈ word, bracket c = 0 :=
      fun c member => bracket_eq_zero_of (by decide) (inNumber c member)
    rw [turn_of_ne_operator (by simp), balance_eq_zero free]

theorem isPlainToken_operator {word : List Char} (member : word ∈ operators)
    : IsPlainToken .operator word := by
  have all : (operators.all fun word => word ≠ [] ∧ '\n' ∉ word
      ∧ Token.turn ⟨.operator, word⟩ = balance word) = true := by decide
  obtain ⟨nonempty, inLine, turn⟩ := of_decide_eq_true (List.all_eq_true.mp all word member)
  exact ⟨nonempty, inLine, .inr (.inr rfl), turn⟩

theorem isPlainToken_word {kind : Token.Kind} {word : List Char} (nonempty : word ≠ [])
    (code : kind = .name ∨ kind = .operator) (inWord : ∀ c ∈ word, Lexer.isWordPart c = true)
    : IsPlainToken kind word where
  nonempty := nonempty
  inLine member := absurd (inWord _ member) (by decide)
  code := code.imp_right .inr
  turn := by
    have free : ∀ c ∈ word, bracket c = 0 :=
      fun c member => bracket_eq_zero_of (by decide) (inWord c member)
    have single : isOpeningText word = false ∧ isClosingText word = false := by
      match word with
      | [] | _ :: _ :: _ => exact ⟨rfl, rfl⟩
      | [c] =>
          have := free c List.mem_cons_self
          simp only [bracket] at this
          simp only [isOpeningText, isClosingText]
          cases opens : isOpeningBracket c <;> cases closes : isClosingBracket c <;> simp_all
    rw [Token.turn, Token.isOpening, Token.isClosing, single.1, single.2, balance_eq_zero free]
    simp

/-- Whatever is found at the start of a text is such a token, which ends before the break. -/
def IsPlainPiece (text : List Char) (found : Option Piece) : Prop :=
  ∀ piece, found = some piece →
    ∃ kind word others, piece = .token kind word (others ++ ['\n']) ∧ IsPlainToken kind word
      ∧ word ++ others = text

theorem IsPlainPiece.orElse {text : List Char} {first second : Option Piece}
    (one : IsPlainPiece text first) (other : IsPlainPiece text second)
    : IsPlainPiece text (first.orElse fun _ => second) := by
  cases first with
  | none => exact other
  | some piece => exact one

theorem isPlainPiece_none (text : List Char) : IsPlainPiece text none := nofun

/-- A token that does not hold the break leaves it at the end of the rest. -/
theorem IsPlainToken.isPlainPiece {kind : Token.Kind} {text word rest : List Char}
    (isToken : IsPlainToken kind word) (whole : word ++ rest = text ++ ['\n'])
    : IsPlainPiece text (some (.token kind word rest)) := by
  rintro piece ⟨⟩
  rcases List.eq_nil_or_concat rest with rfl | ⟨others, c, rfl⟩
  · rw [List.append_nil] at whole
    exact absurd (whole ▸ List.mem_append_right text List.mem_cons_self) isToken.inLine
  · rw [List.concat_eq_append, ← List.append_assoc] at whole
    obtain ⟨same, last⟩ := List.append_inj' whole rfl
    obtain rfl := List.singleton_inj.mp last
    exact ⟨kind, word, others, by rw [List.concat_eq_append], isToken, same⟩

theorem openQuote?_eq_none {text : List Char} (plain : ∀ c ∈ text, isPlain c = true)
    : openQuote? (text ++ ['\n']) = none := by
  cases found : openQuote? (text ++ ['\n']) with
  | none => rfl
  | some opened =>
      obtain ⟨letters, quote, rest⟩ := opened
      obtain ⟨whole, isQuote⟩ := append_of_openQuote? found
      have member : quote ∈ text ++ ['\n'] :=
        whole ▸ List.mem_append_right letters List.mem_cons_self
      have inText : quote ∈ text := by
        rcases List.mem_append.mp member with inText | last
        · exact inText
        · obtain rfl := List.mem_singleton.mp last
          rcases isQuote with same | same <;> cases same
      have := plain quote inText
      rcases isQuote with rfl | rfl <;> cases this

/-- A piece of plain text is a token within its line. -/
theorem isPlainPiece_pieceAt? {c : Char} {rest : List Char}
    (plain : ∀ d ∈ c :: rest, isPlain d = true)
    : IsPlainPiece (c :: rest) (pieceAt? (c :: rest ++ ['\n'])) := by
  have first : isPlain c = true := plain c List.mem_cons_self
  have noQuote := openQuote?_eq_none plain
  have noTriple : openTriple? (c :: rest ++ ['\n']) = none := by rw [openTriple?, noQuote]
  have noString : stringPiece? (c :: rest ++ ['\n']) = none := by rw [stringPiece?, noQuote]
  have noEnd : lineEndPiece? (c :: rest ++ ['\n']) = none := by
    rw [lineEndPiece?.eq_def]
    split
    case h_5 => rfl
    all_goals
      next same =>
        obtain ⟨rfl, -⟩ := List.cons.inj same
        cases first
  have noComment : c ≠ '#' := by
    rintro rfl
    cases first
  rw [List.cons_append, pieceAt?_of_ne noComment, ← List.cons_append, noEnd, noTriple, noString]
  refine .orElse (isPlainPiece_none _) (.orElse (isPlainPiece_none _) (.orElse ?_ (.orElse ?_
    (.orElse (isPlainPiece_none _) ?_))))
  · intro piece found
    obtain ⟨⟨number, others⟩, isNumber, rfl⟩ := Option.map_eq_some_iff.mp found
    obtain ⟨whole, nonempty⟩ := takes_spanNumber? _ number others isNumber
    have inNumber := ofNumberChars_spanNumber? _ number others isNumber
    exact (isPlainToken_number nonempty inNumber).isPlainPiece whole _ rfl
  · intro piece found
    obtain ⟨⟨operator, others⟩, isOperator, rfl⟩ := Option.map_eq_some_iff.mp found
    obtain ⟨whole, -⟩ := takes_operatorAt? _ operator others isOperator
    obtain ⟨known, isKnown, same⟩ := Option.map_eq_some_iff.mp isOperator
    obtain ⟨rfl, -⟩ := Prod.mk.inj same
    have member := List.mem_of_find?_eq_some isKnown
    exact (isPlainToken_operator member).isPlainPiece whole _ rfl
  · intro piece found
    obtain ⟨isPart, same⟩ := Option.ite_none_right_eq_some.mp found
    obtain rfl := Option.some.inj same
    refine IsPlainToken.isPlainPiece (isPlainToken_word (List.cons_ne_nil _ _) ?_ ?_) ?_ _ rfl
    · split
      · exact .inl rfl
      · exact .inr rfl
    · exact List.forall_mem_cons.mpr ⟨isPart, fun d member => List.mem_takeWhile_imp member⟩
    · rw [List.cons_append, List.takeWhile_append_dropWhile]
      rfl

theorem eq_none_of_orElse {first second : Option Piece}
    (none : (first.orElse fun _ => second) = .none) : first = .none ∧ second = .none := by
  cases first with
  | none => exact ⟨rfl, none⟩
  | some piece => cases none

/-- Where no piece starts, no bracket stands. -/
theorem bracket_of_pieceAt?_eq_none {c : Char} {rest : List Char}
    (none : pieceAt? (c :: rest) = none) : bracket c = 0 := by
  refine bracket_eq_zero fun member => ?_
  have noComment : c ≠ '#' := by
    rintro rfl
    exact absurd member (by decide)
  have known : [c] ∈ operators := by
    simp only [brackets, List.mem_cons, List.not_mem_nil, or_false] at member
    rcases member with rfl | rfl | rfl | rfl | rfl | rfl <;> decide
  have noOperator : operatorAt? (c :: rest) = .none := by
    rw [pieceAt?_of_ne noComment] at none
    have behindEnd := (eq_none_of_orElse none).2
    have behindNumber := (eq_none_of_orElse (eq_none_of_orElse behindEnd).2).2
    exact Option.map_eq_none_iff.mp (eq_none_of_orElse behindNumber).1
  have absent := List.find?_eq_none.mp (Option.map_eq_none_iff.mp noOperator) [c] known
  exact absent (by simp)

-----------------------------------------------------------------------------------------
-- Lines
-----------------------------------------------------------------------------------------

theorem bracket_of_isSpacing {c : Char} (spacing : isSpacing c = true) : bracket c = 0 :=
  bracket_eq_zero_of (by decide) spacing

theorem turn_error (c : Char) : Token.turn ⟨.error, [c]⟩ = 0 :=
  turn_of_ne_operator (by simp)

/-- The marks of a token are the token and what is behind it. -/
theorem IsPlainToken.marks {kind : Token.Kind} {word : List Char}
    (isToken : IsPlainToken kind word) (further : List Char → List Mark) (rest : List Char)
    : (Piece.token kind word rest).marks further = .token ⟨kind, word⟩ :: further rest := by
  rcases isToken.code with rfl | rfl | rfl <;> rfl

/-- A line of plain text holds tokens and its break, by induction on the length of the text. -/
theorem exists_lineMarks_plain {text : List Char} (plain : ∀ c ∈ text, isPlain c = true)
    : ∃ tokens, lineMarks (text ++ ['\n']) = tokens.map .token ++ [.lineBreak ['\n']]
        ∧ turns tokens = balance text := by
  have ofShorter (others : List Char) (shorter : others.length < text.length)
      (inText : ∀ c ∈ others, c ∈ text)
      : ∃ tokens, lineMarks (others ++ ['\n']) = tokens.map .token ++ [.lineBreak ['\n']]
          ∧ turns tokens = balance others :=
    exists_lineMarks_plain fun c member => plain c (inText c member)
  have parts := List.takeWhile_append_dropWhile (p := isSpacing) (l := text)
  have leadFree : balance (text.takeWhile isSpacing) = 0 :=
    balance_eq_zero fun c member => bracket_of_isSpacing (List.mem_takeWhile_imp member)
  cases behind : text.dropWhile isSpacing with
  | nil =>
      have spacing : ∀ c ∈ text, isSpacing c = true := List.dropWhile_eq_nil_iff.mp behind
      have found : pieceAt? ((text ++ ['\n']).dropWhile isSpacing)
          = some (.token .newline ['\n'] []) := by
        rw [List.dropWhile_append_of_pos spacing]
        rfl
      refine ⟨[], ?_, ?_⟩
      · rw [lineMarks_of_piece (by simp) found]
        rfl
      · rw [behind, List.append_nil] at parts
        rw [← parts, leadFree, turns_nil]
  | cons c rest =>
      rw [behind] at parts
      have notSpacing : isSpacing c = false := by
        have := List.head_dropWhile_not isSpacing
          (show text.dropWhile isSpacing ≠ [] by simp [behind])
        simpa only [behind, List.head_cons] using this
      have dropped : (text ++ ['\n']).dropWhile isSpacing = c :: rest ++ ['\n'] := by
        rw [← parts, List.append_assoc,
          List.dropWhile_append_of_pos fun d member => List.mem_takeWhile_imp member,
          List.cons_append, List.dropWhile_cons, notSpacing]
        rfl
      have inText : ∀ d ∈ c :: rest, d ∈ text := fun d member =>
        parts ▸ List.mem_append_right _ member
      cases found : pieceAt? (c :: rest ++ ['\n']) with
      | none =>
          obtain ⟨d, more, rfl⟩ : ∃ d more, text = d :: more :=
            List.exists_cons_of_ne_nil (by rintro rfl; cases behind)
          obtain ⟨tokens, marks, turn⟩ :=
            ofShorter more (Nat.lt_succ_self _) fun e member => List.mem_cons_of_mem d member
          have free : bracket d = 0 := by
            cases spacing : isSpacing d with
            | true => exact bracket_of_isSpacing spacing
            | false =>
                obtain rfl : d = c := by simp_all
                exact bracket_of_pieceAt?_eq_none found
          refine ⟨⟨.error, [d]⟩ :: tokens, ?_, ?_⟩
          · rw [List.cons_append] at dropped ⊢
            rw [lineMarks_of_error (by rw [dropped, found]), marks]
            rfl
          · rw [turns_cons, turn_error, turn, balance_cons, free]
      | some piece =>
          obtain ⟨kind, word, others, rfl, isToken, whole⟩ :=
            isPlainPiece_pieceAt? (fun d member => plain d (inText d member)) piece found
          have wordPositive := List.length_pos_of_ne_nil isToken.nonempty
          have lengths := congrArg List.length parts
          simp only [← whole, List.length_append] at lengths
          obtain ⟨tokens, marks, turn⟩ := ofShorter others (by omega) fun d member =>
            inText d (whole ▸ List.mem_append_right word member)
          refine ⟨⟨kind, word⟩ :: tokens, ?_, ?_⟩
          · rw [lineMarks_of_piece (by simp) (by rw [dropped, found]), isToken.marks, marks]
            rfl
          · rw [turns_cons, isToken.turn, turn, ← parts, balance_append, leadFree, ← whole,
              balance_append, Int.zero_add]
termination_by text.length

end LiteralEnum.Target
