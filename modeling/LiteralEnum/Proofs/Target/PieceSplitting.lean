import LiteralEnum.Target.Token
import Mathlib.Data.List.Basic

/-! The pieces of a line. A piece and what follows it make up the text, and every piece but
the end of the text takes something of it.
-/

namespace LiteralEnum.Target

-----------------------------------------------------------------------------------------
-- Numbers
-----------------------------------------------------------------------------------------

/-- What is found at the start of a text takes something and leaves the rest as it is. -/
def Takes (text : List Char) (found : Option (List Char × List Char)) : Prop :=
  ∀ taken rest, found = some (taken, rest) → taken ++ rest = text ∧ taken ≠ []

theorem Takes.orElse {text : List Char} {first second : Option (List Char × List Char)}
    (one : Takes text first) (other : Takes text second)
    : Takes text (first.orElse fun _ => second) := by
  cases first with
  | none => exact other
  | some found => exact one

theorem append_of_spanMoreDigits {isDigit : Char → Bool} {text taken rest : List Char}
    (span : spanMoreDigits isDigit text = (taken, rest)) : taken ++ rest = text := by
  fun_induction spanMoreDigits isDigit text generalizing taken rest <;> grind

theorem append_of_spanDigits {isDigit : Char → Bool} {text taken rest : List Char}
    (span : spanDigits isDigit text = (taken, rest)) : taken ++ rest = text := by
  rw [spanDigits.eq_def] at span
  grind [append_of_spanMoreDigits]

theorem append_of_spanExponent {text taken rest : List Char}
    (span : spanExponent text = (taken, rest)) : taken ++ rest = text := by
  rw [spanExponent.eq_def] at span
  grind [append_of_spanDigits]

/-- A number with a point, from its parts. -/
theorem spanFloat?_of_point {text whole more fraction others exponent rest : List Char}
    (isWhole : spanDigits Char.isDigit text = (whole, '.' :: more))
    (isFraction : spanDigits Char.isDigit more = (fraction, others))
    (isExponent : spanExponent others = (exponent, rest))
    : spanFloat? text = if whole.isEmpty && fraction.isEmpty then none
      else some (whole ++ '.' :: fraction ++ exponent, rest) := by
  simp only [spanFloat?, isWhole, isFraction, isExponent]

/-- A number without a point has an exponent. -/
theorem spanFloat?_of_no_point {text whole more exponent rest : List Char}
    (isWhole : spanDigits Char.isDigit text = (whole, more)) (noPoint : more.head? ≠ some '.')
    (isExponent : spanExponent more = (exponent, rest))
    : spanFloat? text = if whole.isEmpty || exponent.isEmpty then none
      else some (whole ++ exponent, rest) := by
  rw [spanFloat?, isWhole]
  dsimp only
  split
  · simp at noPoint
  · rw [isExponent]
    cases whole <;> cases exponent <;> rfl

theorem takes_spanFloat? (text : List Char) : Takes text (spanFloat? text) := by
  intro taken left found
  cases isWhole : spanDigits Char.isDigit text with
  | mk whole rest =>
      obtain rfl := append_of_spanDigits isWhole
      by_cases point : rest.head? = some '.'
      · obtain ⟨more, rfl⟩ := List.head?_eq_some_iff.mp point
        cases isFraction : spanDigits Char.isDigit more with
        | mk fraction others =>
            cases isExponent : spanExponent others with
            | mk exponent rest =>
                obtain rfl := append_of_spanDigits isFraction
                obtain rfl := append_of_spanExponent isExponent
                rw [spanFloat?_of_point isWhole isFraction isExponent,
                  Option.ite_none_left_eq_some] at found
                obtain ⟨rfl, rfl⟩ := Prod.mk.inj (Option.some.inj found.2)
                simp
      · cases isExponent : spanExponent rest with
        | mk exponent others =>
            obtain rfl := append_of_spanExponent isExponent
            rw [spanFloat?_of_no_point isWhole point isExponent,
              Option.ite_none_left_eq_some] at found
            obtain ⟨nonempty, same⟩ := found
            obtain ⟨rfl, rfl⟩ := Prod.mk.inj (Option.some.inj same)
            refine ⟨List.append_assoc .., ?_⟩
            simp only [Bool.or_eq_true, List.isEmpty_iff, not_or] at nonempty
            exact List.append_ne_nil_of_left_ne_nil nonempty.1 _

section

variable {lower upper : Char} {isDigit : Char → Bool}

theorem spanBased?_of_mark {mark : Char} {rest digits others : List Char}
    (isMark : mark = lower ∨ mark = upper)
    (isDigits : spanMoreDigits isDigit rest = (digits, others))
    : spanBased? lower upper isDigit ('0' :: mark :: rest)
      = if digits.isEmpty then none else some ('0' :: mark :: digits, others) := by
  rw [spanBased?, if_pos isMark, isDigits]
  cases digits <;> rfl

theorem spanBased?_eq_none {c mark : Char} {rest : List Char}
    (unmarked : ¬(c = '0' ∧ (mark = lower ∨ mark = upper)))
    : spanBased? lower upper isDigit (c :: mark :: rest) = none := by
  rw [spanBased?.eq_def]
  split
  next zero mark rest same =>
    obtain ⟨rfl, rfl, rfl⟩ : c = '0' ∧ _ = mark ∧ _ = rest := by simpa using same
    exact if_neg fun isMark => unmarked ⟨rfl, isMark⟩
  next => rfl

theorem takes_spanBased? (text : List Char)
    : Takes text (spanBased? lower upper isDigit text) := by
  intro taken left found
  match text with
  | [] | [_] => simp [spanBased?] at found
  | c :: mark :: rest =>
      by_cases marked : c = '0' ∧ (mark = lower ∨ mark = upper)
      swap
      · rw [spanBased?_eq_none marked] at found
        cases found
      obtain ⟨rfl, isMark⟩ := marked
      cases isDigits : spanMoreDigits isDigit rest with
      | mk digits others =>
          obtain rfl := append_of_spanMoreDigits isDigits
          rw [spanBased?_of_mark isMark isDigits, Option.ite_none_left_eq_some] at found
          obtain ⟨rfl, rfl⟩ := Prod.mk.inj (Option.some.inj found.2)
          simp

end

theorem takes_spanInteger? (text : List Char) : Takes text (spanInteger? text) := by
  rw [spanInteger?.eq_def]
  refine .orElse (takes_spanBased? text) (.orElse (takes_spanBased? text)
    (.orElse (takes_spanBased? text) ?_))
  intro taken rest found
  split at found
  next more => grind [append_of_spanMoreDigits]
  next => grind [append_of_spanDigits]

theorem Takes.addImaginary? {text : List Char} {found : Option (List Char × List Char)}
    (takes : Takes text found) : Takes text (found.bind addImaginary?) := by
  intro taken rest same
  obtain ⟨⟨number, behind⟩, isNumber, marked⟩ := Option.bind_eq_some_iff.mp same
  obtain ⟨rfl, -⟩ := takes number behind isNumber
  cases behind with
  | nil => cases marked
  | cons c others =>
      simp only [Target.addImaginary?, Option.ite_none_right_eq_some, Option.some.injEq,
        Prod.mk.injEq] at marked
      obtain ⟨-, rfl, rfl⟩ := marked
      simp

theorem takes_spanNumber? (text : List Char) : Takes text (spanNumber? text) := by
  rw [spanNumber?]
  refine .orElse ?_ (.orElse (takes_spanFloat? text).addImaginary?
    (.orElse (takes_spanFloat? text) (takes_spanInteger? text)))
  split
  next => nofun
  next nonempty =>
    have digits : Takes text (some (spanDigits Char.isDigit text)) := by
      rintro taken rest same
      obtain rfl := congrArg Prod.fst (Option.some.inj same)
      obtain rfl := congrArg Prod.snd (Option.some.inj same)
      exact ⟨append_of_spanDigits rfl, by simpa using nonempty⟩
    exact digits.addImaginary?

-----------------------------------------------------------------------------------------
-- Strings
-----------------------------------------------------------------------------------------

/-- One of the two quotes of strings. -/
def IsQuote (quote : Char) : Prop := quote = '\'' ∨ quote = '"'

theorem append_of_openQuote? {text letters rest : List Char} {quote : Char}
    (found : openQuote? text = some (letters, quote, rest))
    : letters ++ quote :: rest = text ∧ IsQuote quote := by
  rw [openQuote?] at found
  split at found
  next c behind same =>
    simp only [Option.ite_none_right_eq_some, Bool.and_eq_true, Option.some.injEq, Prod.mk.injEq]
      at found
    obtain ⟨⟨isQuote, -⟩, rfl, rfl, rfl⟩ := found
    refine ⟨?_, by simpa [IsQuote] using isQuote⟩
    rw [← same]
    exact List.prefix_iff_eq_append.mp (List.takeWhile_prefix _)
  next => cases found

theorem append_of_openTriple? {text opening rest : List Char} {quote : Char}
    (found : openTriple? text = some (opening, quote, rest))
    : opening ++ rest = text ∧ opening ≠ [] ∧ IsQuote quote := by
  rw [openTriple?] at found
  split at found
  next letters c second third behind isOpen =>
    simp only [Option.ite_none_right_eq_some, Option.some.injEq, Prod.mk.injEq] at found
    obtain ⟨⟨rfl, rfl⟩, rfl, rfl, rfl⟩ := found
    obtain ⟨same, isQuote⟩ := append_of_openQuote? isOpen
    exact ⟨by simpa using same, by simp, isQuote⟩
  next => cases found

/-- What a string takes of its first line, and what it leaves. -/
def LineString.Takes (text : List Char) : LineString → Prop
  | .closed taken rest | .continued taken rest => taken ≠ [] ∧ taken ++ rest = text
  | .broken => True

theorem takes_scanLineString (quote : Char) (read text : List Char)
    : (scanLineString quote read text).Takes (read.reverse ++ text) := by
  fun_induction scanLineString quote read text <;> simp_all [LineString.Takes]

theorem append_of_closeTriple? {quote : Char} {read text taken rest : List Char}
    (found : closeTriple? quote read text = some (taken, rest))
    : taken ++ rest = read.reverse ++ text ∧ taken ≠ [] := by
  fun_induction closeTriple? quote read text with
  | case1 => cases found
  | case2 => simp_all
  | case3 => cases found
  | case4 read c rest' _ _ closes =>
    obtain ⟨rfl, rfl⟩ := Prod.mk.inj (Option.some.inj found)
    obtain ⟨rfl, two⟩ := closes
    obtain ⟨behind, rfl⟩ : ∃ behind, rest' = c :: c :: behind := by
      rw [← List.take_append_drop 2 rest', two]
      exact ⟨_, rfl⟩
    simp
  | case5 => simp_all
  | case6 => cases found

theorem append_of_closeSingle? {quote : Char} {read text taken rest : List Char}
    (found : closeSingle? quote read text = some (taken, rest))
    : taken ++ rest = read.reverse ++ text := by
  fun_induction closeSingle? quote read text with
  | case1 => cases found
  | case2 => simp_all
  | case3 => cases found
  | case4 read rest' =>
    obtain ⟨rfl, rfl⟩ := Prod.mk.inj (Option.some.inj found)
    simp
  | case5 => simp_all
  | case6 => cases found

-----------------------------------------------------------------------------------------
-- Pieces
-----------------------------------------------------------------------------------------

/-- The text splits into the piece and what follows it. A string in three quotes is a piece
up to its quotes; a continuation ends with its line.
-/
def Piece.Splits (text : List Char) : Piece → Prop
  | .nothing => text = []
  | .continuation rest => ∃ ending, '\n' ∈ ending ∧ ending ++ rest = text
  | .tripleQuote opening quote rest => opening ≠ [] ∧ opening ++ rest = text ∧ IsQuote quote
  | .openLine read quote rest => read ≠ [] ∧ read ++ rest = text ∧ IsQuote quote
  | .token _ word rest => word ≠ [] ∧ word ++ rest = text

/-- Whatever piece is found, the text splits into it and the rest. -/
def Fits (text : List Char) (found : Option Piece) : Prop :=
  ∀ piece, found = some piece → piece.Splits text

theorem Fits.orElse {text : List Char} {first second : Option Piece}
    (one : Fits text first) (other : Fits text second)
    : Fits text (first.orElse fun _ => second) := by
  cases first with
  | none => exact other
  | some piece => exact one

theorem Takes.fits {text : List Char} {found : Option (List Char × List Char)}
    (takes : Takes text found) (kind : Token.Kind)
    : Fits text (found.map fun (word, rest) => Piece.token kind word rest) := by
  intro piece same
  obtain ⟨⟨word, rest⟩, isFound, rfl⟩ := Option.map_eq_some_iff.mp same
  obtain ⟨whole, nonempty⟩ := takes word rest isFound
  exact ⟨nonempty, whole⟩

theorem takes_operatorAt? (text : List Char) : Takes text (operatorAt? text) := by
  intro taken rest found
  obtain ⟨operator, isOperator, same⟩ := Option.map_eq_some_iff.mp found
  obtain ⟨rfl, rfl⟩ := Prod.mk.inj same
  have isStart := List.find?_some isOperator
  refine ⟨List.prefix_iff_eq_append.mp (List.isPrefixOf_iff_prefix.mp isStart), ?_⟩
  rintro rfl
  have member := List.mem_of_find?_eq_some isOperator
  revert member
  decide

theorem fits_stringPiece? (text : List Char) : Fits text (stringPiece? text) := by
  intro piece found
  rw [stringPiece?] at found
  split at found
  next letters quote rest isOpen =>
    obtain ⟨rfl, isQuote⟩ := append_of_openQuote? isOpen
    have takes := takes_scanLineString quote (quote :: letters.reverse) rest
    have whole : (quote :: letters.reverse).reverse ++ rest = letters ++ quote :: rest := by simp
    rw [whole] at takes
    split at found
    next taken others same =>
      obtain rfl := Option.some.inj found
      rwa [same] at takes
    next taken others same =>
      obtain rfl := Option.some.inj found
      rw [same] at takes
      exact ⟨takes.1, takes.2, isQuote⟩
    next => cases found
  next => cases found

theorem fits_wordPiece? (text : List Char) : Fits text (wordPiece? text) := by
  intro piece found
  cases text with
  | nil => cases found
  | cons c rest =>
      obtain ⟨-, same⟩ := Option.ite_none_right_eq_some.mp found
      obtain rfl := Option.some.inj same
      exact ⟨List.cons_ne_nil _ _, by simp⟩

theorem fits_lineEndPiece? (text : List Char) : Fits text (lineEndPiece? text) := by
  intro piece found
  rw [lineEndPiece?.eq_def] at found
  split at found
  next rest =>
    obtain rfl := Option.some.inj found
    exact ⟨['\\', '\n'], by simp, rfl⟩
  next rest =>
    obtain rfl := Option.some.inj found
    exact ⟨['\\', '\r', '\n'], by simp, rfl⟩
  next rest =>
    obtain rfl := Option.some.inj found
    exact ⟨by simp, rfl⟩
  next rest =>
    obtain rfl := Option.some.inj found
    exact ⟨by simp, rfl⟩
  next => cases found

/-- The piece of a text that is neither empty nor a comment. -/
theorem pieceAt?_of_ne {c : Char} (noComment : c ≠ '#') (rest : List Char)
    : pieceAt? (c :: rest) =
      (lineEndPiece? (c :: rest)).orElse fun _ =>
      ((openTriple? (c :: rest)).map fun (opening, quote, rest) =>
        Piece.tripleQuote opening quote rest).orElse fun _ =>
      ((spanNumber? (c :: rest)).map fun (number, rest) =>
        Piece.token .number number rest).orElse fun _ =>
      ((operatorAt? (c :: rest)).map fun (operator, rest) =>
        Piece.token .operator operator rest).orElse fun _ =>
      (stringPiece? (c :: rest)).orElse fun _ => wordPiece? (c :: rest) := by
  rw [pieceAt?.eq_def]
  split
  next same => cases same
  next same => exact absurd (List.cons.inj same).1 noComment
  next => rfl

theorem splits_of_pieceAt? {text : List Char} {piece : Piece}
    (found : pieceAt? text = some piece) : piece.Splits text := by
  cases text with
  | nil =>
      obtain rfl := Option.some.inj found
      rfl
  | cons c rest =>
      by_cases comment : c = '#'
      · subst comment
        obtain rfl := Option.some.inj found
        exact ⟨by simp, List.takeWhile_append_dropWhile⟩
      · rw [pieceAt?_of_ne comment] at found
        refine Fits.orElse (fits_lineEndPiece? _) (.orElse ?_
          (.orElse ((takes_spanNumber? _).fits .number)
          (.orElse ((takes_operatorAt? _).fits .operator)
          (.orElse (fits_stringPiece? _) (fits_wordPiece? _))))) piece found
        intro piece same
        obtain ⟨⟨opening, quote, rest⟩, isOpen, rfl⟩ := Option.map_eq_some_iff.mp same
        obtain ⟨whole, nonempty, isQuote⟩ := append_of_openTriple? isOpen
        exact ⟨nonempty, whole, isQuote⟩

end LiteralEnum.Target
