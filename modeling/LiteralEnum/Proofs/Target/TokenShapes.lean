import LiteralEnum.Proofs.Target.OpenLines
import LiteralEnum.Proofs.Target.PlainText
import LiteralEnum.Proofs.Token.Decomposition

/-! What stands in the tokens of each kind. Quotes stand in strings only, and braces in strings and
as operators of their own; a string in single quotes ends at the first quote that no backslash
escapes, also where it goes on over the end of a line.
-/

namespace LiteralEnum.Target

open Lexer (QuotedItem Body)

-----------------------------------------------------------------------------------------
-- Texts without braces and quotes
-----------------------------------------------------------------------------------------

/-- The characters that have a meaning in a block. -/
def blockMarks : List Char := ['\x7b', '\x7d', '\'', '"']

def IsFree (text : List Char) : Prop := ∀ c ∈ text, c ∉ blockMarks

instance (text : List Char) : Decidable (IsFree text) :=
  List.decidableBAll (· ∉ blockMarks) text

/-- Characters with a property that no such character has. -/
theorem isFree_of (property : Char → Bool) (excludes : blockMarks.all (!property ·) = true)
    {text : List Char} (holds : ∀ c ∈ text, property c = true) : IsFree text := by
  intro c member isMark
  have without := List.all_eq_true.mp excludes c isMark
  rw [holds c member] at without
  cases without

/-- The text is a body of a block. -/
def IsBody (text : List Char) : Prop := ∃ body : Body, body.text = text

/-- Free characters may stand before a body. -/
theorem IsFree.isBody_append {text rest : List Char} (free : IsFree text) (body : IsBody rest)
    : IsBody (text ++ rest) := by
  obtain ⟨inner, rfl⟩ := body
  refine inner.exists_plain fun c member => ?_
  simpa [blockMarks, -List.contains_eq_mem] using free c member

theorem isBody_nil : IsBody [] := ⟨.empty, rfl⟩

theorem IsFree.isBody {text : List Char} (free : IsFree text) : IsBody text := by
  simpa using free.isBody_append isBody_nil

-----------------------------------------------------------------------------------------
-- Strings in single quotes
-----------------------------------------------------------------------------------------

/-- A string in single quotes up to some place before its closing quote. -/
def IsOpenedText (quote : Char) (text : List Char) : Prop :=
  ∃ (letters : List Char) (items : List (QuotedItem quote)),
    IsFree letters ∧ text = letters ++ quote :: items.flatMap QuotedItem.text

theorem IsOpenedText.append {quote : Char} {text : List Char} (opened : IsOpenedText quote text)
    (items : List (QuotedItem quote))
    : IsOpenedText quote (text ++ items.flatMap QuotedItem.text) := by
  obtain ⟨letters, front, free, rfl⟩ := opened
  exact ⟨letters, front ++ items, free, by simp⟩

/-- With its closing quote it is a body. -/
theorem IsOpenedText.isBody {quote : Char} {text : List Char} (opened : IsOpenedText quote text)
    (isQuote : IsQuote quote) : IsBody (text ++ [quote]) := by
  obtain ⟨letters, items, free, rfl⟩ := opened
  rw [List.append_assoc]
  exact free.isBody_append ⟨.quoted quote isQuote items .empty, by simp [Body.text]⟩

theorem isFree_of_openQuote? {text letters rest : List Char} {quote : Char}
    (found : openQuote? text = some (letters, quote, rest)) : IsFree letters := by
  rw [openQuote?] at found
  split at found
  next =>
    obtain ⟨-, same⟩ := Option.ite_none_right_eq_some.mp found
    obtain rfl := congrArg Prod.fst (Option.some.inj same)
    exact isFree_of Char.isAlpha (by decide) fun c => List.mem_takeWhile_imp
  next => cases found

/-- What a string takes of its first line: items up to the quote, or up to the end of the line. -/
def LineString.Reads (quote : Char) (read : List Char) : LineString → Prop
  | .closed taken _ =>
      ∃ items : List (QuotedItem quote),
        taken = read.reverse ++ items.flatMap QuotedItem.text ++ [quote]
  | .continued taken _ =>
      taken.getLast? = some '\n'
      ∧ ∃ items : List (QuotedItem quote), taken = read.reverse ++ items.flatMap QuotedItem.text
  | .broken => True

theorem LineString.Reads.cons {quote : Char} {read : List Char} (item : QuotedItem quote)
    {found : LineString} (reads : found.Reads quote (item.text.reverse ++ read))
    : found.Reads quote read := by
  cases found with
  | broken => trivial
  | closed =>
      obtain ⟨items, rfl⟩ := reads
      exact ⟨item :: items, by simp⟩
  | continued =>
      obtain ⟨last, items, rfl⟩ := reads
      exact ⟨last, item :: items, by simp⟩

theorem reads_scanLineString {quote : Char} (isQuote : IsQuote quote) (read text : List Char)
    : (scanLineString quote read text).Reads quote read := by
  have noFeed : '\n' ≠ '\\' ∧ '\n' ≠ quote := by rcases isQuote with rfl | rfl <;> decide
  fun_induction scanLineString quote read text with
  | case1 read rest => exact ⟨by simp, [.escape '\n'], by simp [QuotedItem.text]⟩
  | case2 read rest =>
    exact ⟨by simp, [.escape '\r', .plain '\n' noFeed], by simp [QuotedItem.text]⟩
  | case3 read c rest _ _ ih => exact .cons (.escape c) ih
  | case4 => trivial
  | case5 read rest => exact ⟨[], by simp⟩
  | case6 => trivial
  | case7 read c rest notFeed notReturn notEscape notLast other _ ih =>
    exact .cons (.plain c ⟨ne_backslash notEscape notLast, other⟩) ih
  | case8 => trivial

theorem reads_closeSingle? {quote : Char} {read text taken rest : List Char}
    (found : closeSingle? quote read text = some (taken, rest))
    : ∃ items : List (QuotedItem quote),
        taken = read.reverse ++ items.flatMap QuotedItem.text ++ [quote] := by
  fun_induction closeSingle? quote read text with
  | case1 => cases found
  | case2 read c rest' _ ih =>
    obtain ⟨items, rfl⟩ := ih found
    exact ⟨.escape c :: items, by simp [QuotedItem.text]⟩
  | case3 => cases found
  | case4 read rest' =>
    obtain ⟨rfl, rfl⟩ := Prod.mk.inj (Option.some.inj found)
    exact ⟨[], by simp⟩
  | case5 read c rest' notEscape notLast other ih =>
    obtain ⟨items, rfl⟩ := ih found
    exact ⟨.plain c ⟨ne_backslash notEscape notLast, other⟩ :: items, by simp [QuotedItem.text]⟩
  | case6 => cases found

/-- A line without the closing quote is items to its end, unless it ends in a backslash. -/
theorem reads_of_closeSingle?_eq_none {quote : Char} {read text : List Char} (ends : EndsOnce text)
    (last : text.getLast? ≠ some '\\') (unclosed : closeSingle? quote read text = none)
    : ∃ items : List (QuotedItem quote), text = items.flatMap QuotedItem.text := by
  fun_induction closeSingle? quote read text with
  | case1 read rest =>
    obtain rfl := ends ['\\'] rest rfl
    exact ⟨[.escape '\n'], rfl⟩
  | case2 read c rest notFeed ih =>
    have behind : rest <:+ '\\' :: c :: rest := List.suffix_append ['\\', c] rest
    have last : rest.getLast? ≠ some '\\' := fun same => last (by simp [List.getLast?_cons, same])
    obtain ⟨items, rfl⟩ := ih (ends.suffix behind) last unclosed
    exact ⟨.escape c :: items, rfl⟩
  | case3 => exact absurd rfl last
  | case4 => cases unclosed
  | case5 read c rest notEscape notLast other ih =>
    have last : rest.getLast? ≠ some '\\' := fun same => last (by simp [List.getLast?_cons, same])
    obtain ⟨items, rfl⟩ := ih (ends.suffix (List.suffix_cons c rest)) last unclosed
    exact ⟨.plain c ⟨ne_backslash notEscape notLast, other⟩ :: items, rfl⟩
  | case6 => exact ⟨[], rfl⟩

-----------------------------------------------------------------------------------------
-- Strings in three quotes
-----------------------------------------------------------------------------------------

/-- The text starts with the opening of a string in three quotes. -/
def IsTripled (text : List Char) : Prop := (openTriple? text).isSome = true

instance (text : List Char) : Decidable (IsTripled text) :=
  inferInstanceAs (Decidable ((openTriple? text).isSome = true))

/-- It is opened so, whatever follows. -/
def IsTripledText (text : List Char) : Prop := ∀ rest, IsTripled (text ++ rest)

theorem IsTripledText.append {text : List Char} (tripled : IsTripledText text) (more : List Char)
    : IsTripledText (text ++ more) := by
  intro rest
  rw [List.append_assoc]
  exact tripled (more ++ rest)

/-- A quote is opened by the letters and the quote, whatever follows. -/
theorem openQuote?_append {text letters rest : List Char} {quote : Char}
    (found : openQuote? text = some (letters, quote, rest)) (more : List Char)
    : openQuote? (letters ++ quote :: more) = some (letters, quote, more) := by
  have notLetter : quote.isAlpha = false := by
    rcases (append_of_openQuote? found).2 with rfl | rfl <;> rfl
  rw [openQuote?] at found
  split at found
  next c behind same =>
    obtain ⟨known, parts⟩ := Option.ite_none_right_eq_some.mp found
    obtain ⟨rfl, rfl, rfl⟩ : text.takeWhile Char.isAlpha = letters ∧ c = quote ∧ behind = rest := by
      simpa using parts
    have areLetters : ∀ d ∈ text.takeWhile Char.isAlpha, d.isAlpha = true :=
      fun d => List.mem_takeWhile_imp
    rw [openQuote?, List.takeWhile_append_of_pos areLetters,
      List.takeWhile_cons_of_neg (by simp [notLetter]), List.append_nil, List.drop_left]
    exact if_pos known
  next => cases found

theorem isTripledText_of_openTriple? {text opening rest : List Char} {quote : Char}
    (found : openTriple? text = some (opening, quote, rest)) : IsTripledText opening := by
  rw [openTriple?] at found
  split at found
  next letters c second third behind isOpen =>
    obtain ⟨⟨rfl, rfl⟩, parts⟩ := Option.ite_none_right_eq_some.mp found
    obtain rfl := congrArg Prod.fst (Option.some.inj parts)
    intro more
    have opened := openQuote?_append isOpen (third :: third :: more)
    rw [IsTripled, openTriple?]
    simp [opened]
  next => cases found

theorem exists_append_of_closeTriple? {quote : Char} {read text taken rest : List Char}
    (found : closeTriple? quote read text = some (taken, rest))
    : ∃ more, taken = read.reverse ++ more := by
  fun_induction closeTriple? quote read text with
  | case1 => cases found
  | case2 read c rest' _ ih =>
    obtain ⟨more, rfl⟩ := ih found
    exact ⟨'\\' :: c :: more, by simp⟩
  | case3 => cases found
  | case4 read c rest' _ _ closes =>
    obtain ⟨rfl, -⟩ := Prod.mk.inj (Option.some.inj found)
    exact ⟨[c, quote, quote], by simp⟩
  | case5 read c rest' _ _ _ ih =>
    obtain ⟨more, rfl⟩ := ih found
    exact ⟨c :: more, by simp⟩
  | case6 => cases found

-----------------------------------------------------------------------------------------
-- Pieces
-----------------------------------------------------------------------------------------

/-- What stands in a token of its kind. Nothing is said about comments, about what is no token, and
about blank lines, which take the rest of their line.
-/
def Token.HasShape (token : Token) : Prop :=
  match token.kind with
  | .operator => token.text = ['\x7b'] ∨ token.text = ['\x7d'] ∨ IsFree token.text
  | .string => IsTripled token.text ∨ IsBody token.text
  | .comment | .error | .blankLine => True
  | _ => IsFree token.text

/-- The characters that stand between tokens. -/
def gapMarks : List Char := [' ', '\t', '\x0c', '\\', '\r', '\n']

def IsGap (text : List Char) : Prop := ∀ c ∈ text, c ∈ gapMarks

theorem IsGap.isFree {text : List Char} (gap : IsGap text) : IsFree text :=
  isFree_of gapMarks.contains (by decide)
    fun c member => List.contains_iff_mem.mpr (gap c member)

/-- What a piece takes of the text. -/
def Piece.HasShape (text : List Char) : Piece → Prop
  | .nothing => True
  | .continuation rest => ∃ ending, IsGap ending ∧ ending ++ rest = text
  | .tripleQuote opening _ _ => IsTripledText opening
  | .openLine read quote _ => read.getLast? = some '\n' ∧ IsOpenedText quote read
  | .token kind word _ => Token.HasShape ⟨kind, word⟩

/-- Whatever piece is found at the start of the text has its shape. -/
def AreShaped (text : List Char) (found : Option Piece) : Prop :=
  ∀ piece, found = some piece → piece.HasShape text

theorem AreShaped.orElse {text : List Char} {first second : Option Piece}
    (one : AreShaped text first) (other : AreShaped text second)
    : AreShaped text (first.orElse fun _ => second) := by
  cases first with
  | none => exact other
  | some piece => exact one

theorem areShaped_lineEndPiece? (text : List Char) : AreShaped text (lineEndPiece? text) := by
  intro piece found
  have breaks : IsFree ['\n'] ∧ IsFree ['\r', '\n'] := by decide
  rw [lineEndPiece?.eq_def] at found
  split at found
  next rest =>
    obtain rfl := Option.some.inj found
    exact ⟨['\\', '\n'], by simp [IsGap, gapMarks], rfl⟩
  next rest =>
    obtain rfl := Option.some.inj found
    exact ⟨['\\', '\r', '\n'], by simp [IsGap, gapMarks], rfl⟩
  next rest =>
    obtain rfl := Option.some.inj found
    exact breaks.2
  next rest =>
    obtain rfl := Option.some.inj found
    exact breaks.1
  next => cases found

theorem areShaped_operatorAt? (text : List Char)
    : AreShaped text ((operatorAt? text).map fun (operator, rest) =>
        Piece.token .operator operator rest) := by
  have all : (operators.all fun word => word = ['\x7b'] ∨ word = ['\x7d'] ∨ IsFree word)
      = true := by
    decide
  intro piece found
  obtain ⟨⟨word, rest⟩, isOperator, rfl⟩ := Option.map_eq_some_iff.mp found
  obtain ⟨operator, isFound, same⟩ := Option.map_eq_some_iff.mp isOperator
  obtain rfl := congrArg Prod.fst same
  have known := List.all_eq_true.mp all operator (List.mem_of_find?_eq_some isFound)
  rw [decide_eq_true_eq] at known
  exact known

theorem areShaped_stringPiece? (text : List Char) : AreShaped text (stringPiece? text) := by
  intro piece found
  rw [stringPiece?] at found
  split at found
  next letters quote rest isOpen =>
    have isQuote := (append_of_openQuote? isOpen).2
    have opened (items : List (QuotedItem quote))
        : IsOpenedText quote ((quote :: letters.reverse).reverse ++ items.flatMap QuotedItem.text) :=
      ⟨letters, items, isFree_of_openQuote? isOpen, by simp⟩
    have reads := reads_scanLineString isQuote (quote :: letters.reverse) rest
    split at found
    next taken others same =>
      obtain rfl := Option.some.inj found
      rw [same] at reads
      obtain ⟨items, rfl⟩ := reads
      exact .inr ((opened items).isBody isQuote)
    next taken others same =>
      obtain rfl := Option.some.inj found
      rw [same] at reads
      obtain ⟨last, items, rfl⟩ := reads
      exact ⟨last, opened items⟩
    next => cases found
  next => cases found

theorem areShaped_wordPiece? (text : List Char) : AreShaped text (wordPiece? text) := by
  intro piece found
  cases text with
  | nil => cases found
  | cons c rest =>
      obtain ⟨starts, same⟩ := Option.ite_none_right_eq_some.mp found
      obtain rfl := Option.some.inj same
      have free : IsFree (c :: rest.takeWhile Lexer.isWordPart) :=
        isFree_of Lexer.isWordPart (by decide)
          (List.forall_mem_cons.mpr ⟨starts, fun d => List.mem_takeWhile_imp⟩)
      simp only [Piece.HasShape]
      split
      · exact free
      · exact .inr (.inr free)

theorem hasShape_of_pieceAt? {text : List Char} {piece : Piece}
    (found : pieceAt? text = some piece) : piece.HasShape text := by
  cases text with
  | nil =>
      obtain rfl := Option.some.inj found
      trivial
  | cons c rest =>
      by_cases comment : c = '#'
      · subst comment
        obtain rfl := Option.some.inj found
        trivial
      · rw [pieceAt?_of_ne comment] at found
        refine AreShaped.orElse (areShaped_lineEndPiece? _) (.orElse ?_ (.orElse ?_
          (.orElse (areShaped_operatorAt? _)
          (.orElse (areShaped_stringPiece? _) (areShaped_wordPiece? _))))) piece found
        · intro piece same
          obtain ⟨⟨opening, quote, rest⟩, isOpen, rfl⟩ := Option.map_eq_some_iff.mp same
          exact isTripledText_of_openTriple? isOpen
        · intro piece same
          obtain ⟨⟨word, rest⟩, isNumber, rfl⟩ := Option.map_eq_some_iff.mp same
          exact isFree_of _ (by decide) (ofNumberChars_spanNumber? _ word rest isNumber)

end LiteralEnum.Target
