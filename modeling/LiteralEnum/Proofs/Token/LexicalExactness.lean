import LiteralEnum.Proofs.Token.PieceExistence

/-! A source has at most one decomposition, and the lexer is exact: it returns the tokens of
the decomposition and the end of the source, and it fails exactly when there is none.
-/

namespace LiteralEnum.Lexer

-----------------------------------------------------------------------------------------
-- Ends are determined
-----------------------------------------------------------------------------------------

/-- Where a longest front of characters with a property ends is determined, by induction on
the front.
-/
theorem longestFront_inj {property : Char → Bool} {left right rest others : List Char}
    (same : left ++ rest = right ++ others) (inLeft : ∀ c ∈ left, property c = true)
    (inRight : ∀ c ∈ right, property c = true) (ends : ∀ c ∈ rest.head?, property c = false)
    (stops : ∀ c ∈ others.head?, property c = false)
    : left = right ∧ rest = others := by
  induction left generalizing right with
  | nil =>
      cases right with
      | nil => exact ⟨rfl, same⟩
      | cons c front =>
          rw [List.nil_append] at same
          have not := ends c (by simp [same])
          simp [inRight c] at not
  | cons c front ih =>
      cases right with
      | nil =>
          rw [List.nil_append] at same
          have not := stops c (by simp [← same])
          simp [inLeft c] at not
      | cons d back =>
          simp only [List.cons_append, List.cons.injEq] at same
          obtain ⟨rfl, tails⟩ := same
          obtain ⟨rfl, rests⟩ := ih tails
            (fun c member => inLeft c (List.mem_cons_of_mem _ member))
            (fun c member => inRight c (List.mem_cons_of_mem _ member))
          exact ⟨rfl, rests⟩

/-- Where a line ends is determined. -/
theorem firstLine_inj {left right rest others : List Char}
    (same : left ++ rest = right ++ others) (inLeft : '\n' ∉ left) (inRight : '\n' ∉ right)
    (ends : ∀ c ∈ rest.head?, c = '\n') (stops : ∀ c ∈ others.head?, c = '\n')
    : left = right ∧ rest = others := by
  have visible {line : List Char} (oneLine : '\n' ∉ line)
      : ∀ c ∈ line, (!decide (c = '\n')) = true := by
    intro c member
    have other : c ≠ '\n' := fun same => oneLine (same ▸ member)
    simpa using other
  exact longestFront_inj same (visible inLeft) (visible inRight)
    (fun c head => by simpa using ends c head) (fun c head => by simpa using stops c head)

/-- Where a list of items ends, and what they are, is determined, provided that every item
is and that none begins like what stands behind the items. By induction on the items.
-/
theorem items_inj {Item : Type} {text : Item → List Char} {stop : Char}
    (begins : ∀ item tail rest, text item ++ tail ≠ stop :: rest)
    (itemInj
      : ∀ item other rest others,
          text item ++ rest = text other ++ others → item = other ∧ rest = others)
    {left right : List Item} {rest others : List Char}
    (same : left.flatMap text ++ stop :: rest = right.flatMap text ++ stop :: others)
    : left = right ∧ rest = others := by
  induction left generalizing right with
  | nil =>
      cases right with
      | nil => exact ⟨rfl, (List.cons.inj same).2⟩
      | cons other further =>
          rw [List.flatMap_cons, List.append_assoc] at same
          exact absurd same.symm (begins _ _ _)
  | cons item items ih =>
      cases right with
      | nil =>
          rw [List.flatMap_cons, List.append_assoc] at same
          exact absurd same (begins _ _ _)
      | cons other further =>
          simp only [List.flatMap_cons, List.append_assoc] at same
          obtain ⟨rfl, tails⟩ := itemInj _ _ _ _ same
          obtain ⟨rfl, rests⟩ := ih tails
          exact ⟨rfl, rests⟩

/-- An item of a string is determined: escapes have one value each. -/
theorem stringItem_inj (item other : StringItem) (rest others : List Char)
    (same : item.text ++ rest = other.text ++ others)
    : item = other ∧ rest = others := by
  cases item with
  | plain c free =>
      cases other with
      | plain d free' =>
          simp only [StringItem.text, List.cons_append, List.nil_append, List.cons.injEq] at same
          obtain ⟨rfl, rests⟩ := same
          exact ⟨rfl, rests⟩
      | escape letter value listed => exact absurd (List.cons.inj same).1 free.2.1
  | escape letter value listed =>
      cases other with
      | plain d free' => exact absurd (List.cons.inj same).1.symm free'.2.1
      | escape letter' value' listed' =>
          simp only [StringItem.text, List.cons_append, List.nil_append, List.cons.injEq,
            true_and] at same
          obtain ⟨rfl, rests⟩ := same
          have values := (escaped?_eq_some_iff.mpr listed).symm.trans
            (escaped?_eq_some_iff.mpr listed')
          cases values
          exact ⟨rfl, rests⟩

/-- An item of a quoted run is determined. -/
theorem quotedItem_inj {quote : Char} (item other : QuotedItem quote) (rest others : List Char)
    (same : item.text ++ rest = other.text ++ others)
    : item = other ∧ rest = others := by
  cases item with
  | plain c free =>
      cases other with
      | plain d free' =>
          simp only [QuotedItem.text, List.cons_append, List.nil_append, List.cons.injEq] at same
          obtain ⟨rfl, rests⟩ := same
          exact ⟨rfl, rests⟩
      | escape d => exact absurd (List.cons.inj same).1 free.1
  | escape c =>
      cases other with
      | plain d free' => exact absurd (List.cons.inj same).1.symm free'.1
      | escape d =>
          simp only [QuotedItem.text, List.cons_append, List.nil_append, List.cons.injEq,
            true_and] at same
          obtain ⟨rfl, rests⟩ := same
          exact ⟨rfl, rests⟩

/-- Where a string ends, and what its items are, is determined. -/
theorem stringItems_inj {left right : List StringItem} {rest others : List Char}
    (same
      : left.flatMap StringItem.text ++ '"' :: rest
        = right.flatMap StringItem.text ++ '"' :: others)
    : left = right ∧ rest = others := by
  refine items_inj (fun item tail rest => ?_) stringItem_inj same
  cases item with
  | plain c free => simp [StringItem.text, free]
  | escape letter value listed => simp [StringItem.text]

/-- Where a quoted run ends, and what its items are, is determined. -/
theorem quotedItems_inj {quote : Char} (isQuote : quote = '\'' ∨ quote = '"')
    {left right : List (QuotedItem quote)} {rest others : List Char}
    (same
      : left.flatMap QuotedItem.text ++ quote :: rest
        = right.flatMap QuotedItem.text ++ quote :: others)
    : left = right ∧ rest = others := by
  have notBackslash : '\\' ≠ quote := by rcases isQuote with rfl | rfl <;> decide
  refine items_inj (fun item tail rest => ?_) quotedItem_inj same
  cases item with
  | plain c free => simp [QuotedItem.text, free]
  | escape c => simp [QuotedItem.text, notBackslash]

/-- Where a body ends, and what it is, is determined, by induction on the body. -/
theorem body_inj {left right : Body} {rest others : List Char}
    (same : left.text ++ '\x7d' :: rest = right.text ++ '\x7d' :: others)
    : left = right ∧ rest = others := by
  induction left generalizing right rest others with
  | empty =>
      cases right with
      | empty => exact ⟨rfl, (List.cons.inj same).2⟩
      | plain d free' tail => exact absurd (List.cons.inj same).1.symm free'.2.1
      | nested inner tail => simp [Body.text] at same
      | quoted quote isQuote items tail =>
          rcases isQuote with rfl | rfl <;> simp [Body.text] at same
  | plain c free front ih =>
      cases right with
      | empty => exact absurd (List.cons.inj same).1 free.2.1
      | plain d free' tail =>
          simp only [Body.text, List.cons_append, List.cons.injEq] at same
          obtain ⟨rfl, tails⟩ := same
          obtain ⟨rfl, rests⟩ := ih tails
          exact ⟨rfl, rests⟩
      | nested inner tail => exact absurd (List.cons.inj same).1 free.1
      | quoted quote isQuote items tail =>
          obtain rfl : c = quote := (List.cons.inj same).1
          exact absurd isQuote (not_or.mpr free.2.2)
  | nested inner front ihInner ihFront =>
      cases right with
      | empty => simp [Body.text] at same
      | plain d free' tail => exact absurd (List.cons.inj same).1.symm free'.1
      | nested inner' tail =>
          simp only [Body.text, List.cons_append, List.append_assoc, List.cons.injEq,
            true_and] at same
          obtain ⟨rfl, afterInner⟩ := ihInner same
          obtain ⟨rfl, rests⟩ := ihFront afterInner
          exact ⟨rfl, rests⟩
      | quoted quote isQuote items tail =>
          rcases isQuote with rfl | rfl <;> simp [Body.text] at same
  | quoted quote isQuote items front ih =>
      cases right with
      | empty => rcases isQuote with rfl | rfl <;> simp [Body.text] at same
      | plain d free' tail =>
          obtain rfl : quote = d := (List.cons.inj same).1
          exact absurd isQuote (not_or.mpr free'.2.2)
      | nested inner tail => rcases isQuote with rfl | rfl <;> simp [Body.text] at same
      | quoted quote' isQuote' items' tail =>
          simp only [Body.text, List.cons_append, List.append_assoc, List.cons.injEq] at same
          obtain ⟨rfl, inside⟩ := same
          obtain ⟨rfl, afterQuote⟩ := quotedItems_inj isQuote inside
          obtain ⟨rfl, rests⟩ := ih afterQuote
          exact ⟨rfl, rests⟩

-----------------------------------------------------------------------------------------
-- Pieces are determined
-----------------------------------------------------------------------------------------

/-- What the first step on a piece completes, and the mode that it leads to. -/
def Piece.opening (position : Position) : Piece → List Token × Mode
  | .blank _ _ => ([], .gap)
  | .comment _ _ _ | .doc _ _ => ([], .hash position)
  | .lineBreak => ([newlineToken position], .gap)
  | .string _ => ([], .string position [])
  | .block _ => ([], .block position [] 1)
  | .word first _ _ _ => ([], .word position [first])
  | .equals => ([equalsToken position], .gap)

/-- The first step on a piece depends on its kind only. -/
theorem Piece.exists_opening (piece : Piece) (position : Position)
    : ∃ c tail, piece.text = c :: tail ∧ stepGap position c = .ok (piece.opening position) := by
  cases piece with
  | blank c isGap => exact ⟨c, [], rfl, by simp [stepGap, isGap, opening]⟩
  | word first rest starts continues =>
      exact ⟨first, rest, rfl, stepGap_of_isWordStart position starts⟩
  | equals =>
      have notWord : isWordStart '=' = false := by decide
      exact ⟨'=', [], rfl, by simp [stepGap, notWord, opening]⟩
  | _ => exact ⟨_, _, rfl, rfl⟩

/-- Texts that begin with pieces agree only if the pieces open alike. -/
theorem opening_eq_of_text {left right : Piece} {rest others : List Char}
    (same : left.text ++ rest = right.text ++ others)
    : left.opening .start = right.opening .start := by
  obtain ⟨c, tail, begins, taken⟩ := left.exists_opening .start
  obtain ⟨d, further, begins', taken'⟩ := right.exists_opening .start
  rw [begins, begins'] at same
  obtain rfl : c = d := (List.cons.inj same).1
  exact Except.ok.inj (taken.symm.trans taken')

/-- A comment is plain or a doc comment by its first character. -/
theorem comment_ne_doc {text line rest others : List Char} (isPlain : text.head? ≠ some ':')
    (ends : ∀ c ∈ rest.head?, c = '\n')
    : '#' :: text ++ rest ≠ '#' :: ':' :: line ++ others := by
  intro same
  simp only [List.cons_append, List.cons.injEq, true_and] at same
  cases text with
  | nil =>
      rw [List.nil_append] at same
      exact absurd (ends ':' (by simp [same])) (by decide)
  | cons c tail =>
      have colon : c = ':' := (List.cons.inj same).1
      exact isPlain (by rw [colon]; rfl)

/-- The first piece of a text is determined: only pieces of one kind open alike, but for the
two kinds of comments.
-/
theorem piece_inj {left right : Piece} {rest others : List Char}
    (same : left.text ++ rest = right.text ++ others) (ends : left.EndsBefore rest)
    (stops : right.EndsBefore others)
    : left = right ∧ rest = others := by
  have openings := opening_eq_of_text same
  cases left with
  | blank c isGap =>
      cases right with
      | blank d isGap' =>
          simp only [Piece.text, List.cons_append, List.nil_append, List.cons.injEq] at same
          obtain ⟨rfl, rests⟩ := same
          exact ⟨rfl, rests⟩
      | _ => simp [Piece.opening] at openings
  | comment text isPlain oneLine =>
      cases right with
      | comment line isPlain' oneLine' =>
          obtain ⟨rfl, rests⟩ := firstLine_inj (List.cons.inj same).2 oneLine oneLine' ends stops
          exact ⟨rfl, rests⟩
      | doc line oneLine' => exact absurd same (comment_ne_doc isPlain ends)
      | _ => simp [Piece.opening] at openings
  | lineBreak =>
      cases right with
      | lineBreak => exact ⟨rfl, (List.cons.inj same).2⟩
      | _ => simp [Piece.opening, newlineToken, equalsToken] at openings
  | doc text oneLine =>
      cases right with
      | comment line isPlain oneLine' => exact absurd same.symm (comment_ne_doc isPlain stops)
      | doc line oneLine' =>
          simp only [Piece.text, List.cons_append, List.cons.injEq, true_and] at same
          obtain ⟨rfl, rests⟩ := firstLine_inj same oneLine oneLine' ends stops
          exact ⟨rfl, rests⟩
      | _ => simp [Piece.opening] at openings
  | string items =>
      cases right with
      | string items' =>
          simp only [Piece.text, List.cons_append, List.append_assoc, List.nil_append,
            List.cons.injEq, true_and] at same
          obtain ⟨rfl, rests⟩ := stringItems_inj same
          exact ⟨rfl, rests⟩
      | _ => simp [Piece.opening] at openings
  | block body =>
      cases right with
      | block body' =>
          simp only [Piece.text, List.cons_append, List.append_assoc, List.nil_append,
            List.cons.injEq, true_and] at same
          obtain ⟨rfl, rests⟩ := body_inj same
          exact ⟨rfl, rests⟩
      | _ => simp [Piece.opening] at openings
  | word first tail starts continues =>
      cases right with
      | word second tail' starts' continues' =>
          simp only [Piece.text, List.cons_append, List.cons.injEq] at same
          obtain ⟨rfl, tails⟩ := same
          obtain ⟨rfl, rests⟩ := longestFront_inj tails continues continues' ends stops
          exact ⟨rfl, rests⟩
      | _ => simp [Piece.opening] at openings
  | equals =>
      cases right with
      | equals => exact ⟨rfl, (List.cons.inj same).2⟩
      | _ => simp [Piece.opening, newlineToken, equalsToken] at openings

/-- A source has at most one decomposition, by induction on the pieces. -/
theorem IsDecomposition.unique {left right : List Piece} {source : List Char}
    (first : IsDecomposition left source) (second : IsDecomposition right source)
    : left = right := by
  induction left generalizing right source with
  | nil =>
      obtain rfl := first.text_eq
      cases right with
      | nil => rfl
      | cons piece others =>
          have empty := second.text_eq
          simp [textOf, piece.text_ne_nil] at empty
  | cons piece others ih =>
      cases right with
      | nil =>
          have empty := first.text_eq.trans second.text_eq.symm
          simp [textOf, piece.text_ne_nil] at empty
      | cons other further =>
          have same := first.text_eq.trans second.text_eq.symm
          have ends := first.joined.1
          have stops := second.joined.1
          rw [List.append_nil] at ends stops
          obtain ⟨rfl, rests⟩ := piece_inj same ends stops
          rw [ih ⟨rfl, first.joined.2⟩ ⟨rests.symm, second.joined.2⟩]

-----------------------------------------------------------------------------------------
-- Whole sources
-----------------------------------------------------------------------------------------

/-- The tokens of a source with a decomposition are those of the decomposition. -/
theorem IsDecomposition.ofSource_eq {pieces : List Piece} {source : String}
    (decomposition : IsDecomposition pieces source.toList)
    : Token.ofSource source = .ok (decomposedTokens pieces) := by
  have scanned := run_pieces .start pieces decomposition.joined
  rw [List.append_nil, decomposition.text_eq] at scanned
  rw [Token.ofSource, scanned, decomposedTokens, decomposition.text_eq]
  rfl

/-- The lexer is exact. It returns tokens exactly when they are those of a decomposition of
the source, it fails exactly when the source has none, and no source has two.
-/
theorem ofSource_exact (source : String)
    : (∀ tokens,
        Token.ofSource source = .ok tokens
        ↔ ∃ pieces,
            IsDecomposition pieces source.toList ∧ tokens = decomposedTokens pieces)
      ∧ ((∃ error, Token.ofSource source = .error error)
          ↔ ¬∃ pieces, IsDecomposition pieces source.toList)
      ∧ ∀ left right,
          IsDecomposition left source.toList
          → IsDecomposition right source.toList
          → left = right := by
  have accepted {tokens : List Token} (result : Token.ofSource source = .ok tokens)
      : ∃ pieces, IsDecomposition pieces source.toList :=
    exists_decomposition_of_run result
  refine ⟨fun tokens => ⟨fun result => ?_, ?_⟩, ⟨?_, fun none => ?_⟩,
    fun _ _ first second => first.unique second⟩
  · obtain ⟨pieces, decomposition⟩ := accepted result
    exact ⟨pieces, decomposition, Except.ok.inj (result.symm.trans decomposition.ofSource_eq)⟩
  · rintro ⟨pieces, decomposition, rfl⟩
    exact decomposition.ofSource_eq
  · rintro ⟨error, failed⟩ ⟨pieces, decomposition⟩
    rw [decomposition.ofSource_eq] at failed
    cases failed
  · cases result : Token.ofSource source with
    | error error => exact ⟨error, rfl⟩
    | ok tokens => exact absurd (accepted result) none

end LiteralEnum.Lexer
