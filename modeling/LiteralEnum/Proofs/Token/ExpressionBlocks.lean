import LiteralEnum.Proofs.Target.TokenCover
import LiteralEnum.Proofs.Token.LexicalExactness
import Mathlib.Data.List.Infix

/-! Expressions in blocks. A text in braces is one block if it is read to its end as an expression
would be, its braces match, and quotes match in each of its strings as they match in a block. They
do in strings in single quotes; in a string in three quotes a quote by itself opens or closes a run.
-/

namespace LiteralEnum.Target

open Lexer (Body QuotedItem)

-----------------------------------------------------------------------------------------
-- Texts with matching braces
-----------------------------------------------------------------------------------------

/-- One for an opening brace, minus one for a closing one. -/
def Token.brace (token : Token) : Int :=
  if token.kind = .operator ∧ token.text = ['\x7b'] then 1
  else if token.kind = .operator ∧ token.text = ['\x7d'] then -1
  else 0

/-- The opening braces among tokens less the closing ones. -/
def braces (tokens : List Token) : Int := (tokens.map Token.brace).sum

@[simp] theorem braces_nil : braces [] = 0 := rfl

@[simp] theorem braces_cons (token : Token) (rest : List Token)
    : braces (token :: rest) = token.brace + braces rest := rfl

/-- The text has tokens to its end, without comments and without what is no token, and its braces
match.
-/
structure IsBraced (text : List Char) : Prop where
  complete : (tokens text).failure = none
  clean : ∀ token ∈ (tokens text).tokens, token.kind ≠ .error ∧ token.kind ≠ .comment
  staysOpen : ∀ front, front <+: (tokens text).tokens → 0 ≤ braces front
  balanced : braces (tokens text).tokens = 0

instance (text : List Char) : Decidable (IsBraced text) :=
  decidable_of_iff
    ((tokens text).failure = none
      ∧ (∀ token ∈ (tokens text).tokens, token.kind ≠ .error ∧ token.kind ≠ .comment)
      ∧ (∀ front ∈ (tokens text).tokens.inits, 0 ≤ braces front)
      ∧ braces (tokens text).tokens = 0)
    ⟨fun ⟨complete, clean, staysOpen, balanced⟩ =>
        ⟨complete, clean, fun front isFront => staysOpen front ((List.mem_inits _ _).mpr isFront),
          balanced⟩,
      fun braced => ⟨braced.complete, braced.clean,
        fun front isFront => braced.staysOpen front ((List.mem_inits _ _).mp isFront),
        braced.balanced⟩⟩

/-- The tokens with quotes or braces that a block may not read as one: strings in three quotes, and
blank lines, which may take anything behind a carriage return. Each of them is a body by itself.
-/
def ReadsAsBodies (tokens : List Token) : Prop :=
  ∀ token ∈ tokens, token.kind = .blankLine ∨ token.kind = .string ∧ IsTripled token.text
    → IsBody token.text

/-- A string in three quotes is a body if its own quote stands in it behind backslashes only. -/
theorem isBody_tripled {quote : Char} (letters : List Char) (isQuote : IsQuote quote)
    (free : IsFree letters) (items : List (QuotedItem quote))
    : IsBody (letters ++ ([quote, quote, quote]
        ++ items.flatMap QuotedItem.text ++ [quote, quote, quote])) := by
  refine free.isBody_append ⟨.quoted quote isQuote [] (.quoted quote isQuote items
    (.quoted quote isQuote [] .empty)), ?_⟩
  simp [Body.text]

-----------------------------------------------------------------------------------------
-- Bodies
-----------------------------------------------------------------------------------------

/-- The token is a brace, or its text is a body. -/
def Token.IsRegular (token : Token) : Prop :=
  token.brace = 1 ∧ token.text = ['\x7b']
  ∨ token.brace = -1 ∧ token.text = ['\x7d']
  ∨ token.brace = 0 ∧ IsBody token.text

theorem Token.HasShape.isRegular {token : Token} (shape : token.HasShape)
    (clean : token.kind ≠ .error ∧ token.kind ≠ .comment)
    (isBody : token.kind = .blankLine ∨ token.kind = .string ∧ IsTripled token.text
      → IsBody token.text)
    : token.IsRegular := by
  obtain ⟨kind, text⟩ := token
  cases kind with
  | operator =>
      have isShape : text = ['\x7b'] ∨ text = ['\x7d'] ∨ IsFree text := shape
      rcases isShape with rfl | rfl | free
      · exact .inl ⟨rfl, rfl⟩
      · exact .inr (.inl ⟨rfl, rfl⟩)
      · have notBrace : text ≠ ['\x7b'] ∧ text ≠ ['\x7d'] := by
          constructor <;> (rintro rfl; exact absurd free (by decide))
        exact .inr (.inr ⟨by simp [Token.brace, notBrace], free.isBody⟩)
  | string =>
      refine .inr (.inr ⟨by simp [Token.brace], ?_⟩)
      exact shape.elim (fun tripled => isBody (.inr ⟨rfl, tripled⟩)) id
  | blankLine => exact .inr (.inr ⟨by simp [Token.brace], isBody (.inl rfl)⟩)
  | error => exact absurd rfl clean.1
  | comment => exact absurd rfl clean.2
  | _ => exact .inr (.inr ⟨by simp [Token.brace], IsFree.isBody shape⟩)

/-- Bodies that braces close which are opened before. -/
def laterText (bodies : List Body) : List Char :=
  bodies.flatMap fun body => '\x7d' :: body.text

/-- What tokens cover behind some open braces is a body, and one more behind each brace that closes.
By induction on the tokens and gaps.
-/
theorem Covers.exists_bodies {tokens : List Token} {text : List Char} (covers : Covers tokens text)
    (regular : ∀ token ∈ tokens, token.IsRegular) (depth : Nat)
    (staysOpen : ∀ front, front <+: tokens → 0 ≤ depth + braces front)
    (balanced : depth + braces tokens = 0)
    : ∃ (first : Body) (later : List Body),
        later.length = depth ∧ first.text ++ laterText later = text := by
  induction covers generalizing depth with
  | nil =>
      obtain rfl : depth = 0 := by simpa using balanced
      exact ⟨.empty, [], rfl, rfl⟩
  | @gap c _ _ isGap _ ih =>
      obtain ⟨first, later, count, rfl⟩ := ih regular depth staysOpen balanced
      have free : IsFree [c] := IsGap.isFree (by simpa [IsGap] using isGap)
      obtain ⟨body, same⟩ := free.isBody_append ⟨first, rfl⟩
      exact ⟨body, later, count, by simp [same]⟩
  | @token token rest text _ _ ih =>
      obtain ⟨isRegular, others⟩ := List.forall_mem_cons.mp regular
      have behind (front : List Token) (isFront : front <+: rest)
          : 0 ≤ depth + token.brace + braces front := by
        have := staysOpen (token :: front) ((List.prefix_cons_inj token).mpr isFront)
        rwa [braces_cons, ← Int.add_assoc] at this
      rw [braces_cons, ← Int.add_assoc] at balanced
      rcases isRegular with ⟨turn, same⟩ | ⟨turn, same⟩ | ⟨turn, inner, same⟩
      · rw [turn] at behind balanced
        obtain ⟨first, later, count, rfl⟩ := ih others (depth + 1) behind balanced
        obtain ⟨second, later, rfl⟩ := List.exists_cons_of_length_eq_add_one count
        exact ⟨.nested first second, later, by simpa using count,
          by simp [same, Body.text, laterText]⟩
      · rw [turn] at behind balanced
        have isOpen : 0 ≤ (depth : Int) + -1 := by simpa using behind [] List.nil_prefix
        obtain ⟨less, rfl⟩ : ∃ less, depth = less + 1 :=
          Nat.exists_eq_add_one_of_ne_zero (by omega)
        obtain ⟨first, later, count, rfl⟩ := ih others less
          (fun front isFront => by have := behind front isFront; omega) (by omega)
        exact ⟨.empty, first :: later, by simp [count], by simp [same, Body.text, laterText]⟩
      · rw [turn, Int.add_zero] at behind balanced
        obtain ⟨first, later, count, rfl⟩ := ih others depth behind balanced
        obtain ⟨body, joined⟩ := inner.exists_append first
        exact ⟨body, later, count, by rw [joined, same, List.append_assoc]⟩

/-- A text with matching braces is a body. -/
theorem IsBraced.isBody {text : List Char} (braced : IsBraced text)
    (alike : ReadsAsBodies (tokens text).tokens) : IsBody text := by
  -- a token with a shape is regular, and the covers of a text are such tokens
  have covers := covers_tokens braced.complete
  have regular : ∀ token ∈ (tokens text).tokens, token.IsRegular := fun token member =>
    (covers.hasShape token member).isRegular (braced.clean token member) (alike token member)
  obtain ⟨body, later, none, same⟩ := covers.exists_bodies regular 0
    (by simpa using braced.staysOpen) (by simpa using braced.balanced)
  obtain rfl := List.length_eq_zero_iff.mp none
  exact ⟨body, by simpa [laterText] using same⟩

-----------------------------------------------------------------------------------------
-- Blocks
-----------------------------------------------------------------------------------------

/-- The text in braces. -/
def inBraces (text : List Char) : List Char := '\x7b' :: (text ++ ['\x7d'])

/-- The tokens of a source that is a block with a text. -/
def blockTokens (text : List Char) : List LiteralEnum.Token :=
  [⟨.block, String.ofList (Text.strip text), .start⟩,
    ⟨.endOfSource, "", Position.start.advanceOver (inBraces text)⟩]

/-- A block takes in one expression, whose braces in strings do not count: a text in braces that
reads as an expression is one block and nothing else, and the block holds the text without the
blanks at its ends.
-/
theorem ofSource_inBraces {text : List Char} (braced : IsBraced text)
    (alike : ReadsAsBodies (tokens text).tokens)
    : LiteralEnum.Token.ofSource (String.ofList (inBraces text)) = .ok (blockTokens text) := by
  obtain ⟨body, rfl⟩ := braced.isBody alike
  have decomposition : Lexer.IsDecomposition [.block body]
      (String.ofList (inBraces body.text)).toList := by
    refine ⟨?_, trivial, trivial⟩
    simp [Lexer.textOf, Lexer.Piece.text, inBraces]
  rw [decomposition.ofSource_eq]
  simp [Lexer.decomposedTokens, Lexer.tokensFrom, Lexer.Piece.token?, Lexer.Piece.text,
    Lexer.textOf, blockTokens, inBraces]

/-- Braces of an expression and braces in its strings. -/
def bracedStrings : List Char :=
  "\x7b'\x7d': f\"\x7bx\x7d\", 2: \"\"\"\x7d '\x7b' \\\" \"\"\"\x7d".toList

theorem ofSource_inBraces_bracedStrings
    : IsBraced bracedStrings
      ∧ ReadsAsBodies (tokens bracedStrings).tokens
      ∧ LiteralEnum.Token.ofSource (String.ofList (inBraces bracedStrings))
        = .ok (blockTokens bracedStrings) :=
  have braced : IsBraced bracedStrings := by decide +kernel
  have tripled : ∀ token ∈ (tokens bracedStrings).tokens,
      token.kind = .blankLine ∨ token.kind = .string ∧ IsTripled token.text
        → token.text = "\"\"\"\x7d '\x7b' \\\" \"\"\"".toList := by
    decide +kernel
  have alike : ReadsAsBodies (tokens bracedStrings).tokens := fun token member known => by
    rw [tripled token member known]
    exact isBody_tripled [] (.inr rfl) (by decide)
      [.plain '\x7d' (by decide), .plain ' ' (by decide), .plain '\'' (by decide),
        .plain '\x7b' (by decide), .plain '\'' (by decide), .plain ' ' (by decide),
        .escape '"', .plain ' ' (by decide)]
  ⟨braced, alike, ofSource_inBraces braced alike⟩

/-- A string in three quotes with a quoted brace in it. -/
def tripledQuote : List Char := "\"\"\"a \"\x7d\" b\"\"\"".toList

/-- A quote by itself ends a run, and so the brace behind it ends the block. -/
theorem not_ofSource_inBraces_tripledQuote
    : IsBraced tripledQuote
      ∧ LiteralEnum.Token.ofSource (String.ofList (inBraces tripledQuote))
        ≠ .ok (blockTokens tripledQuote) := by
  decide +kernel

end LiteralEnum.Target
