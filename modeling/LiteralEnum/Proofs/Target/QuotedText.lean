import LiteralEnum.Proofs.Target.PieceSplitting
import LiteralEnum.Proofs.Text.Blank
import LiteralEnum.Target.Lexeme
import LiteralEnum.Target.Literal
import Mathlib.Tactic.Ring

/-! A quoted text is a string literal on one line, and the literal denotes the text, for
every text: each character stands between the quotes in one of three forms, and none of
them ends the literal or the line.
-/

namespace LiteralEnum.Target

open Text

-----------------------------------------------------------------------------------------
-- Hexadecimal digits
-----------------------------------------------------------------------------------------

theorem hexValue?_hexDigit
    : ∀ value < 16, Literal.hexValue? (hexDigit value) = some value := by
  decide

/-- Digits are read in two runs as in one, by induction on the first run. -/
theorem takeHex?_add (first later value : Nat) (text : List Char)
    : Literal.takeHex? (first + later) value text
      = (Literal.takeHex? first value text).bind fun (read, rest) =>
          Literal.takeHex? later read rest := by
  induction first generalizing value text with
  | zero => simp [Literal.takeHex?]
  | succ first ih =>
      cases text with
      | nil => simp [Nat.succ_add, Literal.takeHex?]
      | cons c rest =>
          cases digit : Literal.hexValue? c with
          | none => simp [Nat.succ_add, Literal.takeHex?, digit]
          | some digit' => simp [Nat.succ_add, Literal.takeHex?, digit, ih]

/-- The written digits are read back, by induction on their number: the last digit is
written last.
-/
theorem takeHex?_hexDigits (width read value : Nat) (rest : List Char)
    : Literal.takeHex? width read (hexDigits width value ++ rest)
      = some (read * 16 ^ width + value % 16 ^ width, rest) := by
  induction width generalizing value rest with
  | zero => simp [hexDigits, Literal.takeHex?, Nat.mod_one]
  | succ width ih =>
      have last := hexValue?_hexDigit (value % 16) (Nat.mod_lt _ (by decide))
      rw [takeHex?_add, hexDigits, List.append_assoc, ih]
      simp only [Option.bind_some, List.singleton_append, Literal.takeHex?, last,
        Option.some.injEq, Prod.mk.injEq, and_true]
      rw [Nat.pow_succ', Nat.mod_mul]
      ring

/-- A number that fits into the digits is read back. -/
theorem takeHex?_hexDigits_of_lt {width value : Nat} (fits : value < 16 ^ width)
    (rest : List Char)
    : Literal.takeHex? width 0 (hexDigits width value ++ rest) = some (value, rest) := by
  rw [takeHex?_hexDigits, Nat.zero_mul, Nat.zero_add, Nat.mod_eq_of_lt fits]

/-- A digit is neither a quote nor a backslash nor a line break. -/
def IsPlainDigit (c : Char) : Prop := 48 ≤ c.toNat ∧ c.toNat ≤ 102 ∧ c ≠ '\\'

instance (c : Char) : Decidable (IsPlainDigit c) :=
  inferInstanceAs (Decidable (_ ∧ _))

theorem isPlainDigit_hexDigit : ∀ value < 16, IsPlainDigit (hexDigit value) := by
  decide

theorem isPlainDigit_of_mem_hexDigits {width value : Nat} {c : Char}
    (member : c ∈ hexDigits width value)
    : IsPlainDigit c := by
  induction width generalizing value with
  | zero => cases member
  | succ width ih =>
      rcases List.mem_append.mp member with front | last
      · exact ih front
      · rw [List.mem_singleton.mp last]
        exact isPlainDigit_hexDigit _ (Nat.mod_lt _ (by decide))

-----------------------------------------------------------------------------------------
-- Characters between quotes
-----------------------------------------------------------------------------------------

/-- The code points of the breaks, as ranges. -/
def lineBreakRanges : Ranges := [(10, 13), (28, 30), (0x85, 0x85), (0x2028, 0x2029)]

/-- No printable range meets a break. -/
theorem lineBreakRanges_apart_printableRanges
    : (lineBreakRanges.all fun gap => printableRanges.all fun range =>
        gap.2.blt range.1 || range.2.blt gap.1) = true := by
  decide +kernel

/-- A break is never shown as it is. -/
theorem isLineBreak_of_isPrintable {c : Char} (printable : isPrintable c = true)
    : isLineBreak c = false := by
  cases broken : isLineBreak c with
  | false => rfl
  | true =>
      have inGap : ∃ gap ∈ lineBreakRanges, gap.1 ≤ c.toNat ∧ c.toNat ≤ gap.2 := by
        simp only [isLineBreak, Bool.or_eq_true, Bool.and_eq_true, decide_eq_true_eq] at broken
        simp only [lineBreakRanges, List.exists_mem_cons_iff, List.not_mem_nil, false_and,
          exists_false, or_false]
        omega
      obtain ⟨gap, isGap, above, below⟩ := inGap
      obtain ⟨range, member, low, high⟩ := Ranges.exists_of_contains printable
      have apart := List.all_eq_true.mp
        (List.all_eq_true.mp lineBreakRanges_apart_printableRanges gap isGap) range member
      simp only [Bool.or_eq_true, Nat.blt_eq] at apart
      omega

/-- The forms in which a character stands between quotes. -/
inductive Quoting (quote c : Char) : List Char → Prop where
  | plain (printable : isPrintable c = true) (notQuote : c ≠ quote) (notBackslash : c ≠ '\\')
      : Quoting quote c [c]
  | letter (escape : Char) (known : escape ∈ ['\'', '"', '\\', 'n', 'r', 't'])
      (meaning : Literal.simpleEscape? escape = some c.toNat)
      : Quoting quote c ['\\', escape]
  | numeric (mark : Char) (width : Nat)
      (known : (mark, width) ∈ [('x', 2), ('u', 4), ('U', 8)]) (fits : c.toNat < 16 ^ width)
      : Quoting quote c ('\\' :: mark :: hexDigits width c.toNat)

theorem toNat_lt (c : Char) : c.toNat < 0x110000 := by
  have valid := c.valid
  simp only [UInt32.isValidChar, Nat.isValidChar] at valid
  simp only [Char.toNat]
  omega

/-- Every character is written in one of the forms. -/
theorem quoting_quotedChar {quote : Char} (isQuote : IsQuote quote) (c : Char)
    : Quoting quote c (quotedChar quote c) := by
  rw [quotedChar]
  split
  next special =>
    rcases special with rfl | rfl
    · rcases isQuote with rfl | rfl
      · exact .letter '\'' (by simp) rfl
      · exact .letter '"' (by simp) rfl
    · exact .letter '\\' (by simp) rfl
  next ordinary =>
    obtain ⟨notQuote, notBackslash⟩ := not_or.mp ordinary
    split
    next lineFeed => exact lineFeed ▸ .letter 'n' (by simp) rfl
    split
    next carriageReturn => exact carriageReturn ▸ .letter 'r' (by simp) rfl
    split
    next tab => exact tab ▸ .letter 't' (by simp) rfl
    split
    next printable => exact .plain printable notQuote notBackslash
    rw [numericEscape]
    split
    next small => exact .numeric 'x' 2 (by simp) (by omega)
    split
    next medium => exact .numeric 'u' 4 (by simp) (by omega)
    exact .numeric 'U' 8 (by simp) (by have := toNat_lt c; omega)

/-- Characters without a meaning of their own are read one by one, by induction on them. -/
theorem closeString?_append {quote : Char} {plain : List Char}
    (inert : ∀ other ∈ plain, other ≠ quote ∧ other ≠ '\\' ∧ other ≠ '\n')
    (read rest : List Char)
    : Lexeme.closeString? quote read (plain ++ rest)
      = Lexeme.closeString? quote (plain.reverse ++ read) rest := by
  induction plain generalizing read with
  | nil => rfl
  | cons first others ih =>
      obtain ⟨⟨notQuote, notBackslash, notBreak⟩, inert⟩ := List.forall_mem_cons.mp inert
      rw [List.cons_append, Lexeme.closeString?]
      · simp [notQuote, notBackslash, notBreak, ih inert]
      · exact fun _ _ same _ => notBackslash same

namespace Quoting

variable {quote c : Char} {chars : List Char}

theorem ne_nil (quoting : Quoting quote c chars)
    : chars ≠ [] := by
  cases quoting <;> exact List.cons_ne_nil _ _

/-- A quoted character does not start with the quote. -/
theorem head?_ne (quoting : Quoting quote c chars) (isQuote : IsQuote quote)
    : chars.head? ≠ some quote := by
  have notBackslash : '\\' ≠ quote := by rcases isQuote with rfl | rfl <;> decide
  cases quoting with
  | plain _ notQuote _ => simpa using notQuote
  | letter => simpa using notBackslash
  | numeric => simpa using notBackslash

/-- A quoted character denotes itself, whatever follows. -/
theorem decodeEscapes? (quoting : Quoting quote c chars) (fuel : Nat) (rest : List Char)
    : Literal.decodeEscapes? false (fuel + 1) (chars ++ rest)
      = (Literal.decodeEscapes? false fuel rest).map (c.toNat :: ·) := by
  cases quoting with
  | plain _ _ notBackslash =>
      rw [List.singleton_append, Literal.decodeEscapes?.eq_4]
      exact notBackslash
  | letter escape known meaning =>
      have taken : Literal.takeEscape? false (escape :: rest) = some ([c.toNat], rest) := by
        simp only [List.mem_cons, List.not_mem_nil, or_false] at known
        rcases known with rfl | rfl | rfl | rfl | rfl | rfl <;>
          simp [Literal.takeEscape?, isOctalDigit, meaning]
      simp [Literal.decodeEscapes?, taken]
  | numeric mark width known fits =>
      have digits := takeHex?_hexDigits_of_lt fits rest
      have taken : Literal.takeEscape? false (mark :: (hexDigits width c.toNat ++ rest))
          = some ([c.toNat], rest) := by
        simp only [List.mem_cons, Prod.mk.injEq, List.not_mem_nil, or_false] at known
        rcases known with ⟨rfl, rfl⟩ | ⟨rfl, rfl⟩ | ⟨rfl, rfl⟩ <;>
          simp [Literal.takeEscape?, digits, isOctalDigit, toNat_lt c]
      simp [Literal.decodeEscapes?, taken]

/-- A quoted character does not end the literal. -/
theorem closeString? (quoting : Quoting quote c chars) (isQuote : IsQuote quote)
    (read rest : List Char)
    : Lexeme.closeString? quote read (chars ++ rest)
      = Lexeme.closeString? quote (chars.reverse ++ read) rest := by
  cases quoting with
  | plain printable notQuote notBackslash =>
      have notBreak : c ≠ '\n' := by
        rintro rfl
        exact absurd printable (by decide)
      exact closeString?_append (by simp [notQuote, notBackslash, notBreak]) read rest
  | letter escape known meaning => simp [Lexeme.closeString?]
  | numeric mark width known fits =>
      have inert : ∀ other ∈ hexDigits width c.toNat,
          other ≠ quote ∧ other ≠ '\\' ∧ other ≠ '\n' := by
        intro other member
        obtain ⟨low, -, notBackslash⟩ := isPlainDigit_of_mem_hexDigits member
        refine ⟨?_, notBackslash, ?_⟩
        · rintro rfl
          rcases isQuote with rfl | rfl <;> exact absurd low (by decide)
        · rintro rfl
          exact absurd low (by decide)
      rw [List.cons_append, List.cons_append, Lexeme.closeString?, closeString?_append inert]
      simp

/-- A quoted character stands on one line. -/
theorem not_isLineBreak (quoting : Quoting quote c chars)
    : ∀ other ∈ chars, isLineBreak other = false := by
  cases quoting with
  | plain printable _ _ =>
      intro other member
      rw [List.mem_singleton.mp member]
      exact isLineBreak_of_isPrintable printable
  | letter escape known meaning =>
      intro other member
      simp only [List.mem_cons, List.not_mem_nil, or_false] at known member
      rcases member with rfl | rfl
      · rfl
      · rcases known with rfl | rfl | rfl | rfl | rfl | rfl <;> rfl
  | numeric mark width known fits =>
      intro other member
      simp only [List.mem_cons, Prod.mk.injEq, List.not_mem_nil, or_false] at known member
      rcases member with rfl | rfl | member
      · rfl
      · rcases known with ⟨rfl, rfl⟩ | ⟨rfl, rfl⟩ | ⟨rfl, rfl⟩ <;> rfl
      · obtain ⟨low, high, -⟩ := isPlainDigit_of_mem_hexDigits member
        simp only [isLineBreak, Bool.or_eq_false_iff, Bool.and_eq_false_iff,
          decide_eq_false_iff_not]
        omega

end Quoting

-----------------------------------------------------------------------------------------
-- Whole literals
-----------------------------------------------------------------------------------------

theorem isQuote_quoteFor (text : List Char) : IsQuote (quoteFor text) := by
  rw [quoteFor]
  split
  · exact Or.inr rfl
  · exact Or.inl rfl

/-- What stands between the quotes denotes the text, by induction on the text. Every step
takes at least one character, so that the length of what is written is fuel enough.
-/
theorem decodeEscapes?_flatMap_quotedChar {quote : Char} (isQuote : IsQuote quote)
    (text : List Char) {fuel : Nat} (enough : text.length ≤ fuel)
    : Literal.decodeEscapes? false fuel (text.flatMap (quotedChar quote))
      = some (text.map Char.toNat) := by
  induction text generalizing fuel with
  | nil => cases fuel <;> rfl
  | cons c rest ih =>
      obtain _ | fuel := fuel
      · cases enough
      rw [List.flatMap_cons, (quoting_quotedChar isQuote c).decodeEscapes?,
        ih (Nat.le_of_succ_le_succ enough)]
      rfl

/-- The literal goes on to its last quote, by induction on the text. -/
theorem closeString?_flatMap_quotedChar {quote : Char} (isQuote : IsQuote quote)
    (text read rest : List Char)
    : Lexeme.closeString? quote read (text.flatMap (quotedChar quote) ++ quote :: rest)
      = some (read.reverse ++ text.flatMap (quotedChar quote) ++ [quote], rest) := by
  induction text generalizing read with
  | nil =>
      have notBackslash : quote ≠ '\\' := by rcases isQuote with rfl | rfl <;> decide
      rw [List.flatMap_nil, List.nil_append, Lexeme.closeString?]
      · simp
      · exact fun _ _ same _ => notBackslash same
  | cons c text ih =>
      rw [List.flatMap_cons, List.append_assoc, (quoting_quotedChar isQuote c).closeString? isQuote,
        ih]
      simp

/-- A quoted text opens one quote. -/
theorem openQuote?_quoted {quote : Char} (isQuote : IsQuote quote) (rest : List Char)
    : openQuote? (quote :: rest) = some ([], quote, rest) := by
  rcases isQuote with rfl | rfl <;> simp [openQuote?, stringPrefixes]

/-- Three double quotes open a string in three quotes. -/
theorem openTriple?_quotes (rest : List Char)
    : openTriple? ('"' :: '"' :: '"' :: rest) = some (['"', '"', '"'], '"', rest) := by
  have single : openQuote? ('"' :: '"' :: '"' :: rest) = some ([], '"', '"' :: '"' :: rest) :=
    openQuote?_quoted (.inr rfl) _
  rw [openTriple?, single]
  rfl

/-- One quote opens no string in three quotes if two more do not follow. -/
theorem openTriple?_eq_none {quote : Char} (isQuote : IsQuote quote) {rest : List Char}
    (single : rest.take 2 ≠ [quote, quote])
    : openTriple? (quote :: rest) = none := by
  rw [openTriple?, openQuote?_quoted isQuote]
  split
  next letters opening second third others same =>
    obtain ⟨rfl, rfl, rfl⟩ : letters = [] ∧ quote = opening ∧ rest = second :: third :: others := by
      simpa [eq_comm] using same
    rw [if_neg]
    rintro ⟨rfl, rfl⟩
    exact single rfl
  next => rfl

/-- A quoted text does not open three quotes, unless a quote follows an empty text. -/
theorem openTriple?_quotedChars {text rest : List Char}
    (apart : rest.head? ≠ some (quoteFor text))
    : openTriple? (quotedChars text ++ rest) = none := by
  have isQuote := isQuote_quoteFor text
  refine openTriple?_eq_none isQuote fun tripled => ?_
  cases text with
  | nil => cases rest <;> simp_all
  | cons c others =>
      have quoting := quoting_quotedChar isQuote c
      obtain ⟨start, more, quoted⟩ := List.exists_cons_of_ne_nil quoting.ne_nil
      have first := quoting.head?_ne isQuote
      simp only [quoted, List.head?_cons, ne_eq, Option.some.injEq] at first
      have opened : start = quoteFor (c :: others) := by
        simpa [quoted] using congrArg List.head? tripled
      exact first opened

/-- A quoted text is read as one string literal, up to its last quote. -/
theorem takeString?_quotedChars {text rest : List Char}
    (apart : rest.head? ≠ some (quoteFor text))
    : Lexeme.takeString? (quotedChars text ++ rest) = some (some (quotedChars text, rest)) := by
  have isQuote := isQuote_quoteFor text
  have shape : quotedChars text ++ rest
      = quoteFor text :: (text.flatMap (quotedChar (quoteFor text)) ++ quoteFor text :: rest) := by
    simp [quotedChars]
  rw [Lexeme.takeString?, openTriple?_quotedChars apart, shape, openQuote?_quoted isQuote]
  simp only [closeString?_flatMap_quotedChar isQuote]
  rfl

/-- A text is no longer than what is written for it, by induction on the text. -/
theorem length_le_length_flatMap_quotedChar {quote : Char} (isQuote : IsQuote quote)
    (text : List Char)
    : text.length ≤ (text.flatMap (quotedChar quote)).length := by
  induction text with
  | nil => exact Nat.le_refl 0
  | cons c rest ih =>
      have nonempty := List.length_pos_of_ne_nil (quoting_quotedChar isQuote c).ne_nil
      rw [List.flatMap_cons, List.length_append, List.length_cons]
      omega

/-- The literal denotes the text. -/
theorem piece?_quotedChars (text : List Char)
    : Literal.piece? (quotedChars text) = some (.text (text.map Char.toNat)) := by
  have isQuote := isQuote_quoteFor text
  have single : openTriple? (quotedChars text ++ []) = none := openTriple?_quotedChars (by simp)
  rw [List.append_nil] at single
  have written : Literal.split? (quotedChars text)
      = some ⟨[], text.flatMap (quotedChar (quoteFor text))⟩ := by
    rw [Literal.split?, single, quotedChars, List.cons_append, openQuote?_quoted isQuote]
    simp
  have decoded := decodeEscapes?_flatMap_quotedChar isQuote text
    (length_le_length_flatMap_quotedChar isQuote text)
  rw [Literal.piece?, written]
  simp only [Option.bind_some, List.contains_nil, Bool.false_eq_true, if_false, Literal.decode?,
    decoded, Option.map_some]

/-- The literal stands on one line. -/
theorem not_isLineBreak_of_mem_quotedChars {text : List Char} {c : Char}
    (member : c ∈ quotedChars text)
    : isLineBreak c = false := by
  have isQuote := isQuote_quoteFor text
  have quoteFits : isLineBreak (quoteFor text) = false := by
    rcases isQuote with same | same <;> rw [same] <;> rfl
  simp only [quotedChars, List.mem_cons, List.mem_append, List.mem_flatMap, List.not_mem_nil,
    or_false] at member
  rcases member with (rfl | ⟨other, _, inside⟩) | rfl
  · exact quoteFits
  · exact (quoting_quotedChar isQuote other).not_isLineBreak c inside
  · exact quoteFits

end LiteralEnum.Target
