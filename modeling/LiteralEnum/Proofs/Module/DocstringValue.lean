import LiteralEnum.Proofs.Module.DefinitionReading
import LiteralEnum.Proofs.Module.DocstringLines
import LiteralEnum.Proofs.Text.Blank
import LiteralEnum.Proofs.Text.Lines
import Mathlib.Data.List.DropRight
import Mathlib.Data.List.Infix

/-! What the string literal of a doc text denotes. The literal is complete and denotes the text,
with its later lines indented, unless the double quotes at the end of the text come in threes: then
the last of them is escaped twice.
-/

namespace LiteralEnum.Module.Docstring

open Target

-----------------------------------------------------------------------------------------
-- Written text and what it stands for
-----------------------------------------------------------------------------------------

/-- Written text stands for a text: a backslash takes a backslash or a double quote with it, and
all other characters stand for themselves. No three double quotes that stand for themselves are in
a row, not even with what follows the written text.
-/
inductive Spells (tail : List Char) : List Char → List Char → Prop where
  | nil : Spells tail [] []
  | pair {c : Char} {written text : List Char} (known : c = '\\' ∨ c = '"')
      (later : Spells tail written text) : Spells tail ('\\' :: c :: written) (c :: text)
  | single {c : Char} {written text : List Char} (notBackslash : c ≠ '\\')
      (notTriple : ¬ quotes <+: c :: (written ++ tail)) (later : Spells tail written text)
      : Spells tail (c :: written) (c :: text)

namespace Spells

variable {tail written text more others : List Char}

/-- A character that is neither a quote nor a backslash stands for itself. -/
theorem cons {c : Char} (notBackslash : c ≠ '\\') (notQuote : c ≠ '"')
    (later : Spells tail written text) : Spells tail (c :: written) (c :: text) :=
  .single notBackslash (fun tripled => notQuote (List.cons_prefix_cons.mp tripled).1.symm) later

theorem append (first : Spells (more ++ tail) written text) (second : Spells tail more others)
    : Spells tail (written ++ more) (text ++ others) := by
  induction first with
  | nil => exact second
  | pair known _ ih => exact .pair known ih
  | single notBackslash notTriple _ ih =>
      refine .single notBackslash (fun tripled => notTriple ?_) ih
      rwa [← List.append_assoc]

/-- Spaces stand for themselves. -/
theorem append_spaces (later : Spells tail written text) (count : Nat)
    : Spells tail (List.replicate count ' ' ++ written) (List.replicate count ' ' ++ text) := by
  induction count with
  | zero => exact later
  | succ count ih => exact .cons (by decide) (by decide) ih

/-- The written text is blank where the text is. -/
theorem all_isBlank (spells : Spells tail written text)
    : written.all Text.isBlank = text.all Text.isBlank := by
  induction spells with
  | nil => rfl
  | @pair c written text known _ _ =>
      have visible : Text.isBlank c = false := by rcases known with rfl | rfl <;> decide
      have backslash : Text.isBlank '\\' = false := by decide
      simp only [List.all_cons, backslash, visible, Bool.false_and]
  | single _ _ _ ih => rw [List.all_cons, List.all_cons, ih]

/-- The written text is read as the text. Every step takes a character, so that the length of what
is written is fuel enough.
-/
theorem decodeEscapes? (spells : Spells tail written text) {fuel : Nat}
    (enough : written.length ≤ fuel)
    : Literal.decodeEscapes? false fuel written = some (text.map Char.toNat) := by
  induction spells generalizing fuel with
  | nil => cases fuel <;> rfl
  | @pair c written text known _ ih =>
      rw [List.length_cons, List.length_cons] at enough
      obtain ⟨fuel, rfl⟩ : ∃ less, fuel = less + 1 := Nat.exists_eq_add_one.mpr (by omega)
      have taken : Literal.takeEscape? false (c :: written) = some ([c.toNat], written) := by
        rcases known with rfl | rfl <;> rfl
      rw [Literal.decodeEscapes?, taken, Option.bind_some]
      dsimp only
      rw [ih (by omega)]
      rfl
  | single notBackslash _ _ ih =>
      rw [List.length_cons] at enough
      obtain ⟨fuel, rfl⟩ : ∃ less, fuel = less + 1 := Nat.exists_eq_add_one.mpr (by omega)
      rw [Literal.decodeEscapes?.eq_4, ih (by omega)]
      · rfl
      · exact notBackslash

/-- The three quotes behind written text close the string. -/
theorem closeLongString? {rest : List Char} (spells : Spells (quotes ++ rest) written text)
    (read : List Char)
    : Lexeme.closeLongString? '"' read (written ++ quotes ++ rest)
      = some (read.reverse ++ written ++ quotes, rest) := by
  induction spells generalizing read with
  | nil => simp [Lexeme.closeLongString?, quotes]
  | pair _ _ ih =>
      rw [List.cons_append, List.cons_append, List.cons_append, List.cons_append,
        Lexeme.closeLongString?, ih]
      simp
  | @single c written text notBackslash notTriple _ ih =>
      rw [List.cons_append, List.cons_append, Lexeme.closeLongString?, if_neg, ih]
      · simp
      · rwa [triple_iff, List.append_assoc]
      · exact fun _ _ same _ => notBackslash same

end Spells

-----------------------------------------------------------------------------------------
-- Double quotes at the end
-----------------------------------------------------------------------------------------

/-- The number of double quotes at the end of a text. -/
def closingQuotes (text : List Char) : Nat := (text.rtakeWhile (· = '"')).length

/-- There are double quotes at the end, and they come in threes. -/
def EndsTripled (text : List Char) : Prop := closingQuotes text ≠ 0 ∧ closingQuotes text % 3 = 0

instance (text : List Char) : Decidable (EndsTripled text) := inferInstanceAs (Decidable (_ ∧ _))

/-- A text is what stands before the double quotes at its end, and these. -/
theorem exists_front (text : List Char)
    : ∃ front, text = front ++ List.replicate (closingQuotes text) '"'
        ∧ front.getLast? ≠ some '"' := by
  refine ⟨text.rdropWhile (· = '"'), ?_, ?_⟩
  · have quotes : text.rtakeWhile (· = '"') = List.replicate (closingQuotes text) '"' :=
      List.eq_replicate_iff.mpr ⟨rfl, fun c member => by
        simpa using List.mem_rtakeWhile_imp member⟩
    rw [← quotes, List.rdropWhile_append_rtakeWhile]
  · intro last
    obtain ⟨front, same⟩ := List.getLast?_eq_some_iff.mp last
    have other := List.rdropWhile_last_not (· = '"') text (by simp [same])
    simp [same] at other

/-- Text stays apart from what follows it, so that no three quotes reach over its end. -/
def StaysApart (text tail : List Char) : Prop := text.getLast? ≠ some '"' ∨ tail.head? ≠ some '"'

theorem StaysApart.tail {c : Char} {rest tail : List Char} (apart : StaysApart (c :: rest) tail)
    : StaysApart rest tail := by
  refine apart.imp_left fun other last => other ?_
  rw [List.getLast?_cons, last]
  rfl

/-- Three quotes that start in a text that stays apart are in the text. -/
theorem StaysApart.prefix_of_append {c : Char} {rest tail : List Char}
    (apart : StaysApart (c :: rest) tail) (tripled : quotes <+: c :: (rest ++ tail))
    : quotes <+: c :: rest := by
  obtain ⟨others, same⟩ := tripled
  obtain ⟨rfl, doubled⟩ := List.cons.inj same
  rcases rest with _ | ⟨second, _ | ⟨third, more⟩⟩
  · have behind : '"' :: '"' :: others = tail := doubled
    exact (apart.elim (absurd rfl) (fun other => other (behind ▸ rfl))).elim
  · obtain ⟨rfl, single⟩ := List.cons.inj doubled
    have behind : '"' :: others = tail := single
    exact (apart.elim (absurd rfl) (fun other => other (behind ▸ rfl))).elim
  · obtain ⟨rfl, single⟩ := List.cons.inj doubled
    obtain ⟨rfl, -⟩ := List.cons.inj single
    exact List.prefix_append quotes more

theorem escape_append {front rest : List Char} (apart : StaysApart front rest)
    : escape (front ++ rest) = escape front ++ escape rest := by
  induction front using escapeTriples.induct with
  | case1 others ih => exact congrArg ("\\\"\\\"\\\"".toList ++ ·) (ih apart.tail.tail.tail)
  | case2 c others notTriple ih =>
      have notTriple := not_prefix_of_ne notTriple
      by_cases backslash : c = '\\'
      · subst backslash
        exact congrArg ("\\\\".toList ++ ·) (ih apart.tail)
      have behind : ¬ quotes <+: c :: (others ++ rest) := fun tripled =>
        notTriple (apart.prefix_of_append tripled)
      rw [List.cons_append, escape_cons backslash behind, escape_cons backslash notTriple,
        ih apart.tail]
      rfl
  | case3 => rfl

/-- The last character stays the last one. -/
theorem getLast?_escape (text : List Char) : (escape text).getLast? = text.getLast? := by
  induction text using escapeTriples.induct with
  | case1 rest ih =>
      have written : escape ('"' :: '"' :: '"' :: rest) = "\\\"\\\"\\\"".toList ++ escape rest := rfl
      rw [written, List.getLast?_append, ih]
      simp [List.getLast?_cons]
  | case2 c rest notTriple ih =>
      by_cases backslash : c = '\\'
      · subst backslash
        have written : escape ('\\' :: rest) = '\\' :: '\\' :: escape rest := rfl
        rw [written, List.getLast?_cons, List.getLast?_cons, List.getLast?_cons, ih]
        rfl
      · rw [escape_cons backslash (not_prefix_of_ne notTriple), List.getLast?_cons,
          List.getLast?_cons, ih]
  | case3 => rfl

/-- An escaped text stands for the text, by induction along its triple quotes. -/
theorem spells_escape {text tail : List Char} (apart : StaysApart text tail)
    : Spells tail (escape text) text := by
  induction text using escapeTriples.induct with
  | case1 rest ih =>
      exact .pair (.inr rfl) (.pair (.inr rfl) (.pair (.inr rfl) (ih apart.tail.tail.tail)))
  | case2 c rest notTriple ih =>
      by_cases backslash : c = '\\'
      · subst backslash
        exact .pair (.inl rfl) (ih apart.tail)
      have isSealed := sealed_escape (c :: rest)
      have last := getLast?_escape (c :: rest)
      rw [escape_cons backslash (not_prefix_of_ne notTriple)] at isSealed last ⊢
      have written : StaysApart (c :: escape rest) tail := by rwa [StaysApart, last]
      exact .single backslash
        (fun tripled => isSealed.not_starts backslash (written.prefix_of_append tripled))
        (ih apart.tail)
  | case3 => exact .nil

-----------------------------------------------------------------------------------------
-- What stands between the quotes
-----------------------------------------------------------------------------------------

/-- Three double quotes, each escaped. -/
def escapedTriple : List Char := "\\\"\\\"\\\"".toList

/-- Double quotes are escaped three at a time, and the others stay. -/
theorem escape_quotes (triples : Nat) {less : Nat} (isLess : less < 3)
    : escape (List.replicate (3 * triples + less) '"')
      = (List.replicate triples escapedTriple).flatten ++ List.replicate less '"' := by
  induction triples with
  | zero =>
      obtain rfl | rfl | rfl : less = 0 ∨ less = 1 ∨ less = 2 := by omega
      all_goals rfl
  | succ triples ih =>
      have more : 3 * (triples + 1) + less = 3 * triples + less + 1 + 1 + 1 := by omega
      rw [more, List.replicate_succ, List.replicate_succ, List.replicate_succ,
        List.replicate_succ, List.flatten_cons, List.append_assoc, ← ih]
      rfl

theorem spells_triples (tail : List Char) (triples : Nat)
    : Spells tail (List.replicate triples escapedTriple).flatten
        (List.replicate (3 * triples) '"') := by
  induction triples with
  | zero => exact .nil
  | succ triples ih =>
      have more : 3 * (triples + 1) = 3 * triples + 1 + 1 + 1 := by omega
      rw [more, List.replicate_succ, List.replicate_succ, List.replicate_succ,
        List.replicate_succ, List.flatten_cons]
      exact .pair (.inr rfl) (.pair (.inr rfl) (.pair (.inr rfl) ih))

theorem escapeLast_append (front : List Char) {rest : List Char} (nonempty : rest ≠ [])
    : escapeLast (front ++ rest) = front ++ escapeLast rest := by
  induction front with
  | nil => rfl
  | cons c front ih =>
      rw [List.cons_append, escapeLast_cons (List.append_ne_nil_of_right_ne_nil front nonempty), ih]
      rfl

/-- One or two double quotes, of which the last one is escaped. -/
theorem spells_few (tail : List Char) {less : Nat} (isLess : less + 1 < 3)
    : Spells tail (escapeLast (List.replicate (less + 1) '"')) (List.replicate (less + 1) '"') := by
  have last : Spells tail ['\\', '"'] ['"'] := .pair (.inr rfl) .nil
  obtain rfl | rfl : less = 0 ∨ less = 1 := by omega
  · exact last
  · exact .single (by decide) (by simp [quotes]) last

/-- What is written before the first three quotes in a row stands for this. -/
def meant (text : List Char) : List Char :=
  if EndsTripled text then text.dropLast ++ ['\\'] else text

/-- What is left of the written text behind that. -/
def spill (text : List Char) : List Char := if EndsTripled text then ['"'] else []

/-- What stands between the quotes, whatever follows it. The quotes at the end of the text are
taken apart: those that come in threes, and the others, of which the last one is escaped.
-/
theorem exists_spelling (text : List Char)
    : ∃ written, body text = written ++ spill text ∧ ∀ tail, Spells tail written (meant text) := by
  obtain ⟨front, same, apart⟩ := exists_front text
  have front_spelled (tail : List Char) : Spells tail (escape front) front :=
    spells_escape (.inl apart)
  obtain ⟨triples, less, isLess, count⟩ : ∃ triples less, less < 3
      ∧ closingQuotes text = 3 * triples + less :=
    ⟨closingQuotes text / 3, closingQuotes text % 3, Nat.mod_lt _ (by decide),
      (Nat.div_add_mod _ 3).symm⟩
  have escaped : escape text = escape front
      ++ ((List.replicate triples escapedTriple).flatten ++ List.replicate less '"') := by
    conv_lhs => rw [same]
    rw [escape_append (.inl apart), count, escape_quotes triples isLess]
  have tripled_iff : EndsTripled text ↔ triples ≠ 0 ∧ less = 0 := by
    rw [EndsTripled, count]
    omega
  have written : body text = escapeLast (escape front
      ++ ((List.replicate triples escapedTriple).flatten ++ List.replicate less '"')) := by
    rw [← escaped]
    rfl
  rw [count, List.replicate_add] at same
  rw [written, meant, spill]
  cases less with
  | succ less =>
      rw [if_neg (by simp [tripled_iff]), if_neg (by simp [tripled_iff])]
      refine ⟨_, (List.append_nil _).symm, fun tail => ?_⟩
      rw [← List.append_assoc, escapeLast_append _ (by simp), same, List.append_assoc]
      exact (front_spelled _).append
        ((spells_triples _ triples).append (spells_few tail isLess))
  | zero =>
      cases triples with
      | zero =>
          rw [if_neg (by simp [tripled_iff]), if_neg (by simp [tripled_iff])]
          refine ⟨escape front, ?_, ?_⟩
          · have plain : escapeLast (escape front) = escape front := by
              rw [escapeLast, getLast?_escape, if_neg apart]
            simpa using plain
          · simpa [same] using front_spelled
      | succ triples =>
          rw [if_pos (by simp [tripled_iff]), if_pos (by simp [tripled_iff])]
          refine ⟨escape front ++ ((List.replicate triples escapedTriple).flatten
            ++ "\\\"\\\"\\\\".toList), ?_, fun tail => ?_⟩
          · have last : escapeLast escapedTriple = "\\\"\\\"\\\\".toList ++ ['"'] := by decide
            rw [List.replicate_zero, List.append_nil, List.replicate_succ', List.flatten_concat,
              ← List.append_assoc, escapeLast_append _ (by decide), last]
            simp only [List.append_assoc]
          · have whole : text = front ++ List.replicate (3 * triples) '"' ++ ['"', '"', '"'] := by
              rw [same, Nat.mul_succ, List.replicate_add, List.append_assoc, List.append_assoc]
              rfl
            rw [whole, List.dropLast_append_of_ne_nil (by simp), List.append_assoc,
              List.append_assoc]
            exact (front_spelled _).append ((spells_triples _ triples).append
              (.pair (.inr rfl) (.pair (.inr rfl) (.pair (.inl rfl) .nil))))

-----------------------------------------------------------------------------------------
-- Lines
-----------------------------------------------------------------------------------------

/-- A written line stands for a line of the text. -/
def SpellsLine (line source : List Char) : Prop := ∀ rest, Spells ('\n' :: rest) line source

/-- Written text stands for a text line by line, by induction on it. -/
theorem Spells.splitAt {tail written text : List Char} (spells : Spells tail written text)
    : List.Forall₂ SpellsLine (Text.splitAt '\n' written) (Text.splitAt '\n' text) := by
  have parts {lines sources : List (List Char)} (all : List.Forall₂ SpellsLine lines sources)
      : SpellsLine (lines.headD []) (sources.headD [])
        ∧ List.Forall₂ SpellsLine lines.tail sources.tail := by
    cases all with
    | nil => exact ⟨fun _ => .nil, .nil⟩
    | cons first later => exact ⟨first, later⟩
  induction spells with
  | nil => exact .cons (fun _ => .nil) .nil
  | @pair c written text known _ ih =>
      obtain ⟨first, later⟩ := parts ih
      have notBreak : c ≠ '\n' := by rcases known with rfl | rfl <;> decide
      simp only [Text.splitAt, if_neg notBreak, if_neg (show '\\' ≠ '\n' by decide),
        List.headD_cons, List.tail_cons]
      exact .cons (fun rest => .pair known (first rest)) later
  | @single c written text notBackslash notTriple _ ih =>
      obtain ⟨first, later⟩ := parts ih
      simp only [Text.splitAt]
      split
      · exact .cons (fun _ => .nil) ih
      refine .cons (fun rest => .single notBackslash (fun tripled => notTriple ?_) (first rest)) later
      have inLine : quotes <+: c :: (Text.splitAt '\n' written).headD [] :=
        StaysApart.prefix_of_append (.inr (by simp)) tripled
      have inWritten := (headD_splitAt_isPrefix '\n' written).trans (List.prefix_append written tail)
      exact inLine.trans (List.cons_prefix_cons.mpr ⟨rfl, inWritten⟩)

/-- A line after the first, behind its line feed. A blank line is only the line feed. -/
def laterValue (indent line : List Char) : List Char :=
  '\n' :: if line.all Text.isBlank then [] else indent ++ line

/-- What the literal of a doc text denotes: the text itself if it is one line, and otherwise the
text with its later lines indented, and a last line with the indent only.
-/
def value (indent text : List Char) : List Char :=
  match Text.splitAt '\n' text with
  | first :: second :: later =>
      first ++ (second :: later).flatMap (laterValue indent) ++ '\n' :: indent
  | _ => text

theorem value_of_single {text : List Char} (single : '\n' ∉ text) (indent : List Char)
    : value indent text = text := by
  rw [value, Text.splitAt_of_not_mem single]

/-- The value has the characters of the text, and else only spaces and line feeds. -/
theorem mem_of_mem_value {width : Nat} {text : List Char} {c : Char}
    (member : c ∈ value (List.replicate width ' ') text) : c ∈ text ∨ c = ' ' ∨ c = '\n' := by
  have ofPiece {line : List Char} (isLine : line ∈ Text.splitAt '\n' text) (inLine : c ∈ line)
      : c ∈ text := by
    have inPieces := List.mem_flatten.mpr ⟨line, isLine, inLine⟩
    rw [Text.flatten_splitAt] at inPieces
    exact List.mem_of_mem_filter inPieces
  have ofIndent (inIndent : c ∈ List.replicate width ' ') : c = ' ' :=
    List.eq_of_mem_replicate inIndent
  rw [value] at member
  split at member
  next first second later pieces =>
    rw [pieces] at ofPiece
    rcases List.mem_append.mp member with inLines | last
    · rcases List.mem_append.mp inLines with inFirst | inLater
      · exact .inl (ofPiece List.mem_cons_self inFirst)
      · obtain ⟨line, isLine, inLine⟩ := List.mem_flatMap.mp inLater
        rcases List.mem_cons.mp inLine with feed | inLine
        · exact .inr (.inr feed)
        split at inLine
        · cases inLine
        rcases List.mem_append.mp inLine with inIndent | inLine
        · exact .inr (.inl (ofIndent inIndent))
        · exact .inl (ofPiece (List.mem_cons_of_mem first isLine) inLine)
    · exact .inr ((List.mem_cons.mp last).symm.imp_left ofIndent)
  next => exact .inl member

/-- The characters that are not blank are those of the text, in their order. -/
theorem filter_value (width : Nat) (text : List Char)
    : (value (List.replicate width ' ') text).filter (!Text.isBlank ·)
      = text.filter (!Text.isBlank ·) := by
  have blanks : Text.isBlank ' ' = true ∧ Text.isBlank '\n' = true := by decide
  have indents : (List.replicate width ' ').filter (!Text.isBlank ·) = [] := by
    rw [List.filter_replicate_of_neg (by simp [blanks.1])]
  have pieces : text.filter (!Text.isBlank ·)
      = (Text.splitAt '\n' text).flatten.filter (!Text.isBlank ·) := by
    rw [Text.flatten_splitAt, List.filter_filter]
    refine List.filter_congr fun c _ => ?_
    by_cases feed : c = '\n'
    · simp [feed, blanks.2]
    · simp [feed]
  have later (line : List Char)
      : (laterValue (List.replicate width ' ') line).filter (!Text.isBlank ·)
        = line.filter (!Text.isBlank ·) := by
    rw [laterValue, List.filter_cons_of_neg (by simp [blanks.2])]
    split
    next allBlank =>
      rw [List.filter_nil, eq_comm, List.filter_eq_nil_iff]
      simpa using allBlank
    next => rw [List.filter_append, indents, List.nil_append]
  rw [pieces, value]
  split
  next first second others same =>
    rw [same, List.filter_append, List.filter_append, List.filter_cons_of_neg (by simp [blanks.2]),
      indents, List.append_nil, List.flatten_cons, List.filter_append, List.filter_flatMap,
      List.flatten_eq_flatMap, List.filter_flatMap]
    exact congrArg _ (List.flatMap_congr fun line _ => later line)
  next => exact pieces

-----------------------------------------------------------------------------------------
-- The whole literal
-----------------------------------------------------------------------------------------

/-- What the written text stands for: the text, with a backslash too many before its last quote if
its quotes come in threes.
-/
def said (text : List Char) : List Char := meant text ++ spill text

theorem said_of_not_tripled {text : List Char} (regular : ¬ EndsTripled text)
    : said text = text := by
  rw [said, meant, spill, if_neg regular, if_neg regular, List.append_nil]

theorem exists_said_of_tripled {text : List Char} (tripled : EndsTripled text)
    : ∃ front, text = front ++ ['"'] ∧ said text = front ++ ['\\', '"'] := by
  obtain ⟨front, same, -⟩ := exists_front text
  obtain ⟨less, count⟩ := Nat.exists_eq_succ_of_ne_zero tripled.1
  rw [count, Nat.succ_eq_add_one, List.replicate_succ', ← List.append_assoc] at same
  refine ⟨_, same, ?_⟩
  rw [said, meant, spill, if_pos tripled, if_pos tripled]
  conv_lhs => rw [same, List.dropLast_concat]
  simp

/-- No line feed is lost. -/
theorem mem_said {text : List Char} (several : '\n' ∈ text) : '\n' ∈ said text := by
  by_cases tripled : EndsTripled text
  · obtain ⟨front, same, isSaid⟩ := exists_said_of_tripled tripled
    rw [same] at several
    rw [isSaid]
    simpa using several
  · rwa [said_of_not_tripled tripled]

theorem spells_body {text tail : List Char} (apart : tail.head? ≠ some '"')
    : Spells tail (body text) (said text) := by
  obtain ⟨written, same, spelled⟩ := exists_spelling text
  rw [same, said]
  refine (spelled _).append ?_
  rw [spill]
  split
  · refine .single (by decide) (fun tripled => ?_) .nil
    obtain ⟨others, same⟩ := tripled
    have behind : '"' :: '"' :: others = tail := (List.cons.inj same).2
    exact apart (behind ▸ rfl)
  · exact .nil

/-- The lines behind the first one, up to a line feed. -/
theorem spells_later {lines sources : List (List Char)}
    (spelled : List.Forall₂ SpellsLine lines sources) (width : Nat) (rest : List Char)
    : Spells ('\n' :: rest)
        (lines.flatMap fun line => '\n' :: laterLine (List.replicate width ' ') line)
        (sources.flatMap (laterValue (List.replicate width ' '))) := by
  induction spelled with
  | nil => exact .nil
  | @cons line source lines sources first _ ih =>
      rw [List.flatMap_cons, List.flatMap_cons]
      refine .append (.cons (by decide) (by decide) ?_) ih
      obtain ⟨others, starts⟩ : ∃ others, (lines.flatMap fun line =>
          '\n' :: laterLine (List.replicate width ' ') line) ++ '\n' :: rest = '\n' :: others := by
        cases lines <;> exact ⟨_, rfl⟩
      rw [starts, laterLine, Text.isEmpty_strip, (first others).all_isBlank]
      split
      · exact .nil
      · exact (first others).append_spaces width

/-- The lines of a doc text, joined by line feeds. -/
def joined (width : Nat) (text : String) : List Char :=
  (String.intercalate "\n" (docstring (Reading.spaces width) text)).toList

theorem joined_eq (width : Nat) (text : String)
    : joined width text = ['\n'].intercalate (lines (List.replicate width ' ') text.toList) := by
  have feed : "\n".toList = ['\n'] := rfl
  simp [joined, docstring, Reading.toList_spaces, feed, Function.comp_def]

/-- A text on one line stands between the quotes as it is written. -/
theorem joined_of_single {text : String} (single : '\n' ∉ text.toList) (width : Nat)
    : joined width text = List.replicate width ' ' ++ (quotes ++ body text.toList ++ quotes) := by
  rw [joined_eq, lines_of_single single, Text.intercalate_cons]
  simp [line]

/-- A text on several lines stands between the quotes line by line. -/
theorem exists_joined_of_several {text : String} (several : '\n' ∈ text.toList) (width : Nat)
    : ∃ inner, joined width text = List.replicate width ' ' ++ (quotes ++ inner ++ quotes)
        ∧ ∀ tail, Spells tail inner (value (List.replicate width ' ') (said text.toList)) := by
  obtain ⟨first, second, later, pieces⟩ := Text.exists_splitAt_of_mem (mem_said several)
  have inWhole : Spells ['\n'] (body text.toList) (said text.toList) := spells_body (by simp)
  have spelled := inWhole.splitAt
  rw [pieces] at spelled
  generalize written : Text.splitAt '\n' (body text.toList) = lines at spelled
  cases spelled with
  | @cons opening _ others _ isFirst areLater =>
      cases areLater with
      | @cons next _ others _ isNext areOthers =>
          have indent (tail : List Char) : Spells tail ('\n' :: List.replicate width ' ')
              ('\n' :: List.replicate width ' ') := by
            have spaces : Spells tail (List.replicate width ' ' ++ [])
                (List.replicate width ' ' ++ []) := Spells.nil.append_spaces width
            rw [List.append_nil] at spaces
            exact .cons (by decide) (by decide) spaces
          refine ⟨opening ++ ((next :: others).flatMap fun line =>
            '\n' :: laterLine (List.replicate width ' ') line) ++ '\n' :: List.replicate width ' ',
            ?_, fun tail => ?_⟩
          · rw [joined_eq, Docstring.lines, written]
            dsimp only
            rw [List.cons_append, Text.intercalate_cons]
            simp [List.flatMap_append, List.flatMap_map]
          · rw [value, pieces]
            refine .append (.append ?_ ?_) (indent tail)
            · exact isFirst _
            · exact spells_later (.cons isNext areOthers) width _

-----------------------------------------------------------------------------------------
-- The literal as the reader sees it
-----------------------------------------------------------------------------------------

/-- A text is one string literal in three double quotes and nothing else, with this value. -/
structure IsDocLiteral (literal value : List Char) : Prop where
  opens : quotes <+: literal
  isAlone : Lexeme.ofText? literal = some [.string literal, .newline]
  denotes : Literal.piece? literal = some (.text (value.map Char.toNat))

/-- What is written has the characters of the text, and else only backslashes. -/
theorem Spells.mem {tail written text : List Char} (spells : Spells tail written text) {c : Char}
    (member : c ∈ written) : c ∈ text ∨ c = '\\' := by
  induction spells with
  | nil => cases member
  | pair _ _ ih =>
      rcases List.mem_cons.mp member with backslash | later
      · exact .inr backslash
      rcases List.mem_cons.mp later with rfl | later
      · exact .inl List.mem_cons_self
      · exact (ih later).imp_left (List.mem_cons_of_mem _)
  | single _ _ _ ih =>
      rcases List.mem_cons.mp member with rfl | later
      · exact .inl List.mem_cons_self
      · exact (ih later).imp_left (List.mem_cons_of_mem _)

/-- Three double quotes at the start of a text open a string, which is closed somewhere. -/
theorem scan?_quotes (fuel : Nat) (rest : List Char)
    : Lexeme.scan? (fuel + 2) {} true ('"' :: '"' :: '"' :: rest)
      = (Lexeme.closeLongString? '"' ['"', '"', '"'] rest).bind fun found =>
          (Lexeme.scan? fuel {} false found.2).map (.string found.1 :: ·) := by
  have measured : Lexeme.measure? ⟨0, 0⟩ 0 ('"' :: '"' :: '"' :: rest)
      = some (⟨0, 0⟩, '"' :: '"' :: '"' :: rest) := rfl
  have sameBlock : Lexeme.changeBlocks? ⟨0, 0⟩ [] = some ([], []) := by decide
  have noSpacing : ('"' :: '"' :: '"' :: rest).dropWhile isSpacing = '"' :: '"' :: '"' :: rest :=
    rfl
  have noComment : Lexeme.dropComment ('"' :: '"' :: '"' :: rest) = '"' :: '"' :: '"' :: rest :=
    rfl
  have taken : Lexeme.takeLexeme? {} ('"' :: '"' :: '"' :: rest)
      = (Lexeme.closeLongString? '"' ['"', '"', '"'] rest).map fun found =>
          (.string found.1, {}, found.2) := by
    rw [Lexeme.takeLexeme?, Lexeme.takeString?, openTriple?_quotes]
    rfl
  have inLine : Lexeme.scan? (fuel + 1) {} false ('"' :: '"' :: '"' :: rest)
      = (Lexeme.closeLongString? '"' ['"', '"', '"'] rest).bind fun found =>
          (Lexeme.scan? fuel {} false found.2).map (.string found.1 :: ·) := by
    rw [Lexeme.scan?, if_neg Bool.false_ne_true, noSpacing, noComment]
    simp only [List.cons.injEq, Char.reduceEq, false_and, imp_self, implies_true, taken]
    cases Lexeme.closeLongString? '"' ['"', '"', '"'] rest <;> rfl
  rw [Lexeme.scan?, if_pos rfl, measured]
  dsimp only
  rw [if_neg (by decide), if_pos List.isEmpty_nil, sameBlock]
  dsimp only
  rw [inLine]
  simp

theorem ofText?_quotes {inner : List Char} (noReturn : '\r' ∉ inner) (noNull : '\x00' ∉ inner)
    : Lexeme.ofText? (quotes ++ inner ++ quotes)
      = (Lexeme.closeLongString? '"' quotes.reverse (inner ++ quotes ++ ['\n'])).bind fun found =>
          (Lexeme.scan? (2 * (inner.length + 7)) {} false found.2).map (.string found.1 :: ·) := by
  have unified : Text.unifyBreaks (quotes ++ inner ++ quotes) = quotes ++ inner ++ quotes :=
    Text.unifyBreaks_of_not_mem (by simpa [quotes] using noReturn)
  have last : (quotes ++ inner ++ quotes).getLast? = some '"' := by
    rw [List.getLast?_append]
    rfl
  have completed : Lexeme.completeLine (quotes ++ inner ++ quotes)
      = '"' :: '"' :: '"' :: (inner ++ quotes ++ ['\n']) := by
    rw [Lexeme.completeLine, if_neg (by rw [last]; decide)]
    simp [quotes]
  have size : ('"' :: '"' :: '"' :: (inner ++ quotes ++ ['\n'])).length = inner.length + 7 := by
    simp [quotes]
  rw [Lexeme.ofText?, if_neg (by simpa [quotes] using noNull), unified, completed]
  dsimp only
  rw [size, scan?_quotes]
  rfl

theorem split?_quotes (written : List Char)
    : Literal.split? (quotes ++ written ++ quotes) = some ⟨[], written⟩ := by
  have opened : openTriple? (quotes ++ written ++ quotes)
      = some (['"', '"', '"'], '"', written ++ quotes) :=
    openTriple?_quotes (written ++ quotes)
  rw [Literal.split?, opened]
  simp [quotes]

/-- Written text between three quotes denotes the text. -/
theorem piece?_of_spells {tail written text : List Char} (spells : Spells tail written text)
    : Literal.piece? (quotes ++ written ++ quotes) = some (.text (text.map Char.toNat)) := by
  have decoded : Literal.decode? false false written = some (text.map Char.toNat) :=
    spells.decodeEscapes? le_rfl
  rw [Literal.piece?, split?_quotes, Option.bind_some]
  dsimp only
  rw [if_neg (by simp), if_neg (by simp), List.contains_nil, decoded]
  rfl

section Reading

variable {written text : List Char} (noReturn : '\r' ∉ text) (noNull : '\x00' ∉ text)

include noReturn noNull in
/-- Written text between three quotes is a literal of the text. -/
theorem isDocLiteral_of_spells (spells : ∀ tail, Spells tail written text)
    : IsDocLiteral (quotes ++ written ++ quotes) text := by
  have free {c : Char} (absent : c ∉ text) (other : c ≠ '\\') : c ∉ written := fun member =>
    ((spells []).mem member).elim absent other
  refine ⟨⟨written ++ quotes, (List.append_assoc ..).symm⟩, ?_, piece?_of_spells (spells [])⟩
  rw [ofText?_quotes (free noReturn (by decide)) (free noNull (by decide)),
    (spells _).closeLongString?, Option.bind_some]
  rfl

include noReturn noNull in
/-- A fourth quote behind written text is left over, and opens a string that is never closed. -/
theorem not_isDocLiteral_of_spells (spells : ∀ tail, Spells tail written text)
    (value : List Char) : ¬ IsDocLiteral (quotes ++ (written ++ ['"']) ++ quotes) value := by
  have free {c : Char} (absent : c ∉ text) (other : c ≠ '\\' ∧ c ≠ '"') : c ∉ written ++ ['"'] := by
    intro member
    rcases List.mem_append.mp member with inner | last
    · exact ((spells []).mem inner).elim absent other.1
    · exact other.2 (List.mem_singleton.mp last)
  have shifted : written ++ ['"'] ++ quotes ++ ['\n'] = written ++ quotes ++ ['"', '\n'] := by
    simp [quotes]
  intro isLiteral
  have read := isLiteral.isAlone
  rw [ofText?_quotes (free noReturn (by decide)) (free noNull (by decide)), shifted,
    (spells _).closeLongString?, Option.bind_some] at read
  have unclosed (fuel : Nat) : Lexeme.scan? fuel {} false ['"', '\n'] = none := by
    cases fuel <;> rfl
  rw [unclosed] at read
  cases read

end Reading

-----------------------------------------------------------------------------------------
-- The literal of a doc text
-----------------------------------------------------------------------------------------

theorem value_said_ne {text : List Char} (tripled : EndsTripled text) (width : Nat)
    : value (List.replicate width ' ') (said text) ≠ value (List.replicate width ' ') text := by
  obtain ⟨front, same, isSaid⟩ := exists_said_of_tripled tripled
  intro equal
  have visible := congrArg (List.filter (!Text.isBlank ·)) equal
  rw [filter_value, filter_value, isSaid] at visible
  conv_rhs at visible => rw [same]
  have backslash : Text.isBlank '\\' = false := by decide
  simp [List.filter_append, backslash] at visible

section DocText

variable {text : String} (noReturn : '\r' ∉ text.toList) (noNull : '\x00' ∉ text.toList)
  (width : Nat)

/-- The joined lines of a doc text are the indentation and one literal, which denotes the text with
its later lines indented.
-/
def Denotes (width : Nat) (text : String) : Prop :=
  ∃ literal, joined width text = List.replicate width ' ' ++ literal
    ∧ IsDocLiteral literal (value (List.replicate width ' ') text.toList)

include noReturn noNull

theorem denotes_of_not_tripled (regular : ¬ EndsTripled text.toList) : Denotes width text := by
  by_cases several : '\n' ∈ text.toList
  · obtain ⟨inner, same, spells⟩ := exists_joined_of_several several width
    rw [said_of_not_tripled regular] at spells
    have free {c : Char} (absent : c ∉ text.toList) (other : c ≠ ' ' ∧ c ≠ '\n')
        : c ∉ value (List.replicate width ' ') text.toList := fun member =>
      (mem_of_mem_value member).elim absent (fun added => added.elim other.1 other.2)
    exact ⟨_, same, isDocLiteral_of_spells (free noReturn (by decide)) (free noNull (by decide))
      spells⟩
  · obtain ⟨written, isBody, spells⟩ := exists_spelling text.toList
    rw [spill, if_neg regular, List.append_nil] at isBody
    rw [meant, if_neg regular] at spells
    rw [Denotes, value_of_single several, joined_of_single several, isBody]
    exact ⟨_, rfl, isDocLiteral_of_spells noReturn noNull spells⟩

/-- On one line the escaped quotes leave a quote over; on several lines they leave a backslash too
many.
-/
theorem not_denotes_of_tripled (tripled : EndsTripled text.toList) : ¬ Denotes width text := by
  rintro ⟨literal, same, isLiteral⟩
  by_cases several : '\n' ∈ text.toList
  · obtain ⟨inner, isJoined, spells⟩ := exists_joined_of_several several width
    rw [isJoined, List.append_cancel_left_eq] at same
    have read := isLiteral.denotes
    rw [← same, piece?_of_spells (spells [])] at read
    refine value_said_ne tripled width
      (List.map_injective_iff.mpr (fun _ _ => Char.toNat_inj.mp) ?_)
    simpa using read
  · obtain ⟨written, isBody, spells⟩ := exists_spelling text.toList
    rw [spill, if_pos tripled] at isBody
    rw [meant, if_pos tripled] at spells
    rw [joined_of_single several, isBody, List.append_cancel_left_eq] at same
    rw [← same] at isLiteral
    have free {c : Char} (absent : c ∉ text.toList) (other : c ≠ '\\')
        : c ∉ text.toList.dropLast ++ ['\\'] := fun member =>
      (List.mem_append.mp member).elim (fun inner => absent (List.mem_of_mem_dropLast inner))
        (fun last => other (List.mem_singleton.mp last))
    exact not_isDocLiteral_of_spells (free noReturn (by decide)) (free noNull (by decide)) spells
      _ isLiteral

/-- The literal of a doc text denotes the text, unless the double quotes at the end of the text come
in threes.
-/
theorem denotes_iff : Denotes width text ↔ ¬ EndsTripled text.toList :=
  ⟨fun denotes tripled => not_denotes_of_tripled noReturn noNull width tripled denotes,
    denotes_of_not_tripled noReturn noNull width⟩

end DocText

theorem denotes_quotedLines
    : '\r' ∉ "say \"\"\"hi\"\"\"\n \n  C:\\\"".toList
      ∧ '\x00' ∉ "say \"\"\"hi\"\"\"\n \n  C:\\\"".toList
      ∧ Denotes 4 "say \"\"\"hi\"\"\"\n \n  C:\\\"" :=
  ⟨by decide, by decide, (denotes_iff (by decide) (by decide) 4).mpr (by decide)⟩

/-- A quoted text in three double quotes is not denoted. -/
theorem not_denotes_tripled : ¬ Denotes 0 "a\"\"\"" :=
  not_denotes_of_tripled (by decide) (by decide) 0 (by decide)

end LiteralEnum.Module.Docstring
