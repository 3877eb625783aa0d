import LiteralEnum.Module.Docstring
import LiteralEnum.Proofs.Text.Lines
import LiteralEnum.Target.Token
import Mathlib.Data.List.Basic

/-! Where the string literal of a doc text ends: none of its lines but the last one has the
closing quotes, whatever the text is.
-/

namespace LiteralEnum.Module.Docstring

open Target

-----------------------------------------------------------------------------------------
-- Text without closing quotes
-----------------------------------------------------------------------------------------

/-- Text in which every backslash takes a character with it, not the end of a line, and
outside of such pairs no three double quotes stand in a row.
-/
inductive Sealed : List Char → Prop where
  | nil : Sealed []
  | pair (c : Char) (rest : List Char) (notBreak : c ≠ '\n') (later : Sealed rest)
      : Sealed ('\\' :: c :: rest)
  | single (c : Char) (rest : List Char) (notBackslash : c ≠ '\\')
      (notTriple : ¬ quotes <+: c :: rest) (later : Sealed rest)
      : Sealed (c :: rest)

theorem Sealed.not_starts {c : Char} {rest : List Char} (isSealed : Sealed (c :: rest))
    (notBackslash : c ≠ '\\') : ¬ quotes <+: c :: rest := by
  cases isSealed with
  | pair => exact absurd rfl notBackslash
  | single _ _ _ notTriple _ => exact notTriple

/-- A character that is neither a quote nor a backslash can stand before sealed text. -/
theorem Sealed.cons {c : Char} {rest : List Char} (notBackslash : c ≠ '\\') (notQuote : c ≠ '"')
    (later : Sealed rest)
    : Sealed (c :: rest) := by
  refine .single c rest notBackslash (fun tripled => ?_) later
  exact notQuote (List.cons_prefix_cons.mp tripled).1.symm

/-- Spaces can stand before sealed text. -/
theorem Sealed.append_spaces {rest : List Char} (later : Sealed rest) (count : Nat)
    : Sealed (List.replicate count ' ' ++ rest) := by
  induction count with
  | zero => exact later
  | succ count ih => exact .cons (by decide) (by decide) ih

/-- A scan tells three quotes by the first and the two behind it. -/
theorem triple_iff {c : Char} {rest : List Char}
    : (c = '"' ∧ rest.take 2 = ['"', '"']) ↔ quotes <+: c :: rest := by
  rw [quotes, List.cons_prefix_cons, List.prefix_iff_eq_take, @eq_comm _ c,
    @eq_comm _ (rest.take 2)]
  rfl

/-- What closes a string in three quotes starts with them. -/
theorem closeTriple?_cons {c : Char} (notBackslash : c ≠ '\\') (read rest : List Char)
    : closeTriple? '"' read (c :: rest)
      = if quotes <+: c :: rest then some (('"' :: '"' :: c :: read).reverse, rest.drop 2)
        else closeTriple? '"' (c :: read) rest := by
  rw [closeTriple?]
  · simp only [triple_iff]
  · exact fun _ _ same _ => notBackslash same
  · exact fun same _ => notBackslash same

/-- Sealed text leaves the string open, by induction on it. -/
theorem Sealed.closeTriple?_eq_none {text : List Char} (isSealed : Sealed text)
    (read : List Char)
    : closeTriple? '"' read text = none := by
  induction isSealed generalizing read with
  | nil => rfl
  | pair c rest notBreak _ ih => rw [closeTriple?, if_neg notBreak, ih]
  | single c rest notBackslash notTriple _ ih =>
      rw [closeTriple?_cons notBackslash, if_neg notTriple, ih]

/-- Behind sealed text three quotes close the string: they cannot be escaped. -/
theorem Sealed.isSome_closeTriple? {text : List Char} (isSealed : Sealed text)
    (read : List Char)
    : (closeTriple? '"' read (text ++ quotes)).isSome = true := by
  induction isSealed generalizing read with
  | nil => rfl
  | pair c rest notBreak _ ih =>
      rw [List.cons_append, List.cons_append, closeTriple?, if_neg notBreak]
      exact ih _
  | single c rest notBackslash _ _ ih =>
      rw [List.cons_append, closeTriple?_cons notBackslash]
      split
      · rfl
      · exact ih _

-----------------------------------------------------------------------------------------
-- Escaping
-----------------------------------------------------------------------------------------

/-- A text with its backslashes and its triple quotes escaped. -/
def escape (text : List Char) : List Char := escapeTriples (escapeBackslashes text)

theorem escapeBackslashes_cons {c : Char} (notBackslash : c ≠ '\\') (rest : List Char)
    : escapeBackslashes (c :: rest) = c :: escapeBackslashes rest := by
  simp [escapeBackslashes, notBackslash]

/-- Escaping backslashes makes no double quotes. -/
theorem quote_of_escapeBackslashes {text more : List Char}
    (starts : escapeBackslashes text = '"' :: more)
    : ∃ rest, text = '"' :: rest ∧ escapeBackslashes rest = more := by
  cases text with
  | nil => cases starts
  | cons c rest =>
      by_cases backslash : c = '\\'
      · subst backslash
        cases starts
      · rw [escapeBackslashes_cons backslash] at starts
        obtain ⟨rfl, rfl⟩ := List.cons.inj starts
        exact ⟨rest, rfl, rfl⟩

/-- What starts no triple quote stays as it is. -/
theorem escapeTriples_cons {c : Char} {rest : List Char}
    (notTriple : ∀ more, c :: rest ≠ '"' :: '"' :: '"' :: more)
    : escapeTriples (c :: rest) = c :: escapeTriples rest := by
  conv => lhs; unfold escapeTriples
  split
  next more same => exact absurd same (notTriple more)
  next same => cases same; rfl
  next same => cases same

/-- A character that is no backslash and starts no triple quote stays as it is. -/
theorem escape_cons {c : Char} {rest : List Char} (notBackslash : c ≠ '\\')
    (notTriple : ¬ quotes <+: c :: rest)
    : escape (c :: rest) = c :: escape rest := by
  rw [escape, escapeBackslashes_cons notBackslash, escapeTriples_cons]
  · rfl
  · intro more same
    obtain ⟨rfl, doubled⟩ := List.cons.inj same
    obtain ⟨second, rfl, single⟩ := quote_of_escapeBackslashes doubled
    obtain ⟨third, rfl, -⟩ := quote_of_escapeBackslashes single
    exact notTriple (List.prefix_append quotes third)

/-- A double quote at the start of an escaped text is one of the text. -/
theorem quote_of_escape {text more : List Char} (starts : escape text = '"' :: more)
    : ∃ rest, text = '"' :: rest ∧ escape rest = more := by
  cases text with
  | nil => cases starts
  | cons c rest =>
      by_cases backslash : c = '\\'
      · subst backslash
        cases starts
      by_cases triple : quotes <+: c :: rest
      · obtain ⟨others, same⟩ := triple
        rw [← same] at starts
        cases starts
      rw [escape_cons backslash triple] at starts
      obtain ⟨rfl, rfl⟩ := List.cons.inj starts
      exact ⟨rest, rfl, rfl⟩

/-- Text that does not have the form of a triple quote does not start with one. -/
theorem not_prefix_of_ne {c : Char} {rest : List Char}
    (notTriple : ∀ more, c = '"' → rest = '"' :: '"' :: more → False)
    : ¬ quotes <+: c :: rest := by
  rintro ⟨others, same⟩
  obtain ⟨rfl, behind⟩ := List.cons.inj same
  exact notTriple others rfl behind.symm

/-- Escaping seals a text, by induction along the triple quotes of the text. -/
theorem sealed_escape (text : List Char) : Sealed (escape text) := by
  induction text using escapeTriples.induct with
  | case1 rest ih =>
      exact .pair _ _ (by decide) (.pair _ _ (by decide) (.pair _ _ (by decide) ih))
  | case2 c rest notTriple ih =>
      have notTriple := not_prefix_of_ne notTriple
      by_cases backslash : c = '\\'
      · subst backslash
        exact .pair _ _ (by decide) ih
      rw [escape_cons backslash notTriple]
      refine .single _ _ backslash (fun tripled => notTriple ?_) ih
      obtain ⟨others, same⟩ := tripled
      obtain ⟨rfl, doubled⟩ := List.cons.inj same
      obtain ⟨second, rfl, single⟩ := quote_of_escape doubled.symm
      obtain ⟨third, rfl, -⟩ := quote_of_escape single
      exact List.prefix_append quotes third
  | case3 => exact .nil

/-- The last character of a text of at least two is not the first one. -/
theorem escapeLast_cons {c : Char} {rest : List Char} (more : rest ≠ [])
    : escapeLast (c :: rest) = c :: escapeLast rest := by
  simp only [escapeLast, List.getLast?_cons_of_ne_nil more, List.dropLast_cons_of_ne_nil more]
  split <;> rfl

/-- A backslash before the last character makes no double quotes at the start. -/
theorem quote_of_escapeLast {text more : List Char} (starts : escapeLast text = '"' :: more)
    : ∃ rest, text = '"' :: rest ∧ escapeLast rest = more := by
  cases text with
  | nil => cases starts
  | cons c rest =>
      by_cases last : rest = []
      · subst last
        by_cases quote : c = '"'
        · subst quote
          cases starts
        · rw [escapeLast, if_neg (by simpa using quote)] at starts
          exact absurd (List.cons.inj starts).1 quote
      · rw [escapeLast_cons last] at starts
        obtain ⟨rfl, rfl⟩ := List.cons.inj starts
        exact ⟨rest, rfl, rfl⟩

/-- A backslash before the last character keeps a text sealed, by induction on it. -/
theorem Sealed.escapeLast {text : List Char} (isSealed : Sealed text)
    : Sealed (escapeLast text) := by
  induction isSealed with
  | nil => exact .nil
  | pair c rest notBreak later ih =>
      rw [escapeLast_cons (List.cons_ne_nil c rest)]
      by_cases last : rest = []
      · subst last
        by_cases quote : c = '"'
        · subst quote
          exact .pair _ _ (by decide) (.single _ _ (by decide) (by decide) .nil)
        · rw [Docstring.escapeLast, if_neg (by simpa using quote)]
          exact .pair c [] notBreak .nil
      · rw [escapeLast_cons last]
        exact .pair c _ notBreak ih
  | single c rest notBackslash notTriple later ih =>
      by_cases last : rest = []
      · subst last
        by_cases quote : c = '"'
        · subst quote
          exact .pair _ _ (by decide) .nil
        · rw [Docstring.escapeLast, if_neg (by simpa using quote)]
          exact .single c [] notBackslash notTriple .nil
      · rw [escapeLast_cons last]
        refine .single c _ notBackslash (fun tripled => notTriple ?_) ih
        obtain ⟨others, same⟩ := tripled
        obtain ⟨rfl, doubled⟩ := List.cons.inj same
        obtain ⟨second, rfl, single⟩ := quote_of_escapeLast doubled.symm
        obtain ⟨third, rfl, -⟩ := quote_of_escapeLast single
        exact List.prefix_append quotes third

/-- What stands between the quotes is sealed. -/
theorem sealed_body (text : List Char) : Sealed (body text) :=
  (sealed_escape text).escapeLast

theorem not_mem_escapeTriples {c : Char} (other : c ≠ '\\' ∧ c ≠ '"') {text : List Char}
    (free : c ∉ text) : c ∉ escapeTriples text := by
  fun_induction escapeTriples text with
  | case1 rest ih => simp_all
  | case2 d rest _ ih => simp_all
  | case3 => exact free

/-- Escaping brings in backslashes and double quotes only. -/
theorem not_mem_body {c : Char} (other : c ≠ '\\' ∧ c ≠ '"') {text : List Char} (free : c ∉ text)
    : c ∉ body text := by
  have backslashes : c ∉ escapeBackslashes text := by
    intro member
    obtain ⟨d, isPart, inPair⟩ := List.mem_flatMap.mp member
    split at inPair
    · simp [other.1] at inPair
    · exact free (List.mem_singleton.mp inPair ▸ isPart)
  have triples := not_mem_escapeTriples other backslashes
  rw [body, escapeLast]
  split
  · simp only [List.mem_append, List.mem_cons, List.not_mem_nil, or_false, not_or]
    exact ⟨fun member => triples ((List.dropLast_sublist _).subset member), other⟩
  · exact triples

-----------------------------------------------------------------------------------------
-- Lines
-----------------------------------------------------------------------------------------

/-- The first piece of a text is its start, by induction on the text. -/
theorem headD_splitAt_isPrefix (separator : Char) (text : List Char)
    : (Text.splitAt separator text).headD [] <+: text := by
  induction text with
  | nil => exact List.prefix_refl []
  | cons c rest ih =>
      rw [Text.splitAt]
      split
      · exact List.nil_prefix
      · exact List.cons_prefix_cons.mpr ⟨rfl, ih⟩

theorem Sealed.headD {pieces : List (List Char)} (areSealed : ∀ piece ∈ pieces, Sealed piece)
    : Sealed (pieces.headD []) := by
  cases pieces with
  | nil => exact .nil
  | cons first others => exact areSealed first List.mem_cons_self

/-- The lines of a sealed text are sealed, by induction on the text: no pair holds the end of
a line, and the start of a text has no triple quotes that the text does not have.
-/
theorem Sealed.splitAt {text : List Char} (isSealed : Sealed text)
    : ∀ line ∈ Text.splitAt '\n' text, Sealed line := by
  induction isSealed with
  | nil => exact fun line member => List.mem_singleton.mp member ▸ .nil
  | pair c rest notBreak _ ih =>
      have first := Sealed.pair c _ notBreak (Sealed.headD ih)
      intro line member
      simp only [Text.splitAt, if_neg notBreak, List.headD_cons, List.tail_cons,
        if_neg (show '\\' ≠ '\n' by decide)] at member
      rcases List.mem_cons.mp member with rfl | later
      · exact first
      · exact ih line (List.mem_of_mem_tail later)
  | single c rest notBackslash notTriple _ ih =>
      have start := headD_splitAt_isPrefix '\n' rest
      have first := Sealed.single c _ notBackslash
        (fun tripled => notTriple (tripled.trans (List.cons_prefix_cons.mpr ⟨rfl, start⟩)))
        (Sealed.headD ih)
      intro line member
      rw [Text.splitAt] at member
      split at member
      · rcases List.mem_cons.mp member with rfl | later
        · exact .nil
        · exact ih line later
      · rcases List.mem_cons.mp member with rfl | later
        · exact first
        · exact ih line (List.mem_of_mem_tail later)

/-- A later line that is indented by spaces stays sealed. -/
theorem Sealed.laterLine {line : List Char} (isSealed : Sealed line) (width : Nat)
    : Sealed (laterLine (List.replicate width ' ') line) := by
  rw [Docstring.laterLine]
  split
  · exact .nil
  · exact isSealed.append_spaces width

/-- The literal of a doc text on one line. -/
def line (text : List Char) : List Char := quotes ++ body text ++ quotes

theorem lines_of_single {text : List Char} (single : '\n' ∉ text) (indent : List Char)
    : lines indent text = [indent ++ line text] := by
  have free : '\n' ∉ body text := not_mem_body (by decide) single
  rw [lines, Text.splitAt_of_not_mem free]
  simp [line]

/-- What the lines of a doc text are: one line with quotes at both ends, or the opening
quotes with a first line, later lines, and the closing quotes.
-/
theorem lines_cases (width : Nat) (text : List Char)
    : (∃ line, Sealed line
        ∧ lines (List.replicate width ' ') text
          = [List.replicate width ' ' ++ quotes ++ line ++ quotes])
      ∨ ∃ first later, Sealed first ∧ (∀ line ∈ later, Sealed line)
        ∧ lines (List.replicate width ' ') text
          = (List.replicate width ' ' ++ quotes ++ first) :: later
            ++ [List.replicate width ' ' ++ quotes] := by
  have areSealed := (sealed_body text).splitAt
  rw [lines]
  split
  next => exact Or.inl ⟨[], .nil, by simp⟩
  next line same => exact Or.inl ⟨line, areSealed line (by simp [same]), rfl⟩
  next first later _ same =>
    rw [same] at areSealed
    refine Or.inr ⟨first, later.map (laterLine _), areSealed first List.mem_cons_self, ?_, rfl⟩
    intro line member
    obtain ⟨source, isLater, rfl⟩ := List.mem_map.mp member
    exact (areSealed source (List.mem_cons_of_mem first isLater)).laterLine width

end LiteralEnum.Module.Docstring
