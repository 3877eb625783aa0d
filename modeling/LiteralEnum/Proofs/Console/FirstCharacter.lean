import LiteralEnum.Console.Emoji
import LiteralEnum.Console.Wrap
import Mathlib.Data.List.Basic

/-! What a printed text starts with. A text that starts with a letter is printed with that letter
in front, whatever follows and however long the text is.
-/

namespace LiteralEnum.Console

variable {c : Char}

/-- A letter, or one of the marks between the letters of either case. -/
def IsLetter (c : Char) : Prop := 65 ≤ c.toNat ∧ c.toNat ≤ 122

instance (c : Char) : Decidable (IsLetter c) :=
  inferInstanceAs (Decidable (65 ≤ c.toNat ∧ c.toNat ≤ 122))

theorem IsLetter.ne (isLetter : IsLetter c) (other : Char) (small : other.toNat < 65)
    : c ≠ other := by
  intro same
  subst same
  have := isLetter.1
  omega

theorem IsLetter.isHidden (isLetter : IsLetter c) : isHidden c = false := by
  have above := isLetter.1
  simp only [Console.isHidden, List.contains_eq_mem, List.mem_cons, List.not_mem_nil, or_false,
    decide_eq_false_iff_not]
  omega

theorem IsLetter.charWidth (isLetter : IsLetter c) : charWidth c = 1 := by
  obtain ⟨above, below⟩ := isLetter
  rw [Console.charWidth, if_pos ⟨by omega, by omega⟩]

/-- The first piece of a text starts as the text does. -/
theorem splitAt_cons {separator : Char} (apart : c ≠ separator) (text : List Char)
    : ∃ first others, Text.splitAt separator (c :: text) = (c :: first) :: others := by
  rw [Text.splitAt, if_neg apart]
  exact ⟨_, _, rfl⟩

theorem expandTabs_cons (isLetter : IsLetter c) (line : List Char)
    : ∃ rest, expandTabs (c :: line) = c :: rest := by
  obtain ⟨first, others, split⟩ :=
    splitAt_cons (isLetter.ne '\t' (by decide)) line
  rw [expandTabs, split]
  cases others with
  | nil => exact ⟨_, rfl⟩
  | cons piece others => exact ⟨_, rfl⟩

theorem ne_zero_of_mem_breaksBefore {start : Nat} {pieces : List (List Char)}
    : ∀ offset ∈ breaksBefore start pieces, offset ≠ 0 := by
  induction pieces generalizing start with
  | nil => exact List.forall_mem_nil _
  | cons piece rest ih =>
      rw [breaksBefore]
      refine List.forall_mem_append.mpr ⟨?_, ih⟩
      split
      next => exact List.forall_mem_nil _
      next further => simpa using further

/-- No line breaks before the first character, by induction on the words. -/
theorem ne_zero_of_mem_breaks {limit start column : Nat} {fold : Bool} {words : List (List Char)}
    : ∀ offset ∈ breaks limit fold start column words, offset ≠ 0 := by
  induction words generalizing start column with
  | nil => exact List.forall_mem_nil _
  | cons word rest ih =>
      simp only [breaks]
      split
      next => exact ih
      next =>
        split
        next =>
          split
          next => exact List.forall_mem_append.mpr ⟨ne_zero_of_mem_breaksBefore, ih⟩
          next => exact List.forall_mem_append.mpr ⟨ne_zero_of_mem_breaksBefore, ih⟩
        next =>
          split
          next further => exact List.forall_mem_cons.mpr ⟨further.2, ih⟩
          next => exact ih

theorem cutAt_cons {offsets : List Nat} (later : ∀ offset ∈ offsets, offset ≠ 0)
    (line : List Char)
    : ∃ first others, cutAt 0 (c :: line) offsets = (c :: first) :: others := by
  cases offsets with
  | nil => exact ⟨line, [], rfl⟩
  | cons offset rest =>
      obtain ⟨before, rfl⟩ := Nat.exists_eq_succ_of_ne_zero (later offset List.mem_cons_self)
      exact ⟨_, _, rfl⟩

theorem stripEnd_cons {limit : Nat} (positive : 0 < limit) (line : List Char)
    : ∃ rest, stripEnd limit (c :: line) = c :: rest := by
  have kept : 0 < (c :: line).length
      - min ((c :: line).reverse.takeWhile Text.isBlank).length ((c :: line).length - limit) := by
    rw [List.length_cons]
    omega
  obtain ⟨before, same⟩ := Nat.exists_eq_succ_of_ne_zero (Nat.pos_iff_ne_zero.mp kept)
  exact ⟨line.take before, by simp only [stripEnd, same, Nat.succ_eq_add_one, List.take_succ_cons]⟩

theorem truncate_cons {limit : Nat} (fits : charWidth c ≤ limit) (text : List Char)
    : ∃ rest, truncate limit false (c :: text) = c :: rest := by
  rw [truncate]
  split
  next => exact ⟨text, rfl⟩
  next =>
    rw [if_neg Bool.false_ne_true, setWidth, padRight]
    split
    next =>
      rw [fitting, if_neg (by omega)]
      exact ⟨_, rfl⟩
    next => exact ⟨_, rfl⟩

theorem wrap_cons (isLetter : IsLetter c) (text : List Char)
    : ∃ first others, wrap terminalWidth false .none (c :: text) = (c :: first) :: others := by
  obtain ⟨line, others, split⟩ :=
    splitAt_cons (isLetter.ne '\n' (by decide)) text
  obtain ⟨expanded, expand⟩ := expandTabs_cons isLetter line
  obtain ⟨part, parts, cut⟩ := cutAt_cons ne_zero_of_mem_breaks expanded
  have positive : 0 < terminalWidth := by decide
  obtain ⟨stripped, strip⟩ := stripEnd_cons positive part
  have fits : charWidth c ≤ terminalWidth := by
    rw [isLetter.charWidth]
    decide
  obtain ⟨shown, truncated⟩ := truncate_cons fits stripped
  simp only [wrap, split, List.flatMap_cons, expand]
  rw [cut]
  rw [List.map_cons, List.cons_append, strip, justifyLine, truncated]
  exact ⟨_, _, rfl⟩

/-- A paragraph starts with the letter that its text starts with. -/
theorem head?_paragraph {text : List Char} (isLetter : IsLetter c)
    (starts : text.head? = some c)
    : (paragraph text).toList.head? = some c := by
  obtain ⟨rest, rfl⟩ := List.head?_eq_some_iff.mp starts
  obtain ⟨first, others, wrapped⟩ := wrap_cons isLetter (sanitize rest)
  have kept : sanitize (c :: rest) = c :: sanitize rest := by
    simp [sanitize, isLetter.isHidden]
  rw [paragraph, kept, wrapped, String.toList_ofList]
  rfl

/-- Pictures stand for names behind colons, which no letter is. -/
theorem head?_showPictures {text : List Char} (isLetter : IsLetter c)
    (starts : text.head? = some c)
    : (showPictures text).head? = some c := by
  obtain ⟨rest, rfl⟩ := List.head?_eq_some_iff.mp starts
  have noColon : c ≠ ':' := isLetter.ne ':' (by decide)
  rw [showPictures, List.length_cons, Emoji.replaceCodes, if_neg noColon]
  rfl

end LiteralEnum.Console
