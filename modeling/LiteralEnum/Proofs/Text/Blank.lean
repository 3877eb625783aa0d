import LiteralEnum.Text.Blank
import LiteralEnum.Text.Name
import Mathlib.Data.List.DropRight
import Mathlib.Data.List.TakeWhile

/-! Stripping a text removes blanks at its ends and nothing else; names hold no blanks. -/

namespace LiteralEnum.Text

-----------------------------------------------------------------------------------------
-- Stripping
-----------------------------------------------------------------------------------------

/-- A character of a text is a blank, or it is still there after stripping. -/
theorem isBlank_or_mem_strip {c : Char} {text : List Char} (member : c ∈ text)
    : isBlank c = true ∨ c ∈ strip text := by
  rw [← List.takeWhile_append_dropWhile (p := isBlank) (l := text)] at member
  rcases List.mem_append.mp member with leading | kept
  · exact Or.inl (List.mem_takeWhile_imp leading)
  · have kept : c ∈ (stripLeft text).reverse := List.mem_reverse.mpr kept
    rw [← List.takeWhile_append_dropWhile (p := isBlank) (l := (stripLeft text).reverse)] at kept
    rcases List.mem_append.mp kept with trailing | kept
    · exact Or.inl (List.mem_takeWhile_imp trailing)
    · exact Or.inr (List.mem_reverse.mpr kept)

/-- A blank at the start of a text does not matter. -/
theorem strip_cons {c : Char} (blank : isBlank c = true) (text : List Char)
    : strip (c :: text) = strip text := by
  rw [strip, stripLeft, List.dropWhile_cons_of_pos blank]
  rfl

/-- A blank at the end of a text does not matter. -/
theorem strip_concat {c : Char} (blank : isBlank c = true) (text : List Char)
    : strip (text ++ [c]) = strip text := by
  have left : stripLeft (text ++ [c])
      = if (stripLeft text).isEmpty then [] else stripLeft text ++ [c] := by
    simp [stripLeft, List.dropWhile_append, blank]
  rw [strip, left]
  split
  next empty => rw [strip, List.isEmpty_iff.mp empty]
  next => exact List.rdropWhile_concat_pos isBlank (stripLeft text) c blank

/-- Nothing is left of a text of blanks. -/
theorem isEmpty_strip (text : List Char) : (strip text).isEmpty = text.all isBlank := by
  rw [Bool.eq_iff_iff, List.isEmpty_iff, List.all_eq_true]
  constructor
  · intro empty c member
    rcases isBlank_or_mem_strip member with blank | kept
    · exact blank
    · rw [empty] at kept
      cases kept
  · intro blank
    rw [strip, stripLeft, List.dropWhile_eq_nil_iff.mpr blank]
    rfl

theorem stripLeft_eq_self_iff {text : List Char}
    : stripLeft text = text ↔ ∀ c ∈ text.head?, isBlank c = false := by
  rw [stripLeft, List.dropWhile_eq_self_iff]
  cases text <;> simp

theorem stripRight_eq_self_iff {text : List Char}
    : stripRight text = text ↔ ∀ c ∈ text.getLast?, isBlank c = false := by
  refine (List.rdropWhile_eq_self_iff (p := isBlank) (l := text)).trans
    ⟨fun h c last => ?_, fun h present => ?_⟩
  · obtain ⟨front, rfl⟩ := List.getLast?_eq_some_iff.mp last
    simpa using h (by simp)
  · simpa using h _ (List.getLast?_eq_some_getLast present)

/-- Stripping changes nothing exactly where no blank stands at an end. -/
theorem strip_eq_self_iff {text : List Char}
    : strip text = text
      ↔ (∀ c ∈ text.head?, isBlank c = false) ∧ ∀ c ∈ text.getLast?, isBlank c = false := by
  rw [← stripLeft_eq_self_iff, ← stripRight_eq_self_iff]
  constructor
  · intro same
    have suffix : stripLeft text <:+ text := List.dropWhile_suffix isBlank
    have front : strip text <+: stripLeft text := List.rdropWhile_prefix isBlank (stripLeft text)
    have kept : stripLeft text = text := by
      refine suffix.eq_of_length_le ?_
      have length := front.length_le
      rwa [same] at length
    refine ⟨kept, ?_⟩
    rwa [strip, kept] at same
  · rintro ⟨left, right⟩
    rw [strip, left, right]

-----------------------------------------------------------------------------------------
-- Names
-----------------------------------------------------------------------------------------

/-- What a set of code points contains lies in one of its ranges. -/
theorem Ranges.exists_of_contains {ranges : Ranges} {code : Nat}
    (contained : ranges.contains code = true)
    : ∃ range ∈ ranges, range.1 ≤ code ∧ code ≤ range.2 := by
  induction ranges with
  | nil => cases contained
  | cons range rest ih =>
      simp only [Ranges.contains] at contained
      split at contained
      next => cases contained
      next above =>
        split at contained
        next below => exact ⟨range, by simp, by omega, below⟩
        next =>
          obtain ⟨other, member, inside⟩ := ih contained
          exact ⟨other, List.mem_cons_of_mem range member, inside⟩

/-- Every character of a name may continue a name. -/
theorem isNameContinue_of_mem {c : Char} {name : List Char} (isName : isName name = true)
    (member : c ∈ name)
    : isNameContinue c = true := by
  cases name with
  | nil => simp at member
  | cons first rest =>
      simp only [Text.isName, Bool.and_eq_true, List.all_eq_true] at isName
      rcases List.mem_cons.mp member with same | later
      · simp [same, isNameContinue, isName.1]
      · exact isName.2 c later

/-- The code points of all characters that may stand in a name. -/
def nameRanges : Ranges := letterRanges ++ otherStartRanges ++ otherContinueRanges

/-- No range of name characters meets a range of blanks. -/
theorem blankRanges_apart_nameRanges
    : (blankRanges.all fun blank => nameRanges.all fun range =>
        blank.2.blt range.1 || range.2.blt blank.1) = true := by
  decide +kernel

/-- A character of a name is no blank. -/
theorem isBlank_of_isNameContinue {c : Char} (continues : isNameContinue c = true)
    : isBlank c = false := by
  have inName : ∃ range ∈ nameRanges, range.1 ≤ c.toNat ∧ c.toNat ≤ range.2 := by
    simp only [isNameContinue, isNameStart, isLetter, Bool.or_eq_true, Bool.and_eq_true]
      at continues
    rcases continues with (⟨letter, -⟩ | start) | other
    · obtain ⟨range, member, inside⟩ := Ranges.exists_of_contains letter
      exact ⟨range, by simp [nameRanges, member], inside⟩
    · obtain ⟨range, member, inside⟩ := Ranges.exists_of_contains start
      exact ⟨range, by simp [nameRanges, member], inside⟩
    · obtain ⟨range, member, inside⟩ := Ranges.exists_of_contains other
      exact ⟨range, by simp [nameRanges, member], inside⟩
  obtain ⟨range, member, low, high⟩ := inName
  cases blank : isBlank c with
  | false => rfl
  | true =>
      obtain ⟨gap, isGap, above, below⟩ := Ranges.exists_of_contains blank
      have apart := List.all_eq_true.mp
        (List.all_eq_true.mp blankRanges_apart_nameRanges gap isGap) range member
      simp only [Bool.or_eq_true, Nat.blt_eq] at apart
      omega

/-- A name has no blanks, so stripping leaves it alone. -/
theorem strip_of_isName {name : List Char} (isName : isName name = true)
    : strip name = name := by
  have noBlank : ∀ c ∈ name, isBlank c = false := fun c member =>
    isBlank_of_isNameContinue (isNameContinue_of_mem isName member)
  exact strip_eq_self_iff.mpr
    ⟨fun c first => noBlank c (List.mem_of_mem_head? first),
      fun c last => noBlank c (List.mem_of_mem_getLast? last)⟩

end LiteralEnum.Text
