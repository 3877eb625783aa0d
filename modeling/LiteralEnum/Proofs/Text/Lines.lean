import LiteralEnum.Text.Lines
import Mathlib.Data.List.Basic
import Mathlib.Data.List.DropRight

/-! Texts and their parts. The lines of a text hold no breaks, a text without a separator is one
piece, and a joined text starts as its first part does.
-/

namespace LiteralEnum.Text

theorem head?_append {first : String} {c : Char} (starts : first.toList.head? = some c)
    (rest : String)
    : (first ++ rest).toList.head? = some c := by
  rw [String.toList_append, List.head?_append, starts]
  rfl

theorem splitAt_of_not_mem {separator : Char} {text : List Char} (free : separator ∉ text)
    : splitAt separator text = [text] := by
  induction text with
  | nil => rfl
  | cons c rest ih =>
      have apart : c ≠ separator := Ne.symm (List.ne_of_not_mem_cons free)
      rw [splitAt, ih (List.not_mem_of_not_mem_cons free), if_neg apart]
      rfl

theorem splitAt_ne_nil (separator : Char) (text : List Char) : splitAt separator text ≠ [] := by
  cases text with
  | nil => simp [splitAt]
  | cons c rest =>
      rw [splitAt]
      split <;> simp

/-- A separator makes at least two pieces, by induction on the text. -/
theorem exists_splitAt_of_mem {separator : Char} {text : List Char} (member : separator ∈ text)
    : ∃ first second later, splitAt separator text = first :: second :: later := by
  induction text with
  | nil => cases member
  | cons c rest ih =>
      rw [splitAt]
      split
      next =>
        obtain ⟨second, later, pieces⟩ := List.exists_cons_of_ne_nil (splitAt_ne_nil separator rest)
        exact ⟨[], second, later, by rw [pieces]⟩
      next other =>
        obtain ⟨first, second, later, pieces⟩ := ih ((List.mem_cons.mp member).resolve_left
          (Ne.symm other))
        exact ⟨c :: first, second, later, by rw [pieces]; rfl⟩

/-- More text without a separator makes the last piece longer, by induction on the text. -/
theorem exists_splitAt_append {separator : Char} {more : List Char} (free : separator ∉ more)
    (text : List Char)
    : ∃ front last, splitAt separator text = front ++ [last]
        ∧ splitAt separator (text ++ more) = front ++ [last ++ more] := by
  induction text with
  | nil => exact ⟨[], [], rfl, splitAt_of_not_mem free⟩
  | cons c rest ih =>
      obtain ⟨front, last, short, long⟩ := ih
      rw [List.cons_append, splitAt, splitAt, short, long]
      by_cases same : c = separator
      · exact ⟨[] :: front, last, by simp [same], by simp [same]⟩
      · cases front with
        | nil => exact ⟨[], c :: last, by simp [same], by simp [same]⟩
        | cons first others => exact ⟨(c :: first) :: others, last, by simp [same], by simp [same]⟩

/-- The piece around a place in a text, with the pieces before and behind it, by induction on the
text in front from its end.
-/
theorem exists_splitAt_around (separator : Char) (front rest : List Char)
    : ∃ pieces, pieces.length = front.count separator
        ∧ splitAt separator (front ++ rest)
          = pieces ++ (front.rtakeWhile (· ≠ separator) ++ (splitAt separator rest).headD [])
              :: (splitAt separator rest).tail := by
  induction front using List.reverseRecOn generalizing rest with
  | nil =>
      obtain ⟨first, later, pieces⟩ := List.exists_cons_of_ne_nil (splitAt_ne_nil separator rest)
      exact ⟨[], rfl, by simp [pieces]⟩
  | append_singleton front c ih =>
      obtain ⟨pieces, count, split⟩ := ih (c :: rest)
      rw [List.append_assoc, List.singleton_append, split, splitAt]
      by_cases same : c = separator
      · obtain ⟨first, later, behind⟩ :=
          List.exists_cons_of_ne_nil (splitAt_ne_nil separator rest)
        exact ⟨pieces ++ [front.rtakeWhile (· ≠ separator)], by simp [count, same],
          by simp [same, behind]⟩
      · exact ⟨pieces, by simp [count, same], by simp [same]⟩

/-- The pieces hold the text without its separators. -/
theorem flatten_splitAt (separator : Char) (text : List Char)
    : (splitAt separator text).flatten = text.filter (· ≠ separator) := by
  induction text with
  | nil => rfl
  | cons c rest ih =>
      rw [splitAt]
      by_cases same : c = separator
      · simp [same, ih]
      · have whole : (splitAt separator rest).headD [] ++ (splitAt separator rest).tail.flatten
            = (splitAt separator rest).flatten := by
          cases splitAt separator rest <;> rfl
        rw [if_neg same, List.flatten_cons, List.cons_append, whole, ih,
          List.filter_cons_of_pos (by simpa using same)]

theorem not_mem_of_mem_splitAt {separator : Char} {text piece : List Char}
    (isPiece : piece ∈ splitAt separator text) : separator ∉ piece := by
  intro member
  have inPieces := List.mem_flatten.mpr ⟨piece, isPiece, member⟩
  rw [flatten_splitAt] at inPieces
  simpa using List.of_mem_filter inPieces

theorem intercalate_cons (separator : Char) (first : List Char) (later : List (List Char))
    : [separator].intercalate (first :: later) = first ++ later.flatMap (separator :: ·) := by
  induction later generalizing first with
  | nil => simp
  | cons second later ih =>
      rw [List.intercalate_cons_cons, ih]
      simp

/-- A text without carriage returns has line feeds only. -/
theorem unifyBreaks_of_not_mem {text : List Char} (noReturn : '\r' ∉ text)
    : Text.unifyBreaks text = text := by
  fun_induction Text.unifyBreaks text with
  | case1 => rfl
  | case2 rest ih => simp at noReturn
  | case3 c rest notPair ih =>
      have other : c ≠ '\r' := Ne.symm (List.ne_of_not_mem_cons noReturn)
      rw [if_neg other, ih (List.not_mem_of_not_mem_cons noReturn)]

/-- What stands before a break is collected without breaks, by induction on the text. -/
theorem isLineBreak_of_mem_go {current text line : List Char}
    (collected : ∀ c ∈ current, isLineBreak c = false) (isLine : line ∈ splitLines.go current text)
    : ∀ c ∈ line, isLineBreak c = false := by
  fun_induction splitLines.go current text with
  | case1 current empty => cases isLine
  | case2 current nonempty =>
    rw [List.mem_singleton.mp isLine]
    simpa using collected
  | case3 current rest ih =>
    rcases List.mem_cons.mp isLine with rfl | later
    · simpa using collected
    · exact ih (by simp) later
  | case4 current c rest _ broken ih =>
    rcases List.mem_cons.mp isLine with rfl | later
    · simpa using collected
    · exact ih (by simp) later
  | case5 current c rest _ unbroken ih =>
    exact ih (List.forall_mem_cons.mpr ⟨by simpa using unbroken, collected⟩) isLine

/-- A line holds no break. -/
theorem isLineBreak_of_mem_splitLines {text line : List Char} (isLine : line ∈ splitLines text)
    : ∀ c ∈ line, isLineBreak c = false :=
  isLineBreak_of_mem_go (by simp) isLine

end LiteralEnum.Text
