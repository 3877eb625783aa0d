import LiteralEnum.Proofs.Target.PieceSplitting

/-! Numbers in a text that a closing parenthesis follows. Whether the parenthesis ends the
text or stands in a line of a table, every number before it is the same.
-/

namespace LiteralEnum.Target

-----------------------------------------------------------------------------------------
-- What follows a text
-----------------------------------------------------------------------------------------

/-- What follows a text in parentheses: by itself, or as an element of a table. -/
inductive Closing where
  | alone
  | element

def Closing.text : Closing → List Char
  | .alone => [')']
  | .element => [')', ',', '\n']

/-- What is found at the start of a text is the same under every closing. -/
def Settled (find : Closing → Option (List Char × List Char)) : Prop :=
  (∀ closing, find closing = none)
    ∨ ∃ taken rest, ∀ closing : Closing, find closing = some (taken, rest ++ closing.text)

theorem Settled.orElse {first second : Closing → Option (List Char × List Char)}
    (one : Settled first) (other : Settled second)
    : Settled fun closing => (first closing).orElse fun _ => second closing := by
  rcases one with none | ⟨taken, rest, found⟩
  · simpa only [Settled, none, Option.orElse_none] using other
  · exact .inr ⟨taken, rest, fun closing => by simp only [found, Option.orElse_some]⟩

theorem Settled.congr {one other : Closing → Option (List Char × List Char)}
    (settled : Settled one) (same : ∀ closing, other closing = one closing) : Settled other := by
  rwa [funext same]

theorem settled_unless (condition : Prop) [Decidable condition] (taken rest : List Char)
    : Settled fun closing => if condition then none else some (taken, rest ++ closing.text) := by
  by_cases holds : condition
  · exact .inl fun closing => if_pos holds
  · exact .inr ⟨taken, rest, fun closing => if_neg holds⟩

/-- What a span takes is the same under every closing. -/
def SettledSpan (span : Closing → List Char × List Char) : Prop :=
  ∃ taken rest, ∀ closing : Closing, span closing = (taken, rest ++ closing.text)

-----------------------------------------------------------------------------------------
-- Numbers
-----------------------------------------------------------------------------------------

/-- Neither an underscore nor a closing parenthesis is a digit. -/
structure ExcludesMarks (isDigit : Char → Bool) : Prop where
  underscore : isDigit '_' = false
  parenthesis : isDigit ')' = false

theorem settled_spanMoreDigits {isDigit : Char → Bool} (excludes : ExcludesMarks isDigit)
    (text : List Char)
    : SettledSpan fun closing => spanMoreDigits isDigit (text ++ closing.text) := by
  fun_induction spanMoreDigits isDigit text with
  | case1 c rest digit digits others found ih =>
    obtain ⟨taken, left, same⟩ := ih
    exact ⟨'_' :: c :: taken, left, fun closing => by simp [spanMoreDigits, digit, same]⟩
  | case2 c rest noDigit =>
    exact ⟨[], '_' :: c :: rest, fun closing => by simp [spanMoreDigits, noDigit]⟩
  | case3 c rest other digit digits others found ih =>
    obtain ⟨taken, left, same⟩ := ih
    refine ⟨c :: taken, left, fun closing => ?_⟩
    have : c ≠ '_' := by rintro rfl; simp [excludes.underscore] at digit
    simp [spanMoreDigits, digit, same, this]
  | case4 c rest other noDigit =>
    refine ⟨[], c :: rest, fun closing => ?_⟩
    by_cases mark : c = '_'
    · cases rest with
      | nil => cases closing <;> simp [mark, spanMoreDigits, Closing.text, excludes.parenthesis]
      | cons d rest => exact absurd rfl (other d rest mark)
    · simp [spanMoreDigits, noDigit, mark]
  | case5 =>
    refine ⟨[], [], fun closing => ?_⟩
    cases closing <;> simp [spanMoreDigits, Closing.text, excludes.parenthesis]

theorem settled_spanDigits {isDigit : Char → Bool} (excludes : ExcludesMarks isDigit)
    (text : List Char)
    : SettledSpan fun closing => spanDigits isDigit (text ++ closing.text) := by
  cases text with
  | nil =>
      refine ⟨[], [], fun closing => ?_⟩
      cases closing <;> simp [spanDigits, Closing.text, excludes.parenthesis]
  | cons c rest =>
      by_cases digit : isDigit c = true
      · obtain ⟨taken, left, same⟩ := settled_spanMoreDigits excludes rest
        exact ⟨c :: taken, left, fun closing => by simp [spanDigits, digit, same]⟩
      · exact ⟨[], c :: rest, fun closing => by simp [spanDigits, digit]⟩

theorem excludesMarks_isDigit : ExcludesMarks Char.isDigit := ⟨by decide, by decide⟩

theorem settled_spanExponent (text : List Char)
    : SettledSpan fun closing => spanExponent (text ++ closing.text) := by
  cases text with
  | nil => exact ⟨[], [], fun closing => by cases closing <;> decide⟩
  | cons mark rest =>
      by_cases exponent : mark = 'e' ∨ mark = 'E'
      swap
      · exact ⟨[], mark :: rest, fun closing => by simp [spanExponent, exponent]⟩
      cases rest with
      | nil =>
          refine ⟨[], [mark], fun closing => ?_⟩
          rcases exponent with rfl | rfl <;> cases closing <;> decide
      | cons sign more =>
          by_cases signed : sign = '+' ∨ sign = '-'
          · obtain ⟨taken, left, same⟩ := settled_spanDigits excludesMarks_isDigit more
            cases taken with
            | nil =>
                refine ⟨[], mark :: sign :: more, fun closing => ?_⟩
                simp [spanExponent, exponent, signed, same]
            | cons digit digits =>
                refine ⟨mark :: sign :: digit :: digits, left, fun closing => ?_⟩
                simp [spanExponent, exponent, signed, same]
          · obtain ⟨taken, left, same⟩ := settled_spanDigits excludesMarks_isDigit (sign :: more)
            simp only [List.cons_append] at same
            cases taken with
            | nil =>
                refine ⟨[], mark :: sign :: more, fun closing => ?_⟩
                simp [spanExponent, exponent, signed, same]
            | cons digit digits =>
                refine ⟨mark :: digit :: digits, left, fun closing => ?_⟩
                simp [spanExponent, exponent, signed, same]

theorem settled_spanFloat? (text : List Char)
    : Settled fun closing => spanFloat? (text ++ closing.text) := by
  obtain ⟨whole, more, isWhole⟩ := settled_spanDigits excludesMarks_isDigit text
  by_cases point : more.head? = some '.'
  · obtain ⟨more, rfl⟩ := List.head?_eq_some_iff.mp point
    obtain ⟨fraction, others, isFraction⟩ := settled_spanDigits excludesMarks_isDigit more
    obtain ⟨exponent, rest, isExponent⟩ := settled_spanExponent others
    have found (closing : Closing) :=
      spanFloat?_of_point (isWhole closing) (isFraction closing) (isExponent closing)
    simp only [found]
    exact settled_unless _ _ _
  · obtain ⟨exponent, rest, isExponent⟩ := settled_spanExponent more
    have noPoint (closing : Closing) : (more ++ closing.text).head? ≠ some '.' := by
      cases more with
      | nil => cases closing <;> decide
      | cons c others => exact point
    have found (closing : Closing) :=
      spanFloat?_of_no_point (isWhole closing) (noPoint closing) (isExponent closing)
    simp only [found]
    exact settled_unless _ _ _

theorem settled_spanBased? {lower upper : Char} {isDigit : Char → Bool}
    (excludes : ExcludesMarks isDigit) (noMark : ¬(')' = lower ∨ ')' = upper))
    (text : List Char)
    : Settled fun closing => spanBased? lower upper isDigit (text ++ closing.text) := by
  cases text with
  | nil => exact .inl fun closing => by cases closing <;> rfl
  | cons c rest =>
      cases rest with
      | nil =>
          refine .inl fun closing => ?_
          cases closing <;> exact spanBased?_eq_none fun marked => noMark marked.2
      | cons mark rest =>
          by_cases marked : c = '0' ∧ (mark = lower ∨ mark = upper)
          swap
          · exact .inl fun closing => spanBased?_eq_none marked
          obtain ⟨rfl, isMark⟩ := marked
          obtain ⟨digits, others, isDigits⟩ := settled_spanMoreDigits excludes rest
          have found (closing : Closing) := spanBased?_of_mark isMark (isDigits closing)
          simp only [List.cons_append, found]
          exact settled_unless _ _ _

theorem settled_spanInteger? (text : List Char)
    : Settled fun closing => spanInteger? (text ++ closing.text) := by
  have hex : ExcludesMarks isHexDigit := ⟨by decide, by decide⟩
  have binary : ExcludesMarks isBinaryDigit := ⟨by decide, by decide⟩
  have octal : ExcludesMarks isOctalDigit := ⟨by decide, by decide⟩
  have zero : ExcludesMarks fun c => decide (c = '0') := ⟨by decide, by decide⟩
  simp only [spanInteger?.eq_def]
  refine .orElse (settled_spanBased? hex (by decide) text)
    (.orElse (settled_spanBased? binary (by decide) text)
    (.orElse (settled_spanBased? octal (by decide) text) ?_))
  by_cases startsWithZero : text.head? = some '0'
  · obtain ⟨rest, rfl⟩ := List.head?_eq_some_iff.mp startsWithZero
    obtain ⟨zeros, others, isZeros⟩ := settled_spanMoreDigits zero rest
    exact .inr ⟨'0' :: zeros, others, fun closing => by simp only [List.cons_append, isZeros]⟩
  · obtain ⟨digits, others, isDigits⟩ := settled_spanDigits excludesMarks_isDigit text
    have noZero (closing : Closing) (rest : List Char) : text ++ closing.text ≠ '0' :: rest := by
      intro same
      cases text with
      | nil => cases closing <;> cases same
      | cons c more => exact startsWithZero (congrArg List.head? same)
    refine (settled_unless (digits.isEmpty = true) digits others).congr fun closing => ?_
    split
    next more same => exact absurd same (noZero closing more)
    next =>
      simp only [isDigits]
      cases digits <;> rfl

theorem settled_addImaginary? {find : Closing → Option (List Char × List Char)}
    (settled : Settled find) : Settled fun closing => (find closing).bind addImaginary? := by
  rcases settled with none | ⟨taken, rest, found⟩
  · exact .inl fun closing => by simp only [none, Option.bind_none]
  · cases rest with
    | nil => exact .inl fun closing => by simp only [found]; cases closing <;> rfl
    | cons c rest =>
        simp only [Settled, found, Option.bind_some, List.cons_append, addImaginary?]
        split
        · exact .inr ⟨taken ++ [c], rest, fun _ => rfl⟩
        · exact .inl fun _ => rfl

theorem settled_spanNumber? (text : List Char)
    : Settled fun closing => spanNumber? (text ++ closing.text) := by
  obtain ⟨digits, others, isDigits⟩ := settled_spanDigits excludesMarks_isDigit text
  simp only [spanNumber?]
  refine .orElse ?_ (.orElse (settled_addImaginary? (settled_spanFloat? text))
    (.orElse (settled_spanFloat? text) (settled_spanInteger? text)))
  simp only [isDigits]
  split
  · exact .inl fun _ => rfl
  · exact settled_addImaginary? (.inr ⟨digits, others, fun _ => rfl⟩)

end LiteralEnum.Target
