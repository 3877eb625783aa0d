import LiteralEnum.Proofs.Module.DocstringLines
import LiteralEnum.Proofs.Module.Reading
import LiteralEnum.Proofs.Target.QuotedText
import Mathlib.Data.List.TakeDrop

/-! How the reader takes the lines of a module: names, numbers, literals and references as
they are written, docstrings as a whole, and lines of code that say nothing.
-/

namespace LiteralEnum.Module.Reading

open Text

-----------------------------------------------------------------------------------------
-- Parts of a line
-----------------------------------------------------------------------------------------

/-- Every break is a blank. -/
theorem isBlank_of_isLineBreak {c : Char} (broken : isLineBreak c = true)
    : isBlank c = true := by
  have listed : c.toNat ∈ [10, 11, 12, 13, 28, 29, 30, 0x85, 0x2028, 0x2029] := by
    simp only [isLineBreak, Bool.or_eq_true, Bool.and_eq_true, decide_eq_true_eq] at broken
    simp only [List.mem_cons, List.not_mem_nil, or_false]
    omega
  have blank : ∀ code ∈ [10, 11, 12, 13, 28, 29, 30, 0x85, 0x2028, 0x2029],
      blankRanges.contains code = true := by
    decide
  exact blank c.toNat listed

theorem isLineBreak_of_isNameContinue {c : Char} (continues : isNameContinue c = true)
    : isLineBreak c = false := by
  cases broken : isLineBreak c with
  | false => rfl
  | true =>
      rw [← isBlank_of_isNameContinue continues, isBlank_of_isLineBreak broken]

theorem isLineBreak_of_isDigit {c : Char} (isDigit : c.isDigit = true)
    : isLineBreak c = false := by
  simp only [Char.isDigit, Bool.and_eq_true, decide_eq_true_eq, UInt32.le_iff_toNat_le, ge_iff_le]
    at isDigit
  have zero : '0'.val.toNat = 48 := rfl
  have nine : '9'.val.toNat = 57 := rfl
  have code : c.toNat = c.val.toNat := rfl
  simp only [isLineBreak, Bool.or_eq_false_iff, Bool.and_eq_false_iff, decide_eq_false_iff_not]
  omega

/-- What stands behind a name in a line of the module. -/
def marks : List Char := ['.', ',', ' ', ':', '(']

theorem isNameContinue_of_mem_marks {mark : Char} (isMark : mark ∈ marks)
    : isNameContinue mark = false := by
  have stops : (marks.all fun mark => !isNameContinue mark) = true := by decide
  simpa using List.all_eq_true.mp stops mark isMark

/-- A name is read up to a mark. -/
theorem takeName?_append {name : String} (isName : isName name.toList = true)
    {mark : Char} (isMark : mark ∈ marks) (rest : List Char)
    : takeName? (name.toList ++ mark :: rest) = some (name, mark :: rest) := by
  have continues : ∀ c ∈ name.toList, isNameContinue c = true :=
    fun c member => isNameContinue_of_mem isName member
  have stops := isNameContinue_of_mem_marks isMark
  have span : (name.toList ++ mark :: rest).span isNameContinue = (name.toList, mark :: rest) := by
    rw [List.span_eq_takeWhile_dropWhile, List.takeWhile_append_of_pos continues,
      List.dropWhile_append_of_pos continues]
    simp [stops]
  simp only [takeName?, span, isName, if_true, String.ofList_toList]

/-- A reference is read back. -/
theorem reference?_append {typeName name : String} (isType : isName typeName.toList = true)
    (isName : isName name.toList = true)
    : reference? typeName (typeName.toList ++ '.' :: (name.toList ++ [','])) = some name := by
  have owner := takeName?_append isType (show '.' ∈ marks by decide) (name.toList ++ [','])
  have member := takeName?_append isName (show ',' ∈ marks by decide) []
  simp [reference?, owner, member, List.dropPrefix?]

/-- A quoted text denotes itself. -/
theorem takeLiteral?_quotedChars (text : String) {rest : List Char}
    (apart : rest.head? ≠ some (quoteFor text.toList))
    : takeLiteral? (quotedChars text.toList ++ rest) = some (codePoints text, rest) := by
  rw [takeLiteral?, Target.takeString?_quotedChars apart]
  simp only [Target.piece?_quotedChars]
  rfl

/-- One more digit. -/
theorem valueInBase_concat {c : Char} (isDigit : c.isDigit = true) (digits : List Char)
    : Target.Literal.valueInBase 10 (digits ++ [c])
      = Target.Literal.valueInBase 10 digits * 10 + (c.toNat - 48) := by
  simp [Target.Literal.valueInBase, Target.Literal.hexValue?, isDigit]

/-- The value of digits is the number that is written with them, by induction from the last
digit.
-/
theorem valueInBase_of_isDigit {digits : List Char} (areDigits : ∀ c ∈ digits, c.isDigit = true)
    : Target.Literal.valueInBase 10 digits = Nat.ofDigitChars 10 digits 0 := by
  induction digits using List.reverseRecOn with
  | nil => rfl
  | append_singleton digits c ih =>
      obtain ⟨areDigits, isDigit⟩ := List.forall_mem_append.mp areDigits
      rw [valueInBase_concat (isDigit c (List.mem_singleton_self c)), ih areDigits,
        Nat.ofDigitChars_append, Nat.mul_comm]
      rfl

/-- Decimal digits do not start with the mark of another base. -/
theorem splitBase_of_isDigit {digits : List Char} (areDigits : ∀ c ∈ digits, c.isDigit = true)
    : Target.Literal.splitBase digits = (10, digits) := by
  rw [Target.Literal.splitBase]
  all_goals
    rintro more rfl
    exact absurd (areDigits _ (List.mem_cons_of_mem _ List.mem_cons_self)) (by decide)

theorem toList_toString (value : Nat) : (toString value).toList = Nat.toDigits 10 value := by
  rw [Nat.toString_eq_repr, Nat.repr_eq_ofList_toDigits, String.toList_ofList]

theorem isDigit_of_mem_toString (value : Nat)
    : ∀ c ∈ (toString value).toList, c.isDigit = true := by
  rw [toList_toString]
  exact fun c member => Nat.isDigit_of_mem_toDigits (by decide) (by decide) member

/-- A number in decimal digits is read back. -/
theorem number?_toString (value : Nat)
    : number? (toString value).toList = some value := by
  have written := toList_toString value
  have areDigits := isDigit_of_mem_toString value
  rw [written] at areDigits
  have split := splitBase_of_isDigit areDigits
  have exact_ : Target.Literal.isInexact (Nat.toDigits 10 value) = false := by
    simp only [Target.Literal.isInexact, split, decide_true, Bool.true_and, List.any_eq_false]
    intro c member
    simp [areDigits c member]
  rw [number?, written, if_neg (by simpa [Nat.toDigits_ne_nil] using areDigits),
    Target.Literal.integerValue?, exact_, split]
  simp only [Bool.false_eq_true, if_false, valueInBase_of_isDigit areDigits,
    Nat.ofDigitChars_ten_toDigits]

/-- A line of spaces and one line of text has the text as its content. -/
theorem dropWhile_spaces (width : Nat) {text : List Char} (start : text.head? ≠ some ' ')
    : (List.replicate width ' ' ++ text).dropWhile (· = ' ') = text := by
  rw [List.dropWhile_append_of_pos (by simp)]
  cases text with
  | nil => rfl
  | cons c rest => simp_all

theorem content?_eq {line : String} {width : Nat} {text : List Char}
    (shape : line.toList = List.replicate width ' ' ++ text)
    (oneLine : ∀ c ∈ text, isLineBreak c = false) (start : text.head? ≠ some ' ')
    : content? line = some text := by
  have whole : line.toList.any isLineBreak = false := by
    rw [shape, List.any_eq_false]
    intro c member
    rcases List.mem_append.mp member with space | inside
    · rw [(List.mem_replicate.mp space).2]
      decide
    · simp [oneLine c inside]
  rw [content?, whole, shape, dropWhile_spaces width start]
  rfl

-----------------------------------------------------------------------------------------
-- Entries
-----------------------------------------------------------------------------------------

/-- Fixed parts of a line, by running through them. -/
theorem oneLine_of_all {text : List Char} (checked : text.all (!isLineBreak ·) = true)
    : ∀ c ∈ text, isLineBreak c = false := by
  simpa using List.all_eq_true.mp checked

/-- A name stands on one line. -/
theorem oneLine_of_isName {name : List Char} (isName : isName name = true)
    : ∀ c ∈ name, isLineBreak c = false :=
  fun _ member => isLineBreak_of_isNameContinue (isNameContinue_of_mem isName member)

theorem head?_ne_of_isName {name rest : List Char} {c : Char} (isName : isName name = true)
    (notName : isNameContinue c = false)
    : (name ++ rest).head? ≠ some c := by
  cases name with
  | nil => cases isName
  | cons first others =>
      rintro same
      obtain rfl : first = c := Option.some.inj same
      rw [isNameContinue_of_mem isName List.mem_cons_self] at notName
      cases notName

theorem head?_ne_space_of_quotedChars (text rest : List Char)
    : (quotedChars text ++ rest).head? ≠ some ' ' := by
  rcases Target.isQuote_quoteFor text with same | same <;> simp [quotedChars, same]

theorem apart_of_mark {mark : Char} (isMark : mark ∈ marks) (text rest : List Char)
    : (mark :: rest).head? ≠ some (quoteFor text) := by
  rintro same
  obtain rfl : mark = quoteFor text := Option.some.inj same
  rcases Target.isQuote_quoteFor text with same | same <;> rw [same] at isMark <;>
    exact absurd isMark (by decide)

/-- An entry of the lookup table is read back. -/
theorem entry?_lookup {typeName name line : String} (width : Nat) (text : String)
    (isType : isName typeName.toList = true) (isName : isName name.toList = true)
    (shape : line.toList = List.replicate width ' ' ++ (quotedChars text.toList
      ++ ':' :: ' ' :: (typeName.toList ++ '.' :: (name.toList ++ [',']))))
    : Table.lookup.entry? typeName line = some { entries := [(codePoints text, name)] } := by
  have oneLine : ∀ c ∈ quotedChars text.toList
      ++ ':' :: ' ' :: (typeName.toList ++ '.' :: (name.toList ++ [','])),
      isLineBreak c = false := by
    simp only [List.forall_mem_append, List.forall_mem_cons]
    exact ⟨fun c => Target.not_isLineBreak_of_mem_quotedChars, by decide, by decide,
      oneLine_of_isName isType, by decide, oneLine_of_isName isName, by decide, by simp⟩
  have content := content?_eq shape oneLine (head?_ne_space_of_quotedChars _ _)
  have literal := takeLiteral?_quotedChars text
    (apart_of_mark (show ':' ∈ marks by decide) text.toList
      (' ' :: (typeName.toList ++ '.' :: (name.toList ++ [',']))))
  have reference := reference?_append isType isName
  simp [Table.entry?, content, literal, List.dropPrefix?, reference]

/-- An entry of the table of canonical texts is read back. -/
theorem entry?_canonical {typeName line : String} (width : Nat) (text : String)
    (shape : line.toList = List.replicate width ' ' ++ (quotedChars text.toList ++ [',']))
    : Table.canonical.entry? typeName line = some { canonical := [codePoints text] } := by
  have oneLine : ∀ c ∈ quotedChars text.toList ++ [','], isLineBreak c = false := by
    simp only [List.forall_mem_append, List.forall_mem_cons]
    exact ⟨fun c => Target.not_isLineBreak_of_mem_quotedChars, by decide, by simp⟩
  have content := content?_eq shape oneLine (head?_ne_space_of_quotedChars _ _)
  have literal := takeLiteral?_quotedChars text
    (apart_of_mark (show ',' ∈ marks by decide) text.toList [])
  simp [Table.entry?, content, literal]

/-- An entry of the tuple of variants is read back. -/
theorem entry?_order {typeName name line : String} (width : Nat)
    (isType : isName typeName.toList = true) (isName : isName name.toList = true)
    (shape : line.toList
      = List.replicate width ' ' ++ (typeName.toList ++ '.' :: (name.toList ++ [','])))
    : Table.order.entry? typeName line = some { order := [name] } := by
  have oneLine : ∀ c ∈ typeName.toList ++ '.' :: (name.toList ++ [',']),
      isLineBreak c = false := by
    simp only [List.forall_mem_append, List.forall_mem_cons]
    exact ⟨oneLine_of_isName isType, by decide, oneLine_of_isName isName, by decide, by simp⟩
  have content := content?_eq shape oneLine (head?_ne_of_isName isType (by decide))
  have reference := reference?_append isType isName
  simp [Table.entry?, content, reference]

/-- A line that is no closing line of a table is one of its entries. -/
theorem readLine?_inside {typeName line : String} {table : Table} {said : Tables}
    (isEntry : table.entry? typeName line = some said) (notClosing : line ≠ table.closing)
    : readLine? typeName (.inside table) line = some (.inside table, said) := by
  simp [readLine?, notClosing, isEntry]

-----------------------------------------------------------------------------------------
-- Statements
-----------------------------------------------------------------------------------------

variable {typeName : String}

/-- A line of one statement, by the reading of the statement. -/
theorem readLine?_outside {line : String} {width : Nat} {text : List Char}
    (shape : line.toList = List.replicate width ' ' ++ text)
    (notSpace : text.head? ≠ some ' ') (notQuote : text.head? ≠ some '"')
    : readLine? typeName .outside line
      = some (((content? line).map readStatement).getD (.outside, {})) := by
  simp only [readLine?, shape, dropWhile_spaces width notSpace]
  split
  next => exact absurd rfl notQuote
  next => rfl

/-- A line that starts with a name is read as a statement. -/
theorem readLine?_of_isName {name line : String} {width : Nat} {rest : List Char}
    (isName : isName name.toList = true)
    (shape : line.toList = List.replicate width ' ' ++ (name.toList ++ rest))
    (oneLine : ∀ c ∈ rest, isLineBreak c = false)
    : readLine? typeName .outside line = some (readStatement (name.toList ++ rest)) := by
  have notSpace : (name.toList ++ rest).head? ≠ some ' ' :=
    head?_ne_of_isName isName (by decide)
  have notQuote : (name.toList ++ rest).head? ≠ some '"' :=
    head?_ne_of_isName isName (by decide)
  have content := content?_eq shape
    (List.forall_mem_append.mpr ⟨oneLine_of_isName isName, oneLine⟩) notSpace
  rw [readLine?_outside shape notSpace notQuote, content]
  rfl

/-- A member of the class is read back. -/
theorem readLine?_member {name line : String} (width : Nat) {value : Nat}
    (isName : isName name.toList = true)
    (shape : line.toList
      = List.replicate width ' ' ++ (name.toList ++ ' ' :: '=' :: ' ' :: (toString value).toList))
    : readLine? typeName .outside line = some (.outside, { members := [(name, value)] }) := by
  have oneLine : ∀ c ∈ ' ' :: '=' :: ' ' :: (toString value).toList, isLineBreak c = false := by
    simp only [List.forall_mem_cons]
    exact ⟨by decide, by decide, by decide,
      fun c member => isLineBreak_of_isDigit (isDigit_of_mem_toString value c member)⟩
  rw [readLine?_of_isName isName shape oneLine, readStatement,
    takeName?_append isName (by decide)]
  simp only [number?_toString, Option.map_some, Option.toList_some]

/-- The line that opens a table. -/
theorem readLine?_heading {line : String} {table : Table} (name : String) (rest : List Char)
    (named : Table.named? name = some table) (isName : isName name.toList = true)
    (shape : line.toList = name.toList ++ ':' :: rest)
    (oneLine : ∀ c ∈ rest, isLineBreak c = false)
    : readLine? typeName .outside line = some (.inside table, {}) := by
  have shape : line.toList = List.replicate 0 ' ' ++ (name.toList ++ ':' :: rest) := shape
  rw [readLine?_of_isName isName shape (List.forall_mem_cons.mpr ⟨by decide, oneLine⟩),
    readStatement, takeName?_append isName (by decide)]
  simp [named]

-----------------------------------------------------------------------------------------
-- Code
-----------------------------------------------------------------------------------------

/-- What stands behind a word keeps it from being a table or a member. -/
def isQuiet (word : List Char) : List Char → Bool
  | [] => false
  | [c] => c ≠ ':' && c ≠ ' '
  | c :: d :: _ =>
      (c ≠ ':' || (Table.named? (String.ofList word)).isNone) && (c ≠ ' ' || d ≠ '=')

/-- A start of a line that makes it a statement without a member or a table, whatever
follows.
-/
def isCodeStart (text : List Char) : Bool :=
  let (word, rest) := text.span isNameContinue
  text.head? ≠ some ' ' && text.head? ≠ some '"' && isQuiet word rest

/-- A line, indented or not, that starts so. -/
def IsCode (line : String) : Prop :=
  ∃ width start more, line.toList = List.replicate width ' ' ++ (start ++ more)
    ∧ isCodeStart start = true

/-- More text does not change the first word, if the word has ended. -/
theorem span_append {text word rest : List Char}
    (span : text.span isNameContinue = (word, rest)) (ended : rest ≠ []) (more : List Char)
    : (text ++ more).span isNameContinue = (word, rest ++ more) := by
  rw [List.span_eq_takeWhile_dropWhile] at span ⊢
  obtain ⟨rfl, rfl⟩ := Prod.mk.inj span
  have unfinished : (text.takeWhile isNameContinue).length ≠ text.length := by
    intro whole
    refine ended (List.eq_nil_of_length_eq_zero ?_)
    have parts := congrArg List.length (List.takeWhile_append_dropWhile (p := isNameContinue)
      (l := text))
    rw [List.length_append] at parts
    omega
  rw [List.takeWhile_append, List.dropWhile_append, if_neg unfinished, if_neg (by simpa using ended)]

/-- What is quiet stays quiet, whatever follows. -/
theorem readStatement_of_isQuiet {text word rest : List Char}
    (span : text.span isNameContinue = (word, rest)) (quiet : isQuiet word rest = true)
    (more : List Char)
    : readStatement (text ++ more) = (.outside, {}) := by
  have ended : rest ≠ [] := by
    rintro rfl
    cases quiet
  have taken : takeName? (text ++ more)
      = if isName word then some (String.ofList word, rest ++ more) else none := by
    simp only [takeName?, span_append span ended]
  rw [readStatement, taken]
  split
  next name others same =>
    obtain ⟨-, rfl, behind⟩ : isName word = true ∧ String.ofList word = name
        ∧ rest ++ more = ':' :: others := by
      simpa [ite_eq_iff] using same
    match rest, quiet with
    | [c], quiet =>
        obtain rfl : c = ':' := (List.cons.inj behind).1
        cases quiet
    | c :: d :: _, quiet =>
        obtain rfl : c = ':' := (List.cons.inj behind).1
        simp [isQuiet] at quiet
        rw [quiet]
        rfl
  next name digits same =>
    obtain ⟨-, -, behind⟩ : isName word = true ∧ String.ofList word = name
        ∧ rest ++ more = ' ' :: '=' :: ' ' :: digits := by
      simpa [ite_eq_iff] using same
    match rest, quiet with
    | [c], quiet =>
        obtain rfl : c = ' ' := (List.cons.inj behind).1
        cases quiet
    | c :: d :: _, quiet =>
        obtain ⟨rfl, second⟩ := List.cons.inj behind
        obtain rfl : d = '=' := (List.cons.inj second).1
        simp [isQuiet] at quiet
  next => rfl

theorem IsCode.of_start (start : String) (isCode : isCodeStart start.toList = true)
    : IsCode start :=
  ⟨0, start.toList, [], by simp, isCode⟩

theorem IsCode.append {line : String} (isCode : IsCode line) (more : String)
    : IsCode (line ++ more) := by
  obtain ⟨width, start, rest, shape, starts⟩ := isCode
  exact ⟨width, start, rest ++ more.toList, by simp [shape], starts⟩

theorem IsCode.indent {line : String} (isCode : IsCode line) (width : Nat)
    : IsCode (String.ofList (List.replicate width ' ') ++ line) := by
  obtain ⟨inner, start, rest, shape, starts⟩ := isCode
  exact ⟨width + inner, start, rest, by simp [shape, ← List.replicate_append_replicate], starts⟩

/-- A line of code says nothing. -/
theorem IsCode.readLine? {line : String} (isCode : IsCode line)
    : readLine? typeName .outside line = some (.outside, {}) := by
  obtain ⟨width, start, more, shape, starts⟩ := isCode
  simp only [isCodeStart, Bool.and_eq_true, decide_eq_true_eq] at starts
  obtain ⟨⟨notSpace, notQuote⟩, quiet⟩ := starts
  have silent := readStatement_of_isQuiet rfl quiet more
  have begun : (start ++ more).head? = start.head? := by
    obtain _ | ⟨c, rest⟩ := start
    · cases quiet
    · rfl
  rw [← begun] at notSpace notQuote
  rw [readLine?_outside shape notSpace notQuote, content?]
  split
  next => rfl
  next =>
    rw [shape, dropWhile_spaces width notSpace, Option.map_some, silent]
    rfl

/-- An empty line says nothing. -/
theorem readLine?_empty : readLine? typeName .outside "" = some (.outside, {}) := rfl

end LiteralEnum.Module.Reading
