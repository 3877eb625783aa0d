import LiteralEnum.Proofs.Module.LineReading
import LiteralEnum.Proofs.Target.QuotedText
import LiteralEnum.Text.Json

/-! JSON texts as any reader of JSON takes them, with blanks between the parts and every escape,
and what the reader makes of the text that a document is given.
-/

namespace LiteralEnum.Text.JsonReader

-----------------------------------------------------------------------------------------
-- Strings
-----------------------------------------------------------------------------------------

def isSurrogate (unit : Nat) : Bool := 0xD800 ≤ unit && unit < 0xE000

/-- The characters of code units. Two escaped halves make one character; a half alone makes none. -/
def joinUnits : List Nat → Option (List Char)
  | [] => some []
  | [unit] => if isSurrogate unit then none else some [Char.ofNat unit]
  | unit :: next :: rest =>
      if 0xD800 ≤ unit ∧ unit < 0xDC00 ∧ 0xDC00 ≤ next ∧ next < 0xE000 then
        (joinUnits rest).map
          (Char.ofNat (0x10000 + (unit - 0xD800) * 0x400 + (next - 0xDC00)) :: ·)
      else if isSurrogate unit then none
      else (joinUnits (next :: rest)).map (Char.ofNat unit :: ·)

/-- The character that a letter behind a backslash stands for. -/
def letterEscape? (c : Char) : Option Char :=
  match c with
  | '"' => some '"'
  | '\\' => some '\\'
  | '/' => some '/'
  | 'b' => some '\x08'
  | 'f' => some '\x0c'
  | 'n' => some '\n'
  | 'r' => some '\r'
  | 't' => some '\t'
  | _ => none

/-- The code units of a string behind its opening quote, and what follows its closing quote. -/
def readUnits : List Char → Option (List Nat × List Char)
  | '"' :: rest => some ([], rest)
  | '\\' :: 'u' :: first :: second :: third :: fourth :: rest => do
      let (unit, _) ← Target.Literal.takeHex? 4 0 [first, second, third, fourth]
      let (units, rest) ← readUnits rest
      return (unit :: units, rest)
  | '\\' :: letter :: rest => do
      let meant ← letterEscape? letter
      let (units, rest) ← readUnits rest
      return (meant.toNat :: units, rest)
  | c :: rest => do
      if c = '\\' ∨ c.toNat < 0x20 then none
      let (units, rest) ← readUnits rest
      return (c.toNat :: units, rest)
  | [] => none

/-- A string behind its opening quote. -/
def readString (text : List Char) : Option (String × List Char) := do
  let (units, rest) ← readUnits text
  let content ← joinUnits units
  return (String.ofList content, rest)

-----------------------------------------------------------------------------------------
-- Documents
-----------------------------------------------------------------------------------------

def isJsonBlank (c : Char) : Bool := c = ' ' || c = '\n' || c = '\r' || c = '\t'

def skipBlanks (text : List Char) : List Char := text.dropWhile isJsonBlank

/-- A character that would go on with a whole number. -/
def continuesNumber (c : Char) : Bool := c.isDigit || c = '.' || c = 'e' || c = 'E'

/-- Digits without needless zeros, with no fraction and no exponent behind them. -/
def readDigits (text : List Char) : Option (Nat × List Char) :=
  let digits := text.takeWhile Char.isDigit
  let rest := text.dropWhile Char.isDigit
  if digits = [] ∨ (digits.head? = some '0' ∧ digits ≠ ['0']) ∨ rest.head?.any continuesNumber then
    none
  else some (Nat.ofDigitChars 10 digits 0, rest)

def readInteger : List Char → Option (Int × List Char)
  | '-' :: rest => (readDigits rest).map (Prod.map (fun value : Nat => -(value : Int)) id)
  | text => (readDigits text).map (Prod.map (fun value : Nat => (value : Int)) id)

section

variable {Item : Type}

/-- Items with commas between them, to the closing bracket. -/
def readSeveral (readOne : List Char → Option (Item × List Char)) (closing : Char)
    : Nat → List Char → Option (List Item × List Char)
  | 0, _ => none
  | fuel + 1, text => do
      let (item, rest) ← readOne text
      match skipBlanks rest with
      | [] => none
      | c :: others =>
          if c = ',' then (readSeveral readOne closing fuel others).map (Prod.map (item :: ·) id)
          else if c = closing then some ([item], others)
          else none

/-- What stands between brackets, read behind the opening one; the length of the text is fuel
enough.
-/
def readBlock (readOne : List Char → Option (Item × List Char)) (closing : Char)
    (text : List Char) : Option (List Item × List Char) :=
  if (skipBlanks text).head? = some closing then some ([], (skipBlanks text).tail)
  else readSeveral readOne closing text.length text

/-- A name, a colon and a value. -/
def readMember (readOne : List Char → Option (Item × List Char)) (text : List Char)
    : Option ((String × Item) × List Char) :=
  match skipBlanks text with
  | '"' :: rest => do
      let (name, rest) ← readString rest
      match skipBlanks rest with
      | ':' :: rest => do
          let (value, rest) ← readOne rest
          return ((name, value), rest)
      | _ => none
  | _ => none

end

/-- A value with blanks before it. The fuel bounds how deep values stand in others. -/
def readValue : Nat → List Char → Option (Json × List Char)
  | 0, _ => none
  | fuel + 1, text =>
      match skipBlanks text with
      | [] => none
      | c :: rest =>
          if c = '"' then (readString rest).map (Prod.map .text id)
          else if c = '[' then (readBlock (readValue fuel) ']' rest).map (Prod.map .list id)
          else if c = '\x7b' then
            (readBlock (readMember (readValue fuel)) '\x7d' rest).map (Prod.map .object id)
          else if c = 'n' then
            if "ull".toList.isPrefixOf rest then some (.null, rest.drop 3) else none
          else (readInteger (c :: rest)).map (Prod.map .integer id)

/-- The document that a text is, if it is one of texts, whole numbers and nulls. -/
def read? (text : List Char) : Option Json := do
  let (document, rest) ← readValue text.length text
  if skipBlanks rest = [] then some document else none

-----------------------------------------------------------------------------------------
-- Strings are read back
-----------------------------------------------------------------------------------------

/-- Code units of which one stands before those that follow. -/
def before (unit : Nat) (read : List Nat × List Char) : List Nat × List Char :=
  (unit :: read.1, read.2)

/-- The letters that stand for themselves or for a break stand so behind a backslash. -/
theorem readUnits_letter {letter meant : Char} (escape : letterEscape? letter = some meant)
    (notUnit : letter ≠ 'u') (text : List Char)
    : readUnits ('\\' :: letter :: text) = (readUnits text).map (before meant.toNat) := by
  rw [readUnits, escape]
  · cases readUnits text <;> rfl
  · rintro _ _ _ _ _ rfl
    exact absurd rfl notUnit

/-- Each character of a string is read as it is, however it is escaped. -/
theorem readUnits_stringChar (c : Char) (text : List Char)
    : readUnits (Json.stringChar c ++ text) = (readUnits text).map (before c.toNat) := by
  rw [Json.stringChar]
  split
  next isMark =>
    rcases (Bool.or_eq_true _ _).mp isMark with quote | backslash
    · obtain rfl := of_decide_eq_true quote
      exact readUnits_letter rfl (by decide) text
    · obtain rfl := of_decide_eq_true backslash
      exact readUnits_letter rfl (by decide) text
  next notMark =>
    split
    next isBreak =>
      subst isBreak
      exact readUnits_letter rfl (by decide) text
    split
    next isReturn =>
      subst isReturn
      exact readUnits_letter rfl (by decide) text
    split
    next isTab =>
      subst isTab
      exact readUnits_letter rfl (by decide) text
    split
    next isBackspace =>
      subst isBackspace
      exact readUnits_letter rfl (by decide) text
    split
    next isFormFeed =>
      subst isFormFeed
      exact readUnits_letter rfl (by decide) text
    split
    next isControl =>
      have fits : c.toNat < 16 ^ 4 := by omega
      have digits := Target.takeHex?_hexDigits_of_lt fits []
      rw [List.append_nil] at digits
      have four : hexDigits 4 c.toNat
          = [hexDigit (c.toNat / 16 / 16 / 16 % 16), hexDigit (c.toNat / 16 / 16 % 16),
              hexDigit (c.toNat / 16 % 16), hexDigit (c.toNat % 16)] := rfl
      rw [four] at digits ⊢
      simp only [List.cons_append, List.nil_append, readUnits, digits]
      cases readUnits text <;> rfl
    next notControl =>
      have notQuote : c ≠ '"' := by
        rintro rfl
        exact notMark rfl
      have notBackslash : c ≠ '\\' := by
        rintro rfl
        exact notMark rfl
      have isPlain : ¬ (c = '\\' ∨ c.toNat < 0x20) := not_or.mpr ⟨notBackslash, notControl⟩
      rw [List.singleton_append, readUnits, if_neg isPlain]
      · cases readUnits text <;> rfl
      · exact notQuote
      · exact fun _ _ _ _ _ isBackslash => absurd isBackslash notBackslash
      · exact fun _ _ isBackslash => absurd isBackslash notBackslash

/-- A string is read to its closing quote, by induction on its characters. -/
theorem readUnits_flatMap (content rest : List Char)
    : readUnits (content.flatMap Json.stringChar ++ '"' :: rest)
      = some (content.map Char.toNat, rest) := by
  induction content with
  | nil => rw [List.flatMap_nil, List.nil_append, readUnits, List.map_nil]
  | cons c others ih =>
      rw [List.flatMap_cons, List.append_assoc, readUnits_stringChar, ih]
      rfl

theorem not_isSurrogate (c : Char) : isSurrogate c.toNat = false := by
  have valid := c.valid
  simp only [UInt32.isValidChar, Nat.isValidChar] at valid
  simp only [isSurrogate, Bool.and_eq_false_iff, decide_eq_false_iff_not]
  have same : c.val.toNat = c.toNat := rfl
  omega

/-- No character is half of a pair, so that none is joined. By induction on the characters. -/
theorem joinUnits_map (content : List Char)
    : joinUnits (content.map Char.toNat) = some content := by
  induction content with
  | nil => rfl
  | cons c rest ih =>
      have single := not_isSurrogate c
      cases rest with
      | nil =>
          rw [List.map_cons, List.map_nil, joinUnits, single, Char.ofNat_toNat]
          rfl
      | cons next others =>
          have apart : ¬ (0xD800 ≤ c.toNat ∧ c.toNat < 0xDC00 ∧ 0xDC00 ≤ next.toNat
              ∧ next.toNat < 0xE000) := by
            simp only [isSurrogate, Bool.and_eq_false_iff, decide_eq_false_iff_not] at single
            omega
          rw [List.map_cons, List.map_cons] at *
          rw [joinUnits, if_neg apart, single, ih, Char.ofNat_toNat]
          rfl

theorem readString_flatMap (content : String) (rest : List Char)
    : readString (content.toList.flatMap Json.stringChar ++ '"' :: rest)
      = some (content, rest) := by
  rw [readString, readUnits_flatMap]
  simp only [bind, Option.bind, joinUnits_map, String.ofList_toList]
  rfl

-----------------------------------------------------------------------------------------
-- Numbers are read back
-----------------------------------------------------------------------------------------

/-- Nothing goes on with a number. -/
def EndsNumber (rest : List Char) : Prop := ∀ c ∈ rest.head?, continuesNumber c = false

/-- The digits of a number start with a zero only if they are nothing more. By strong induction,
the last digit apart.
-/
theorem head?_toDigits {value : Nat} (positive : 0 < value)
    : (Nat.toDigits 10 value).head? ≠ some '0' := by
  induction value using Nat.strongRecOn with
  | ind value ih =>
      by_cases small : value < 10
      · rw [Nat.toDigits_of_lt_base small]
        have digits : ∀ digit < 10, 0 < digit → [Nat.digitChar digit].head? ≠ some '0' := by decide
        exact digits value small positive
      · have large : 10 ≤ value := Nat.le_of_not_lt small
        have front := ih (value / 10) (by omega) (by omega)
        rw [Nat.toDigits_of_base_le (by decide) large,
          List.head?_append_of_ne_nil _ Nat.toDigits_ne_nil]
        exact front

/-- The digits of a number are read up to what ends it. -/
theorem readDigits_toDigits (value : Nat) {rest : List Char} (ends : EndsNumber rest)
    : readDigits (Nat.toDigits 10 value ++ rest) = some (value, rest) := by
  have areDigits : ∀ c ∈ Nat.toDigits 10 value, c.isDigit = true :=
    fun c member => Nat.isDigit_of_mem_toDigits (by decide) (by decide) member
  have free : rest.head?.any continuesNumber = false := by
    cases rest with
    | nil => rfl
    | cons c others => exact ends c rfl
  have stops : rest.takeWhile Char.isDigit = [] ∧ rest.dropWhile Char.isDigit = rest := by
    cases rest with
    | nil => exact ⟨rfl, rfl⟩
    | cons c others =>
        have notDigit : c.isDigit = false := by
          have apart := ends c rfl
          simp only [continuesNumber, Bool.or_eq_false_iff] at apart
          exact apart.1.1.1
        simp [notDigit]
  have canonical : ¬ (Nat.toDigits 10 value = [] ∨ ((Nat.toDigits 10 value).head? = some '0'
      ∧ Nat.toDigits 10 value ≠ ['0']) ∨ rest.head?.any continuesNumber = true) := by
    rintro (empty | ⟨zero, more⟩ | goesOn)
    · exact Nat.toDigits_ne_nil empty
    · rcases Nat.eq_zero_or_pos value with rfl | positive
      · exact more rfl
      · exact head?_toDigits positive zero
    · rw [free] at goesOn
      cases goesOn
  rw [readDigits, List.takeWhile_append_of_pos areDigits, List.dropWhile_append_of_pos areDigits,
    stops.1, stops.2, List.append_nil, if_neg canonical, Nat.ofDigitChars_ten_toDigits]

/-- A whole number is read back. -/
theorem readInteger_toString (number : Int) {rest : List Char} (ends : EndsNumber rest)
    : readInteger ((toString number).toList ++ rest) = some (number, rest) := by
  cases number with
  | ofNat value =>
      have written : (toString (Int.ofNat value)).toList = Nat.toDigits 10 value :=
        Module.Reading.toList_toString value
      have unsigned : ∀ body, Nat.toDigits 10 value ++ rest ≠ '-' :: body := by
        intro body signed
        cases digits : Nat.toDigits 10 value with
        | nil => exact Nat.toDigits_ne_nil digits
        | cons c others =>
            have isDigit : c.isDigit = true :=
              Nat.isDigit_of_mem_toDigits (by decide) (by decide) (digits ▸ List.mem_cons_self)
            rw [digits] at signed
            rw [(List.cons.inj signed).1] at isDigit
            cases isDigit
      rw [written, readInteger]
      · rw [readDigits_toDigits value ends]
        rfl
      · exact unsigned
  | negSucc value =>
      have written
          : (toString (Int.negSucc value)).toList = '-' :: Nat.toDigits 10 (value + 1) := by
        rw [← Module.Reading.toList_toString]
        exact String.toList_append
      rw [written, List.cons_append, readInteger, readDigits_toDigits (value + 1) ends]
      rfl

-----------------------------------------------------------------------------------------
-- Blocks are read back
-----------------------------------------------------------------------------------------

theorem isJsonBlank_lineBreak (width depth : Nat)
    : ∀ c ∈ Json.lineBreak width depth, isJsonBlank c = true := by
  intro c member
  rcases List.mem_cons.mp member with rfl | space
  · rfl
  · rw [List.eq_of_mem_replicate space]
    rfl

theorem skipBlanks_lineBreak (width depth : Nat) (text : List Char)
    : skipBlanks (Json.lineBreak width depth ++ text) = skipBlanks text :=
  List.dropWhile_append_of_pos (isJsonBlank_lineBreak width depth)

theorem endsNumber_lineBreak (width depth : Nat) (text : List Char)
    : EndsNumber (Json.lineBreak width depth ++ text) := by
  intro c first
  obtain rfl : '\n' = c := Option.some.inj first
  rfl

section

variable {Item : Type} {spell : Item → List Char}
  {readOne : List Char → Option (Item × List Char)} {closing : Char}

/-- The texts of items are read back, with blanks before them, and none starts with the bracket
that closes the block.
-/
structure ReadsItems (spell : Item → List Char)
    (readOne : List Char → Option (Item × List Char)) (closing : Char) (items : List Item)
    : Prop where
  reads
    : ∀ item ∈ items, ∀ width depth rest, EndsNumber rest →
        readOne (Json.lineBreak width depth ++ (spell item ++ rest)) = some (item, rest)
  opens : ∀ item ∈ items, ∀ rest, (skipBlanks (spell item ++ rest)).head? ≠ some closing

theorem ReadsItems.tail {item : Item} {items : List Item}
    (reads : ReadsItems spell readOne closing (item :: items))
    : ReadsItems spell readOne closing items :=
  ⟨fun other member => reads.reads other (List.mem_cons_of_mem _ member),
    fun other member => reads.opens other (List.mem_cons_of_mem _ member)⟩

/-- A text with others behind it goes on, and each of the others adds to it. -/
theorem exists_intercalate {separator : List Char} (separates : separator ≠ [])
    (first : List Char) (others : List (List Char))
    : ∃ more,
        separator.intercalate (first :: others) = first ++ more
        ∧ others.length ≤ more.length := by
  induction others generalizing first with
  | nil => exact ⟨[], by simp, le_rfl⟩
  | cons next rest ih =>
      obtain ⟨more, front, enough⟩ := ih next
      refine ⟨separator ++ (next ++ more), by simp [List.intercalate_cons_cons, front], ?_⟩
      have positive := List.length_pos_of_ne_nil separates
      simp only [List.length_append, List.length_cons]
      omega

/-- A text is no longer than the texts that it is one of, by induction on them. -/
theorem length_le_intercalate {text : List Char} {texts : List (List Char)}
    (member : text ∈ texts) (separator : List Char)
    : text.length ≤ (separator.intercalate texts).length := by
  induction texts with
  | nil => cases member
  | cons first others ih =>
      cases others with
      | nil =>
          rw [List.mem_singleton.mp member, List.intercalate_singleton]
      | cons next rest =>
          rw [List.intercalate_cons_cons, List.length_append, List.length_append]
          rcases List.mem_cons.mp member with rfl | later
          · omega
          · have within := ih later
            omega

/-- Items with commas between them are read one by one, by induction on the items. -/
theorem readSeveral_items {item : Item} {items : List Item}
    (reads : ReadsItems spell readOne closing (item :: items)) (notComma : closing ≠ ',')
    (notBlank : isJsonBlank closing = false) (width depth outer : Nat) (rest : List Char)
    {fuel : Nat} (enough : items.length < fuel)
    : readSeveral readOne closing fuel
        (Json.lineBreak width depth
          ++ ((",".toList ++ Json.lineBreak width depth).intercalate ((item :: items).map spell)
            ++ (Json.lineBreak width outer ++ closing :: rest)))
      = some (item :: items, rest) := by
  cases fuel with
  | zero => cases enough
  | succ fuel =>
    induction items generalizing item fuel with
    | nil =>
        have first := reads.reads item List.mem_cons_self width depth
          (Json.lineBreak width outer ++ closing :: rest) (endsNumber_lineBreak _ _ _)
        have closes : skipBlanks (Json.lineBreak width outer ++ closing :: rest)
            = closing :: rest := by
          rw [skipBlanks_lineBreak, skipBlanks, List.dropWhile_cons_of_neg (by simp [notBlank])]
        rw [List.map_singleton, List.intercalate_singleton, readSeveral, first]
        simp [closes, notComma]
    | cons next others ih =>
        obtain ⟨fuel, rfl⟩ : ∃ more, fuel = more + 1 := ⟨fuel - 1, by simp at enough; omega⟩
        have later := ih reads.tail fuel (by simpa using enough)
        have first := reads.reads item List.mem_cons_self width depth
          (',' :: (Json.lineBreak width depth
            ++ ((",".toList ++ Json.lineBreak width depth).intercalate ((next :: others).map spell)
              ++ (Json.lineBreak width outer ++ closing :: rest))))
          (by rintro c ⟨⟩; rfl)
        have goesOn : ∀ text, skipBlanks (',' :: text) = ',' :: text := fun _ => rfl
        have parts : Json.lineBreak width depth
            ++ ((",".toList ++ Json.lineBreak width depth).intercalate
                ((item :: next :: others).map spell)
              ++ (Json.lineBreak width outer ++ closing :: rest))
            = Json.lineBreak width depth ++ (spell item ++ (',' :: (Json.lineBreak width depth
              ++ ((",".toList ++ Json.lineBreak width depth).intercalate
                  ((next :: others).map spell)
                ++ (Json.lineBreak width outer ++ closing :: rest))))) := by
          have comma : ",".toList = [','] := rfl
          simp only [List.map_cons, List.intercalate_cons_cons, List.append_assoc, comma,
            List.cons_append, List.nil_append]
        rw [parts, readSeveral, first]
        simp only [bind, Option.bind, goesOn, if_pos, later]
        rfl

/-- What stands between brackets is read back. -/
theorem readBlock_block {items : List Item} (reads : ReadsItems spell readOne closing items)
    (notComma : closing ≠ ',') (notBlank : isJsonBlank closing = false) (width depth : Nat)
    (opening : Char) (rest : List Char)
    : ∃ body,
        Json.block width depth opening closing (items.map spell) ++ rest = opening :: body
        ∧ readBlock readOne closing body = some (items, rest) := by
  cases items with
  | nil =>
      refine ⟨closing :: rest, rfl, ?_⟩
      have stays : skipBlanks (closing :: rest) = closing :: rest := by
        rw [skipBlanks, List.dropWhile_cons_of_neg (by simp [notBlank])]
      rw [readBlock, stays, if_pos List.head?_cons, List.tail_cons]
  | cons item items =>
      have separates : ",".toList ++ Json.lineBreak width (depth + 1) ≠ [] := by simp
      obtain ⟨more, front⟩ := exists_intercalate separates (spell item) (items.map spell)
      have isOpen : (skipBlanks ((",".toList ++ Json.lineBreak width (depth + 1)).intercalate
            ((item :: items).map spell)
          ++ (Json.lineBreak width depth ++ closing :: rest))).head? ≠ some closing := by
        rw [List.map_cons, front.1, List.append_assoc]
        exact reads.opens item List.mem_cons_self _
      refine ⟨Json.lineBreak width (depth + 1)
          ++ ((",".toList ++ Json.lineBreak width (depth + 1)).intercalate
              ((item :: items).map spell)
            ++ (Json.lineBreak width depth ++ closing :: rest)), by simp [Json.block], ?_⟩
      rw [readBlock, skipBlanks_lineBreak, if_neg isOpen]
      refine readSeveral_items reads notComma notBlank width (depth + 1) depth rest ?_
      have enough := front.2
      have whole := congrArg List.length front.1
      rw [List.length_map] at enough
      rw [List.length_append] at whole
      rw [List.map_cons, List.length_append, List.length_append, whole, List.length_append]
      simp only [List.length_cons]
      omega

end

/-- An item is shorter than the block it stands in. -/
theorem length_lt_block {text : List Char} {texts : List (List Char)} (member : text ∈ texts)
    (width depth : Nat) (opening closing : Char)
    : text.length < (Json.block width depth opening closing texts).length := by
  cases texts with
  | nil => cases member
  | cons first others =>
      have within := length_le_intercalate member (",".toList ++ Json.lineBreak width (depth + 1))
      simp only [Json.block, List.length_append, List.length_cons] at within ⊢
      omega

-----------------------------------------------------------------------------------------
-- Documents are read back
-----------------------------------------------------------------------------------------

theorem renderItems_eq (width depth : Nat) (items : List Json)
    : Json.renderItems width depth items = items.map (Json.render width depth) := by
  induction items with
  | nil => rfl
  | cons item rest ih => rw [Json.renderItems, ih, List.map_cons]

/-- The text of a member. -/
def spellMember (width depth : Nat) (member : String × Json) : List Char :=
  Json.stringText member.1 ++ ": ".toList ++ Json.render width depth member.2

theorem renderMembers_eq (width depth : Nat) (members : List (String × Json))
    : Json.renderMembers width depth members = members.map (spellMember width depth) := by
  induction members with
  | nil => rfl
  | cons member rest ih =>
      obtain ⟨name, value⟩ := member
      rw [Json.renderMembers, ih, List.map_cons]
      rfl

/-- A number starts with a sign or a digit. -/
def StartsNumber (c : Char) : Prop := c = '-' ∨ c.isDigit = true

instance (c : Char) : Decidable (StartsNumber c) := inferInstanceAs (Decidable (_ ∨ _))

theorem StartsNumber.ne {c : Char} (starts : StartsNumber c) (other : Char)
    (apart : ¬ StartsNumber other)
    : c ≠ other := by
  rintro rfl
  exact apart starts

theorem StartsNumber.not_blank {c : Char} (starts : StartsNumber c) : isJsonBlank c = false := by
  simp [isJsonBlank, starts.ne ' ' (by decide), starts.ne '\n' (by decide),
    starts.ne '\r' (by decide), starts.ne '\t' (by decide)]

theorem exists_toString (number : Int)
    : ∃ c others, (toString number).toList = c :: others ∧ StartsNumber c := by
  cases number with
  | ofNat value =>
      have written : (toString (Int.ofNat value)).toList = Nat.toDigits 10 value :=
        Module.Reading.toList_toString value
      cases digits : Nat.toDigits 10 value with
      | nil => exact absurd digits Nat.toDigits_ne_nil
      | cons c others =>
          have isDigit : c.isDigit = true :=
            Nat.isDigit_of_mem_toDigits (by decide) (by decide) (digits ▸ List.mem_cons_self)
          exact ⟨c, others, written.trans digits, Or.inr isDigit⟩
  | negSucc value => exact ⟨'-', _, String.toList_append, Or.inl rfl⟩

/-- A document starts with a character that is no blank and closes nothing. -/
theorem exists_render (width depth : Nat) (document : Json)
    : ∃ c others,
        document.render width depth = c :: others ∧ isJsonBlank c = false ∧ c ≠ ']' := by
  cases document with
  | null => exact ⟨_, _, rfl, by decide, by decide⟩
  | integer number =>
      obtain ⟨c, others, written, starts⟩ := exists_toString number
      exact ⟨c, others, written, starts.not_blank, starts.ne ']' (by decide)⟩
  | text content => exact ⟨_, _, rfl, by decide, by decide⟩
  | list items =>
      rw [Json.render]
      cases Json.renderItems width (depth + 1) items with
      | nil => exact ⟨_, _, rfl, by decide, by decide⟩
      | cons first others => exact ⟨_, _, rfl, by decide, by decide⟩
  | object members =>
      rw [Json.render]
      cases Json.renderMembers width (depth + 1) members with
      | nil => exact ⟨_, _, rfl, by decide, by decide⟩
      | cons first others => exact ⟨_, _, rfl, by decide, by decide⟩

/-- Documents that fit are read back, also with blanks before them. -/
def ReadsDocuments (readOne : List Char → Option (Json × List Char)) (limit : Nat) : Prop :=
  ∀ (document : Json) (width depth : Nat) (blanks rest : List Char),
    (document.render width depth).length ≤ limit
    → (∀ c ∈ blanks, isJsonBlank c = true)
    → EndsNumber rest
    → readOne (blanks ++ (document.render width depth ++ rest)) = some (document, rest)

/-- Items that fit are read back. -/
theorem ReadsDocuments.items {readOne : List Char → Option (Json × List Char)} {limit : Nat}
    (reads : ReadsDocuments readOne limit) {items : List Json} {width depth : Nat}
    (fit : ∀ item ∈ items, (item.render width depth).length ≤ limit)
    : ReadsItems (Json.render width depth) readOne ']' items := by
  refine ⟨?_, ?_⟩
  · intro item member breakWidth breakDepth rest ends
    exact reads item width depth _ rest (fit item member)
      (isJsonBlank_lineBreak breakWidth breakDepth) ends
  · intro item member rest closes
    obtain ⟨c, others, starts, notBlank, notClosing⟩ := exists_render width depth item
    rw [starts, List.cons_append, skipBlanks, List.dropWhile_cons_of_neg (by simp [notBlank])]
      at closes
    exact notClosing (Option.some.inj closes)

/-- Members that fit are read back. -/
theorem ReadsDocuments.members {readOne : List Char → Option (Json × List Char)} {limit : Nat}
    (reads : ReadsDocuments readOne limit) {members : List (String × Json)} {width depth : Nat}
    (fit : ∀ member ∈ members, (spellMember width depth member).length ≤ limit)
    : ReadsItems (spellMember width depth) (readMember readOne) '\x7d' members := by
  have opening : ∀ (member : String × Json) (rest : List Char),
      skipBlanks (spellMember width depth member ++ rest)
        = '"' :: (member.1.toList.flatMap Json.stringChar
            ++ '"' :: ':' :: ([' '] ++ (member.2.render width depth ++ rest))) := by
    intro member rest
    have colon : ": ".toList = [':', ' '] := rfl
    simp [spellMember, Json.stringText, skipBlanks, isJsonBlank, colon]
  refine ⟨?_, ?_⟩
  · intro member isMember breakWidth breakDepth rest ends
    have fits : (member.2.render width depth).length ≤ limit := by
      have whole := fit member isMember
      rw [spellMember, List.length_append] at whole
      omega
    have value := reads member.2 width depth [' '] rest fits (by simp [isJsonBlank]) ends
    have colon : ∀ text, skipBlanks (':' :: text) = ':' :: text := fun _ => rfl
    rw [readMember, skipBlanks_lineBreak, opening]
    simp only [bind, Option.bind, readString_flatMap, colon, value]
    rfl
  · intro member isMember rest closes
    rw [opening] at closes
    cases closes

/-- Documents are read back. By induction on the fuel, which every text that stands in another has
less of.
-/
theorem readsDocuments (fuel : Nat) : ReadsDocuments (readValue fuel) fuel := by
  induction fuel with
  | zero =>
      intro document width depth blanks rest enough
      obtain ⟨c, others, starts, -⟩ := exists_render width depth document
      rw [starts] at enough
      cases enough
  | succ fuel ih =>
      intro document width depth blanks rest enough areBlank ends
      have skipped : skipBlanks (blanks ++ (document.render width depth ++ rest))
          = document.render width depth ++ rest := by
        obtain ⟨c, others, starts, notBlank, -⟩ := exists_render width depth document
        rw [skipBlanks, List.dropWhile_append_of_pos areBlank, starts, List.cons_append,
          List.dropWhile_cons_of_neg (by simp [notBlank])]
      rw [readValue, skipped]
      cases document with
      | null => rfl
      | text content =>
          have read := readString_flatMap content rest
          simp only [Json.render, Json.stringText, List.cons_append, List.append_assoc,
            List.nil_append, if_pos, read]
          rfl
      | integer number =>
          obtain ⟨first, digits, written, starts⟩ := exists_toString number
          have read := readInteger_toString number ends
          rw [Json.render, written, List.cons_append]
          rw [written, List.cons_append] at read
          simp only [if_neg (starts.ne '"' (by decide)),
            if_neg (starts.ne '[' (by decide)),
            if_neg (starts.ne '\x7b' (by decide)),
            if_neg (starts.ne 'n' (by decide)), read]
          rfl
      | list items =>
          rw [Json.render, renderItems_eq] at enough
          have fit : ∀ item ∈ items, (item.render width (depth + 1)).length ≤ fuel := by
            intro item member
            have spelled := List.mem_map_of_mem (f := Json.render width (depth + 1)) member
            have inside := length_lt_block spelled width depth '[' ']'
            omega
          obtain ⟨body, whole, read⟩ :=
            readBlock_block (ih.items fit) (by decide) (by decide) width depth '[' rest
          rw [Json.render, renderItems_eq, whole]
          simp only [if_neg (show '[' ≠ '"' by decide), if_pos, read]
          rfl
      | object members =>
          rw [Json.render, renderMembers_eq] at enough
          have fit : ∀ member ∈ members,
              (spellMember width (depth + 1) member).length ≤ fuel := by
            intro member isMember
            have spelled := List.mem_map_of_mem (f := spellMember width (depth + 1)) isMember
            have inside := length_lt_block spelled width depth '\x7b' '\x7d'
            omega
          obtain ⟨body, whole, read⟩ :=
            readBlock_block (ih.members fit) (by decide) (by decide) width depth '\x7b' rest
          rw [Json.render, renderMembers_eq, whole]
          simp only [if_neg (show '\x7b' ≠ '"' by decide), if_neg (show '\x7b' ≠ '[' by decide),
            if_pos, read]
          rfl

/-- The text of a document is read as the document. -/
theorem read?_render (document : Json) (width : Nat)
    : read? (document.render width 0) = some document := by
  have read := readsDocuments (document.render width 0).length document width 0 [] [] le_rfl
    (by simp) (by simp [EndsNumber])
  rw [List.nil_append, List.append_nil] at read
  rw [read?, read]
  rfl

end LiteralEnum.Text.JsonReader
