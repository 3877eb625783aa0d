import LiteralEnum.Proofs.Declaration.Derivation
import LiteralEnum.Proofs.Text.Blank
import Mathlib.Data.List.TakeDrop

/-! The reader of declarations accepts exactly the token lists that have a derivation, and
reads the declaration of the derivation off them. Derivations are unique.
-/

namespace LiteralEnum.Declaration

open LiteralEnum.Parser

-----------------------------------------------------------------------------------------
-- The data field
-----------------------------------------------------------------------------------------

/-- A text whose stripped form is a name holds no colon: a colon is neither a blank nor a
character of a name.
-/
theorem colon_not_mem_of_isName {text : List Char}
    (isName : Text.isName (Text.strip text) = true)
    : ':' ∉ text := by
  intro member
  rcases Text.isBlank_or_mem_strip member with blank | kept
  · exact absurd blank (by decide)
  · exact absurd (Text.isNameContinue_of_mem isName kept) (by decide)

/-- The split is at the first colon. -/
theorem splitField_eq_some_iff {text name typeText : List Char}
    : splitField text = some (name, typeText)
      ↔ text = name ++ ':' :: typeText ∧ ':' ∉ name := by
  simp only [splitField, List.span_eq_takeWhile_dropWhile, ne_eq, decide_not]
  constructor
  · intro split
    have joined := List.takeWhile_append_dropWhile (p := (fun c => !decide (c = ':'))) (l := text)
    have stopped := List.head?_dropWhile_not (fun c => !decide (c = ':')) text
    cases tail : text.dropWhile (fun c => !decide (c = ':')) with
    | nil => simp only [tail, reduceCtorEq] at split
    | cons c rest =>
        simp only [tail, Option.some.injEq, Prod.mk.injEq, List.head?_cons] at split stopped
        obtain ⟨rfl, rfl⟩ := split
        have colon : c = ':' := by simpa using stopped
        subst colon
        refine ⟨by rw [← tail, joined], fun member => ?_⟩
        simpa using List.mem_takeWhile_imp member
  · rintro ⟨rfl, absent⟩
    have before : ∀ c ∈ name, (!decide (c = ':')) = true := by
      intro c member
      have other : c ≠ ':' := fun same => absent (same ▸ member)
      simpa using other
    rw [List.takeWhile_append_of_pos before, List.dropWhile_append_of_pos before]
    simp

/-- Reading a data field succeeds exactly on the blocks of field phrases, with the field of
the phrase.
-/
theorem parseField?_eq_some_iff (block : Token.Of .block) {field : DataField}
    : parseField? block.val = some field
      ↔ ∃ phrase : FieldPhrase, phrase.block = block ∧ phrase.field = field := by
  simp only [parseField?, Option.bind_eq_bind, Option.bind_eq_some_iff, Prod.exists]
  constructor
  · rintro ⟨name, typeText, split, accepted⟩
    have text_eq := (splitField_eq_some_iff.mp split).1
    split at accepted
    next valid =>
      simp only [Bool.and_eq_true, Bool.not_eq_true', List.isEmpty_eq_false_iff] at valid
      exact ⟨⟨block, name, typeText, text_eq, valid.1, valid.2⟩, rfl, Option.some.inj accepted⟩
    next => simp at accepted
  · rintro ⟨phrase, rfl, rfl⟩
    refine ⟨phrase.name, phrase.typeText, ?_, ?_⟩
    · exact splitField_eq_some_iff.mpr ⟨phrase.text_eq, colon_not_mem_of_isName phrase.isName⟩
    · simp [phrase.isName, phrase.hasType, FieldPhrase.field]

-----------------------------------------------------------------------------------------
-- Reading the significant tokens
-----------------------------------------------------------------------------------------

/-- The states along a list of significant tokens. -/
def steps (state : State) (tokens : List Token) : Except ParseError State :=
  tokens.foldlM step state

@[simp]
theorem steps_nil (state : State) : steps state [] = .ok state := rfl

theorem steps_append {state middle : State} {left : List Token} (right : List Token)
    (taken : steps state left = .ok middle)
    : steps state (left ++ right) = steps middle right := by
  rw [steps] at taken
  simp [steps, List.foldlM_append, taken, bind, Except.bind]

theorem steps_cons {state next : State} {token : Token} (rest : List Token)
    (first : step state token = .ok next)
    : steps state (token :: rest) = steps next rest := by
  simp [steps, List.foldlM_cons, first, bind, Except.bind]

/-- The token that a reader takes for the end of a list. -/
def ending (tokens : List Token) : Token :=
  (tokens.find? (·.kind = .endOfSource)).getD .missingEnd

/-- A run steps through the significant tokens and finishes at the end of the list, by
induction on the list.
-/
theorem run_eq_steps (state : State) (tokens : List Token)
    : run state tokens
      = (steps state (Token.significant tokens)).bind (finish · (ending tokens)) := by
  induction tokens generalizing state with
  | nil => rfl
  | cons token rest ih =>
      rw [run]
      split
      next kind => simp [ih, Token.significant, ending, kind]
      next kind => simp [Token.significant, ending, kind, Except.bind]
      next notNewline notEnd =>
        have visible : Token.significant (token :: rest) = token :: Token.significant rest := by
          have kept : token.kind ≠ .newline := notNewline
          have read : token.kind ≠ .endOfSource := notEnd
          simp [Token.significant, kept, read]
        have same : ending (token :: rest) = ending rest := by
          have read : token.kind ≠ .endOfSource := notEnd
          simp [ending, read]
        rw [visible, same]
        cases taken : step state token with
        | error error => simp [steps, List.foldlM_cons, taken, bind, Except.bind]
        | ok next => simp [steps_cons _ taken, ih, bind, Except.bind]

-----------------------------------------------------------------------------------------
-- What a state has read
-----------------------------------------------------------------------------------------

/-- The tokens are the opening of a declaration and some whole variants, which together
declare this much.
-/
def Spells (read : List Token) (declaration : Declaration) : Prop :=
  ∃ heading field equals phrases,
    read = openingTokens heading field equals ++ phrases.flatMap VariantPhrase.tokens
    ∧ declaration = heading.declaration field phrases

/-- The part of a derivation that leads the reader into a state. -/
def HasRead (read : List Token) : State → Prop
  | .imports done =>
      ∃ phrases : List ImportPhrase,
        read = phrases.flatMap ImportPhrase.tokens
        ∧ done = phrases.map ImportPhrase.directive
  | .importText done keyword =>
      ∃ (phrases : List ImportPhrase) (word : Token.Of .importWord),
        read = phrases.flatMap ImportPhrase.tokens ++ [keyword]
        ∧ done = phrases.map ImportPhrase.directive
        ∧ keyword = word.val
  | .enumDoc done first lines =>
      ∃ (phrases : List ImportPhrase) (docs : List (Token.Of .docComment)),
        read = phrases.flatMap ImportPhrase.tokens ++ leaves docs
        ∧ done = phrases.map ImportPhrase.directive
        ∧ (leaves docs).head? = some first
        ∧ lines = docs.map (·.val.value)
  | .enumName declaration =>
      ∃ heading : Heading, read = heading.tokens ∧ declaration = heading.declaration none []
  | .dataField declaration =>
      ∃ (heading : Heading) (field : FieldPhrase),
        read = heading.tokens ++ [field.block.val]
        ∧ declaration = heading.declaration (some field) []
  | .variants declaration => Spells read declaration
  | .variantDoc declaration first lines =>
      ∃ (before : List Token) (docs : List (Token.Of .docComment)),
        read = before ++ leaves docs
        ∧ Spells before declaration
        ∧ (leaves docs).head? = some first
        ∧ lines = docs.map (·.val.value)
  | .variantName declaration doc name =>
      ∃ (before : List Token) (docs : List (Token.Of .docComment)) (word : Token.Of .identifier),
        read = before ++ leaves docs ++ [name]
        ∧ Spells before declaration
        ∧ doc = docText? docs
        ∧ name = word.val
  | .literals declaration variant =>
      ∃ (before : List Token) (phrase : VariantPhrase),
        read = before ++ phrase.tokens
        ∧ Spells before declaration
        ∧ phrase.data = none
        ∧ variant = phrase.variant

/-- A further whole variant extends what is spelled. -/
theorem Spells.addVariant {before : List Token} {declaration : Declaration}
    (spells : Spells before declaration) (phrase : VariantPhrase)
    : Spells (before ++ phrase.tokens) (addVariant declaration phrase.variant) := by
  obtain ⟨heading, field, equals, phrases, rfl, rfl⟩ := spells
  refine ⟨heading, field, equals, phrases ++ [phrase], ?_, ?_⟩
  · simp
  · simp [Parser.addVariant, Heading.declaration]

/-- An opening with at least one variant is a whole declaration. -/
theorem Spells.exists_derivation {read : List Token} {declaration : Declaration}
    (spells : Spells read declaration) (present : declaration.variants ≠ [])
    : ∃ derivation : Derivation,
        derivation.tokens = read ∧ derivation.declaration = declaration := by
  obtain ⟨heading, field, equals, phrases, rfl, rfl⟩ := spells
  have present : phrases ≠ [] := by
    rintro rfl
    exact present rfl
  exact ⟨⟨heading, field, equals, phrases, present⟩, rfl, rfl⟩

/-- Doc comments that are there have a text. -/
theorem docText?_of_head? {docs : List (Token.Of .docComment)} {first : Token}
    (head : (leaves docs).head? = some first)
    : docText? docs = some (joinDoc (docs.map (·.val.value))) := by
  cases docs with
  | nil => simp [leaves] at head
  | cons => rfl

/-- One step keeps track of what has been read, by cases on the step. -/
theorem HasRead.step {read : List Token} {state next : State} {token : Token}
    (reads : HasRead read state) (taken : Parser.step state token = .ok next)
    : HasRead (read ++ [token]) next := by
  revert taken
  fun_cases Parser.step state token with
  | case1 done kind =>
      rintro ⟨⟩
      obtain ⟨phrases, rfl, rfl⟩ := reads
      exact ⟨phrases, ⟨token, kind⟩, rfl, rfl, rfl⟩
  | case2 done kind =>
      rintro ⟨⟩
      obtain ⟨phrases, rfl, rfl⟩ := reads
      exact ⟨phrases, [⟨token, kind⟩], rfl, rfl, rfl, rfl⟩
  | case3 done kind =>
      rintro ⟨⟩
      obtain ⟨phrases, rfl, rfl⟩ := reads
      exact ⟨⟨phrases, [], ⟨token, kind⟩⟩, by simp [Heading.tokens], rfl⟩
  | case4 done keyword kind =>
      rintro ⟨⟩
      obtain ⟨phrases, word, rfl, rfl, rfl⟩ := reads
      refine ⟨phrases ++ [⟨word, ⟨token, kind⟩⟩], ?_, ?_⟩
      · simp [ImportPhrase.tokens]
      · simp [ImportPhrase.directive]
  | case5 done first lines kind =>
      rintro ⟨⟩
      obtain ⟨phrases, docs, rfl, rfl, head, rfl⟩ := reads
      refine ⟨phrases, docs ++ [⟨token, kind⟩], ?_, rfl, ?_, ?_⟩
      · simp
      · simp [List.head?_append, head]
      · simp
  | case6 done first lines kind =>
      rintro ⟨⟩
      obtain ⟨phrases, docs, rfl, rfl, head, rfl⟩ := reads
      refine ⟨⟨phrases, docs, ⟨token, kind⟩⟩, rfl, ?_⟩
      simp [beginEnum, Heading.declaration, docText?_of_head? head]
  | case7 declaration kind field parsed =>
      rintro ⟨⟩
      obtain ⟨heading, rfl, rfl⟩ := reads
      obtain ⟨phrase, same, rfl⟩ :=
        (parseField?_eq_some_iff ⟨token, kind⟩).mp parsed
      exact ⟨heading, phrase, by simp [same], rfl⟩
  | case9 declaration kind =>
      rintro ⟨⟩
      obtain ⟨heading, rfl, rfl⟩ := reads
      exact ⟨heading, none, ⟨token, kind⟩, [], by simp [openingTokens], rfl⟩
  | case10 declaration kind =>
      rintro ⟨⟩
      obtain ⟨heading, field, rfl, rfl⟩ := reads
      exact ⟨heading, some field, ⟨token, kind⟩, [], by simp [openingTokens], rfl⟩
  | case11 declaration kind =>
      rintro ⟨⟩
      exact ⟨read, [⟨token, kind⟩], rfl, reads, rfl, rfl⟩
  | case12 declaration kind =>
      rintro ⟨⟩
      exact ⟨read, [], ⟨token, kind⟩, by simp, reads, rfl, rfl⟩
  | case13 declaration first lines kind =>
      rintro ⟨⟩
      obtain ⟨before, docs, rfl, spells, head, rfl⟩ := reads
      refine ⟨before, docs ++ [⟨token, kind⟩], ?_, spells, ?_, ?_⟩
      · simp
      · simp [List.head?_append, head]
      · simp
  | case14 declaration first lines kind =>
      rintro ⟨⟩
      obtain ⟨before, docs, rfl, spells, head, rfl⟩ := reads
      exact ⟨before, docs, ⟨token, kind⟩, rfl, spells, (docText?_of_head? head).symm, rfl⟩
  | case15 declaration doc name kind =>
      rintro ⟨⟩
      obtain ⟨before, docs, word, rfl, spells, rfl, rfl⟩ := reads
      refine ⟨before, ⟨docs, word, ⟨token, kind⟩, [], none⟩, ?_, spells, rfl, rfl⟩
      simp [VariantPhrase.tokens]
  | case16 declaration variant kind =>
      rintro ⟨⟩
      obtain ⟨before, phrase, rfl, spells, noData, rfl⟩ := reads
      refine ⟨before,
        { phrase with alternates := phrase.alternates ++ [⟨token, kind⟩] }, ?_, spells,
        noData, ?_⟩
      · simp [VariantPhrase.tokens, leaves, noData]
      · simp [VariantPhrase.variant]
  | case18 declaration variant kind filled =>
      rintro ⟨⟩
      obtain ⟨before, phrase, rfl, spells, noData, rfl⟩ := reads
      have extended := spells.addVariant { phrase with data := some ⟨⟨token, kind⟩, filled⟩ }
      simpa [VariantPhrase.tokens, VariantPhrase.variant, noData, HasRead] using extended
  | case19 declaration variant kind =>
      rintro ⟨⟩
      obtain ⟨before, phrase, rfl, spells, noData, rfl⟩ := reads
      exact ⟨_, [⟨token, kind⟩], rfl, spells.addVariant phrase, rfl, rfl⟩
  | case20 declaration variant kind =>
      rintro ⟨⟩
      obtain ⟨before, phrase, rfl, spells, noData, rfl⟩ := reads
      exact ⟨_, [], ⟨token, kind⟩, by simp, spells.addVariant phrase, rfl, rfl⟩
  | case8 | case17 | case21 => rintro ⟨⟩

/-- A run of steps keeps track of what has been read, by induction on the tokens. -/
theorem HasRead.steps {read : List Token} {state last : State} {tokens : List Token}
    (reads : HasRead read state) (taken : steps state tokens = .ok last)
    : HasRead (read ++ tokens) last := by
  induction tokens generalizing read state with
  | nil =>
      cases taken
      simpa using reads
  | cons token rest ih =>
      cases first : Parser.step state token with
      | error error =>
          simp [Declaration.steps, List.foldlM_cons, first, bind, Except.bind] at taken
      | ok next =>
          rw [steps_cons rest first] at taken
          simpa using ih (reads.step first) taken

/-- Whatever the reader accepts has a derivation, off which the answer is read. -/
theorem exists_derivation_of_steps {tokens : List Token} {last : State} {ending : Token}
    {declaration : Declaration} (taken : steps (.imports []) tokens = .ok last)
    (accepted : finish last ending = .ok declaration)
    : ∃ derivation : Derivation,
        derivation.tokens = tokens ∧ derivation.declaration = declaration := by
  have start : HasRead [] (.imports []) := ⟨[], rfl, rfl⟩
  have reads := start.steps taken
  cases last with
  | variants declared =>
      simp only [finish] at accepted
      split at accepted
      next => cases accepted
      next present =>
        cases accepted
        exact Spells.exists_derivation reads (by simpa using present)
  | literals declared variant =>
      cases accepted
      obtain ⟨before, phrase, same, spells, noData, rfl⟩ := reads
      obtain ⟨derivation, yields, declares⟩ :=
        (spells.addVariant phrase).exists_derivation (by simp [addVariant])
      exact ⟨derivation, by rw [yields, ← same, List.nil_append], declares⟩
  | _ => cases accepted

end LiteralEnum.Declaration
