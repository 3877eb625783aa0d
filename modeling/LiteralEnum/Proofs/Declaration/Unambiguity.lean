import LiteralEnum.Proofs.Declaration.Acceptance

/-! Two derivations of the same tokens are the same, because each part of a derivation ends
where a token of another kind stands. With soundness and acceptance, the reader of
declarations is exact.
-/

namespace LiteralEnum.Declaration

open LiteralEnum.Parser

-----------------------------------------------------------------------------------------
-- Where a part of a derivation ends
-----------------------------------------------------------------------------------------

/-- No token of the kind stands first. -/
def NotLedBy (kind : Token.Kind) (tokens : List Token) : Prop :=
  ∀ token ∈ tokens.head?, token.kind ≠ kind

theorem notLedBy_cons {kind : Token.Kind} {token : Token} {rest : List Token}
    (other : token.kind ≠ kind)
    : NotLedBy kind (token :: rest) := by
  intro first head
  cases head
  exact other

/-- Leaves of one kind end where a token of another kind stands, by induction on the leaves.
-/
theorem leaves_append_inj {kind : Token.Kind} {left right : List (Token.Of kind)}
    {after beyond : List Token} (same : leaves left ++ after = leaves right ++ beyond)
    (ends : NotLedBy kind after) (stops : NotLedBy kind beyond)
    : left = right ∧ after = beyond := by
  induction left generalizing right with
  | nil =>
      cases right with
      | nil => exact ⟨rfl, same⟩
      | cons second rest =>
          rw [leaves_nil, List.nil_append] at same
          exact absurd second.property (ends second.val (by simp [same]))
  | cons first rest ih =>
      cases right with
      | nil =>
          rw [leaves_nil, List.nil_append] at same
          exact absurd first.property (stops first.val (by simp [← same]))
      | cons second others =>
          simp only [leaves_cons, List.cons_append, List.cons.injEq] at same
          obtain ⟨tails, rests⟩ := ih same.2
          exact ⟨by rw [Subtype.ext same.1, tails], rests⟩

/-- Imports end where another token than the keyword stands, by induction on the imports. -/
theorem imports_append_inj {left right : List ImportPhrase} {after beyond : List Token}
    (same
      : left.flatMap ImportPhrase.tokens ++ after
        = right.flatMap ImportPhrase.tokens ++ beyond)
    (ends : NotLedBy .importWord after) (stops : NotLedBy .importWord beyond)
    : left = right ∧ after = beyond := by
  induction left generalizing right with
  | nil =>
      cases right with
      | nil => exact ⟨rfl, same⟩
      | cons second rest =>
          rw [List.flatMap_nil, List.nil_append] at same
          exact absurd second.keyword.property
            (ends second.keyword.val (by simp [same, ImportPhrase.tokens]))
  | cons first rest ih =>
      cases right with
      | nil =>
          rw [List.flatMap_nil, List.nil_append] at same
          exact absurd first.keyword.property
            (stops first.keyword.val (by simp [← same, ImportPhrase.tokens]))
      | cons second others =>
          obtain ⟨keyword, statement⟩ := first
          obtain ⟨word, text⟩ := second
          simp only [List.flatMap_cons, ImportPhrase.tokens, List.cons_append, List.nil_append,
            List.cons.injEq] at same
          obtain ⟨tails, rests⟩ := ih same.2.2
          exact ⟨by rw [Subtype.ext same.1, Subtype.ext same.2.1, tails], rests⟩

-----------------------------------------------------------------------------------------
-- Variants
-----------------------------------------------------------------------------------------

/-- Variants begin with a doc comment or with a name. -/
theorem variants_notLedBy {kind : Token.Kind} (notDoc : kind ≠ .docComment)
    (notName : kind ≠ .identifier) (phrases : List VariantPhrase)
    : NotLedBy kind (phrases.flatMap VariantPhrase.tokens) := by
  cases phrases with
  | nil => simp [NotLedBy]
  | cons phrase rest =>
      obtain ⟨docs, name, primary, alternates, data⟩ := phrase
      cases docs with
      | nil => exact notLedBy_cons (by simpa [name.property] using notName.symm)
      | cons doc others => exact notLedBy_cons (by simpa [doc.property] using notDoc.symm)

/-- Alternates end at the data, or where no further string stands. -/
theorem data_notLedBy_string {data : Option DataPhrase} {after : List Token}
    (ends : NotLedBy .string after)
    : NotLedBy .string (data.toList.map (·.val.val) ++ after) := by
  cases data with
  | none => exact ends
  | some block => exact notLedBy_cons (by simp [block.val.property])

/-- Data is there exactly where a block stands. -/
theorem data_append_inj {left right : Option DataPhrase} {after beyond : List Token}
    (same : left.toList.map (·.val.val) ++ after = right.toList.map (·.val.val) ++ beyond)
    (ends : NotLedBy .block after) (stops : NotLedBy .block beyond)
    : left = right ∧ after = beyond := by
  cases left with
  | none =>
      cases right with
      | none => exact ⟨rfl, same⟩
      | some block =>
          rw [Option.toList_none, List.map_nil, List.nil_append] at same
          exact absurd block.val.property (ends block.val.val (by simp [same]))
  | some block =>
      cases right with
      | none =>
          rw [Option.toList_none, List.map_nil, List.nil_append] at same
          exact absurd block.val.property (stops block.val.val (by simp [← same]))
      | some other =>
          simp only [Option.toList_some, List.map_cons, List.map_nil, List.cons_append,
            List.nil_append, List.cons.injEq] at same
          exact ⟨by rw [Subtype.ext (Subtype.ext same.1)], same.2⟩

/-- A variant ends where neither a string nor a block stands. -/
theorem variant_append_inj {left right : VariantPhrase} {after beyond : List Token}
    (same : left.tokens ++ after = right.tokens ++ beyond)
    (ends : NotLedBy .string after ∧ NotLedBy .block after)
    (stops : NotLedBy .string beyond ∧ NotLedBy .block beyond)
    : left = right ∧ after = beyond := by
  obtain ⟨docs, name, primary, alternates, data⟩ := left
  obtain ⟨docs', name', primary', alternates', data'⟩ := right
  simp only [VariantPhrase.tokens, List.append_assoc, List.cons_append] at same
  obtain ⟨rfl, afterDocs⟩ := leaves_append_inj same
    (notLedBy_cons (by simp [name.property])) (notLedBy_cons (by simp [name'.property]))
  simp only [List.cons.injEq] at afterDocs
  obtain ⟨names, primaries, literals⟩ := afterDocs
  obtain ⟨rfl, afterLiterals⟩ := leaves_append_inj literals
    (data_notLedBy_string ends.1) (data_notLedBy_string stops.1)
  obtain ⟨rfl, rests⟩ := data_append_inj afterLiterals ends.2 stops.2
  exact ⟨by rw [Subtype.ext names, Subtype.ext primaries], rests⟩

/-- Variants are determined by their tokens, by induction on the variants. -/
theorem variants_inj {left right : List VariantPhrase}
    (same : left.flatMap VariantPhrase.tokens = right.flatMap VariantPhrase.tokens)
    : left = right := by
  induction left generalizing right with
  | nil =>
      cases right with
      | nil => rfl
      | cons second rest => simp [VariantPhrase.tokens] at same
  | cons first rest ih =>
      cases right with
      | nil => simp [VariantPhrase.tokens] at same
      | cons second others =>
          have separated (phrases : List VariantPhrase)
              : NotLedBy .string (phrases.flatMap VariantPhrase.tokens)
                ∧ NotLedBy .block (phrases.flatMap VariantPhrase.tokens) :=
            ⟨variants_notLedBy (by simp) (by simp) phrases,
              variants_notLedBy (by simp) (by simp) phrases⟩
          rw [List.flatMap_cons, List.flatMap_cons] at same
          obtain ⟨rfl, rests⟩ := variant_append_inj same (separated rest) (separated others)
          rw [ih rests]

-----------------------------------------------------------------------------------------
-- Whole derivations
-----------------------------------------------------------------------------------------

/-- A field phrase is determined by its block: the colon is the first one. -/
theorem FieldPhrase.eq_of_block {left right : FieldPhrase} (same : left.block = right.block)
    : left = right := by
  obtain ⟨block, name, typeText, text_eq, isName, hasType⟩ := left
  obtain ⟨block', name', typeText', text_eq', isName', hasType'⟩ := right
  subst same
  have split := splitField_eq_some_iff.mpr ⟨text_eq, colon_not_mem_of_isName isName⟩
  have split' := splitField_eq_some_iff.mpr ⟨text_eq', colon_not_mem_of_isName isName'⟩
  simp only [split, Option.some.injEq, Prod.mk.injEq] at split'
  obtain ⟨rfl, rfl⟩ := split'
  rfl

/-- The data field is there exactly where a block stands before the equals sign. -/
theorem field_append_inj {left right : Option FieldPhrase} {equals sign : Token.Of .equals}
    {after beyond : List Token}
    (same
      : left.toList.map (·.block.val) ++ equals.val :: after
        = right.toList.map (·.block.val) ++ sign.val :: beyond)
    : left = right ∧ equals = sign ∧ after = beyond := by
  have distinct (phrase : FieldPhrase) (sign : Token.Of .equals)
      : phrase.block.val ≠ sign.val := by
    intro equal
    have kinds := phrase.block.property.symm.trans ((congrArg Token.kind equal).trans sign.property)
    cases kinds
  cases left with
  | none =>
      cases right with
      | none =>
          simp only [Option.toList_none, List.map_nil, List.nil_append, List.cons.injEq] at same
          exact ⟨rfl, Subtype.ext same.1, same.2⟩
      | some phrase => exact absurd (List.cons.inj same).1.symm (distinct phrase equals)
  | some phrase =>
      cases right with
      | none => exact absurd (List.cons.inj same).1 (distinct phrase sign)
      | some other =>
          simp only [Option.toList_some, List.map_cons, List.map_nil, List.cons_append,
            List.nil_append, List.cons.injEq] at same
          exact ⟨by rw [FieldPhrase.eq_of_block (Subtype.ext same.1)], Subtype.ext same.2.1,
            same.2.2⟩

/-- A derivation is determined by its tokens. -/
theorem Derivation.eq_of_tokens {left right : Derivation} (same : left.tokens = right.tokens)
    : left = right := by
  obtain ⟨⟨imports, docs, name⟩, field, equals, variants, present⟩ := left
  obtain ⟨⟨imports', docs', name'⟩, field', equals', variants', present'⟩ := right
  simp only [Derivation.tokens, openingTokens, Heading.tokens, List.append_assoc,
    List.cons_append, List.nil_append] at same
  have notImport (docs : List (Token.Of .docComment)) (name : Token.Of .identifier)
      (rest : List Token)
      : NotLedBy .importWord (leaves docs ++ name.val :: rest) := by
    cases docs with
    | nil => exact notLedBy_cons (by simp [name.property])
    | cons doc others => exact notLedBy_cons (by simp [doc.property])
  obtain ⟨rfl, afterImports⟩ := imports_append_inj same (notImport _ _ _) (notImport _ _ _)
  obtain ⟨rfl, afterDocs⟩ := leaves_append_inj afterImports
    (notLedBy_cons (by simp [name.property])) (notLedBy_cons (by simp [name'.property]))
  obtain ⟨names, afterName⟩ := List.cons.inj afterDocs
  obtain ⟨rfl, rfl, afterEquals⟩ := field_append_inj afterName
  obtain rfl := variants_inj afterEquals
  obtain rfl := Subtype.ext names
  rfl

/-- The reader is exact. It returns a declaration exactly when the significant tokens have
a derivation off which that declaration is read, it fails exactly when they have no
derivation, and they never have two.
-/
theorem ofTokens_exact (tokens : List Token)
    : (∀ declaration,
        Declaration.ofTokens tokens = .ok declaration
        ↔ ∃ derivation : Derivation,
            derivation.tokens = Token.significant tokens
            ∧ derivation.declaration = declaration)
      ∧ ((∃ error, Declaration.ofTokens tokens = .error error)
          ↔ ¬∃ derivation : Derivation, derivation.tokens = Token.significant tokens)
      ∧ ∀ left right : Derivation,
          left.tokens = Token.significant tokens
          → right.tokens = Token.significant tokens
          → left = right := by
  refine ⟨ofTokens_eq_ok_iff tokens, ?_, fun left right yields also => ?_⟩
  · constructor
    · rintro ⟨error, failed⟩ ⟨derivation, yields⟩
      have result := (ofTokens_eq_ok_iff tokens _).mpr ⟨derivation, yields, rfl⟩
      rw [failed] at result
      cases result
    · intro none
      cases result : Declaration.ofTokens tokens with
      | error error => exact ⟨error, rfl⟩
      | ok declaration =>
          obtain ⟨derivation, yields, _⟩ := (ofTokens_eq_ok_iff tokens declaration).mp result
          exact absurd ⟨derivation, yields⟩ none
  · exact Derivation.eq_of_tokens (yields.trans also.symm)

end LiteralEnum.Declaration
