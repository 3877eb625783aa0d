import LiteralEnum.Proofs.Declaration.Recognition

/-! Every derivation is read as its declaration. With the converse, the reader accepts the
token lists that have a derivation, and no others.
-/

namespace LiteralEnum.Declaration

open LiteralEnum.Parser

attribute [local simp] step

-----------------------------------------------------------------------------------------
-- Reading the opening
-----------------------------------------------------------------------------------------

/-- Imports are read one after the other, by induction on the imports. -/
theorem steps_imports (done : List ImportDirective) (phrases : List ImportPhrase)
    : steps (.imports done) (phrases.flatMap ImportPhrase.tokens)
      = .ok (.imports (done ++ phrases.map ImportPhrase.directive)) := by
  induction phrases generalizing done with
  | nil => simp
  | cons phrase rest ih =>
      have keyword : step (.imports done) phrase.keyword.val
          = .ok (.importText done phrase.keyword.val) := by
        simp [phrase.keyword.property]
      have statement : step (.importText done phrase.keyword.val) phrase.statement.val
          = .ok (.imports (done ++ [phrase.directive])) := by
        simp [phrase.statement.property, ImportPhrase.directive]
      rw [List.flatMap_cons, ImportPhrase.tokens, List.cons_append, List.cons_append,
        List.nil_append, steps_cons _ keyword, steps_cons _ statement, ih]
      simp

/-- Doc comments on the type are collected, by induction on the comments. -/
theorem steps_enumDocs (done : List ImportDirective) (first : Token) (lines : List String)
    (docs : List (Token.Of .docComment))
    : steps (.enumDoc done first lines) (leaves docs)
      = .ok (.enumDoc done first (lines ++ docs.map (·.val.value))) := by
  induction docs generalizing lines with
  | nil => simp
  | cons doc rest ih =>
      have taken : step (.enumDoc done first lines) doc.val
          = .ok (.enumDoc done first (lines ++ [doc.val.value])) := by
        simp [doc.property]
      rw [leaves_cons, steps_cons _ taken, ih]
      simp

/-- A heading is read as a declaration without a data field and without variants. -/
theorem steps_heading (heading : Heading)
    : steps (.imports []) heading.tokens
      = .ok (.enumName (heading.declaration none [])) := by
  obtain ⟨imports, docs, name⟩ := heading
  have imported := steps_imports [] imports
  rw [List.nil_append] at imported
  rw [Heading.tokens, List.append_assoc, steps_append _ imported]
  cases docs with
  | nil =>
      have named : step (.imports (imports.map ImportPhrase.directive)) name.val
          = .ok (.enumName (Heading.declaration ⟨imports, [], name⟩ none [])) := by
        simp [name.property, beginEnum, Heading.declaration, docText?]
      exact steps_cons [] named
  | cons first rest =>
      have opened : step (.imports (imports.map ImportPhrase.directive)) first.val
          = .ok (.enumDoc (imports.map ImportPhrase.directive) first.val [first.val.value]) := by
        simp [first.property]
      have named (lines : List String)
          : step (.enumDoc (imports.map ImportPhrase.directive) first.val lines) name.val
            = .ok (.enumName (beginEnum (imports.map ImportPhrase.directive)
                (some (joinDoc lines)) name.val)) := by
        simp [name.property]
      rw [leaves_cons, List.cons_append, steps_cons _ opened,
        steps_append _ (steps_enumDocs _ _ _ rest), steps_cons _ (named _)]
      rfl

/-- The opening is read as a declaration without variants. -/
theorem steps_opening (heading : Heading) (field : Option FieldPhrase)
    (equals : Token.Of .equals)
    : steps (.imports []) (openingTokens heading field equals)
      = .ok (.variants (heading.declaration field [])) := by
  rw [openingTokens, List.append_assoc, steps_append _ (steps_heading heading)]
  cases field with
  | none =>
      have closed : step (.enumName (heading.declaration none [])) equals.val
          = .ok (.variants (heading.declaration none [])) := by
        simp [equals.property]
      exact steps_cons [] closed
  | some phrase =>
      have parsed := (parseField?_eq_some_iff phrase.block).mpr ⟨phrase, rfl, rfl⟩
      have declared : step (.enumName (heading.declaration none [])) phrase.block.val
          = .ok (.dataField (heading.declaration (some phrase) [])) := by
        simp [phrase.block.property, parsed, Heading.declaration]
      have closed : step (.dataField (heading.declaration (some phrase) [])) equals.val
          = .ok (.variants (heading.declaration (some phrase) [])) := by
        simp [equals.property]
      exact (steps_cons [equals.val] declared).trans (steps_cons [] closed)

-----------------------------------------------------------------------------------------
-- Reading variants
-----------------------------------------------------------------------------------------

/-- The declaration with every variant that has been read, where a variant may be complete.
-/
def complete? : State → Option Declaration
  | .variants declaration => some declaration
  | .literals declaration variant => some (addVariant declaration variant)
  | _ => none

/-- Doc comments on a variant are collected, by induction on the comments. -/
theorem steps_variantDocs (declaration : Declaration) (first : Token) (lines : List String)
    (docs : List (Token.Of .docComment))
    : steps (.variantDoc declaration first lines) (leaves docs)
      = .ok (.variantDoc declaration first (lines ++ docs.map (·.val.value))) := by
  induction docs generalizing lines with
  | nil => simp
  | cons doc rest ih =>
      have taken : step (.variantDoc declaration first lines) doc.val
          = .ok (.variantDoc declaration first (lines ++ [doc.val.value])) := by
        simp [doc.property]
      rw [leaves_cons, steps_cons _ taken, ih]
      simp

/-- After complete variants, doc comments and a name begin the next variant. -/
theorem steps_variantName {state : State} {declaration : Declaration}
    (complete : complete? state = some declaration) (docs : List (Token.Of .docComment))
    (name : Token.Of .identifier)
    : steps state (leaves docs ++ [name.val])
      = .ok (.variantName declaration (docText? docs) name.val) := by
  cases docs with
  | nil =>
      have named : step state name.val = .ok (.variantName declaration none name.val) := by
        cases state <;> simp_all [complete?, name.property]
      exact steps_cons [] named
  | cons first rest =>
      have opened : step state first.val
          = .ok (.variantDoc declaration first.val [first.val.value]) := by
        cases state <;> simp_all [complete?, first.property]
      have named (lines : List String)
          : step (.variantDoc declaration first.val lines) name.val
            = .ok (.variantName declaration (some (joinDoc lines)) name.val) := by
        simp [name.property]
      rw [leaves_cons, List.cons_append, steps_cons _ opened,
        steps_append _ (steps_variantDocs _ _ _ rest), steps_cons _ (named _)]
      rfl

/-- Alternates are added one after the other, by induction on the alternates. -/
theorem steps_alternates (declaration : Declaration) (variant : VariantDeclaration)
    (alternates : List (Token.Of .string))
    : steps (.literals declaration variant) (leaves alternates)
      = .ok (.literals declaration
          { variant with
            alternates := variant.alternates ++ alternates.map (·.val.value) }) := by
  induction alternates generalizing variant with
  | nil => simp
  | cons literal rest ih =>
      have taken : step (.literals declaration variant) literal.val
          = .ok (.literals declaration
              { variant with alternates := variant.alternates ++ [literal.val.value] }) := by
        simp [literal.property]
      rw [leaves_cons, steps_cons _ taken, ih]
      simp

/-- After complete variants, a variant phrase adds its variant. -/
theorem steps_variant {state : State} {declaration : Declaration}
    (complete : complete? state = some declaration) (phrase : VariantPhrase)
    : ∃ next,
        steps state phrase.tokens = .ok next
        ∧ complete? next = some (addVariant declaration phrase.variant) := by
  obtain ⟨docs, name, primary, alternates, data⟩ := phrase
  have split : VariantPhrase.tokens ⟨docs, name, primary, alternates, data⟩
      = (leaves docs ++ [name.val])
        ++ primary.val :: (leaves alternates ++ data.toList.map (·.val.val)) := by
    simp [VariantPhrase.tokens]
  have begun : step (.variantName declaration (docText? docs) name.val) primary.val
      = .ok (.literals declaration (beginVariant (docText? docs) name.val primary.val)) := by
    simp [primary.property]
  rw [split, steps_append _ (steps_variantName complete docs name), steps_cons _ begun,
    steps_append _ (steps_alternates _ _ alternates)]
  cases data with
  | none => exact ⟨_, rfl, rfl⟩
  | some block =>
      have ended (variant : VariantDeclaration)
          : step (.literals declaration variant) block.val.val
            = .ok (.variants (addVariant declaration
                { variant with data := some block.val.val.value })) := by
        simp [block.val.property, block.property]
      exact ⟨_, steps_cons [] (ended _), rfl⟩

/-- After complete variants, variant phrases add their variants in order, by induction on
the phrases.
-/
theorem steps_variants {state : State} {declaration : Declaration}
    (complete : complete? state = some declaration) (phrases : List VariantPhrase)
    : ∃ next,
        steps state (phrases.flatMap VariantPhrase.tokens) = .ok next
        ∧ complete? next
          = some
              { declaration with
                variants :=
                  declaration.variants ++ phrases.map VariantPhrase.variant } := by
  induction phrases generalizing state declaration with
  | nil => exact ⟨state, rfl, by simpa using complete⟩
  | cons phrase rest ih =>
      obtain ⟨next, first, extended⟩ := steps_variant complete phrase
      obtain ⟨last, others, whole⟩ := ih extended
      refine ⟨last, ?_, ?_⟩
      · rw [List.flatMap_cons, steps_append _ first, others]
      · simpa [addVariant] using whole

/-- Complete variants, at least one, may be the last ones. -/
theorem finish_of_complete? {state : State} {declaration : Declaration}
    (complete : complete? state = some declaration) (present : declaration.variants ≠ [])
    (ending : Token)
    : finish state ending = .ok declaration := by
  cases state <;> simp_all [complete?, finish]

/-- A derivation is read as its declaration. -/
theorem steps_derivation (derivation : Derivation)
    : ∃ last,
        steps (.imports []) derivation.tokens = .ok last
        ∧ ∀ ending, finish last ending = .ok derivation.declaration := by
  obtain ⟨heading, field, equals, phrases, present⟩ := derivation
  have opened : complete? (.variants (heading.declaration field []))
      = some (heading.declaration field []) := rfl
  obtain ⟨last, taken, complete⟩ := steps_variants opened phrases
  refine ⟨last, ?_, fun ending => finish_of_complete? complete ?_ ending⟩
  · rw [Derivation.tokens, steps_append _ (steps_opening heading field equals), taken]
  · simpa [Heading.declaration] using present

/-- A declaration is read exactly off the derivations of the significant tokens. -/
theorem ofTokens_eq_ok_iff (tokens : List Token) (declaration : Declaration)
    : Declaration.ofTokens tokens = .ok declaration
      ↔ ∃ derivation : Derivation,
          derivation.tokens = Token.significant tokens
          ∧ derivation.declaration = declaration := by
  rw [Declaration.ofTokens, run_eq_steps]
  constructor
  · intro result
    cases taken : steps (.imports []) (Token.significant tokens) with
    | error error =>
        rw [taken] at result
        cases result
    | ok last =>
        rw [taken] at result
        exact exists_derivation_of_steps taken result
  · rintro ⟨derivation, yields, rfl⟩
    obtain ⟨last, taken, finished⟩ := steps_derivation derivation
    rw [← yields, taken]
    exact finished _

end LiteralEnum.Declaration
