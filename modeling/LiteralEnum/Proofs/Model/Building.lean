import LiteralEnum.Proofs.Model.LiteralOwnership

/-! The model of a declaration. It exists exactly where the rules hold, whatever the order in
which they are checked, and it says what the declaration says: the declaration determines
it.
-/

namespace LiteralEnum.Model

-----------------------------------------------------------------------------------------
-- Faithful models
-----------------------------------------------------------------------------------------

/-- A declared variant with a number. -/
def numbered (index : Nat) (variant : VariantDeclaration) : Variant where
  index := index
  name := variant.name
  primary := variant.primary
  alternates := variant.alternates
  doc := variant.doc
  data := variant.data

/-- The model says what the declaration says. The owners list every literal once, where it
first occurs, and name exactly the variants that declare it.
-/
structure IsFaithful (declaration : Declaration) (model : Model) : Prop where
  name : model.name = declaration.name
  doc : model.doc = declaration.doc
  field : model.field = declaration.field.map fun field => ⟨field.name, field.typeText⟩
  imports : model.imports = declaration.imports.map (·.statement)
  variants : ∀ i : Nat, model.variants[i]? = declaration.variants[i]?.map (numbered i)
  literals : model.owners.map Prod.fst
    = (declaration.variants.flatMap VariantDeclaration.literals).eraseDups
  once : (model.owners.map Prod.fst).Nodup
  owners : ∀ (literal : String) (index : Int),
    (literal, index) ∈ model.owners
      ↔ ∃ (i : Nat) (variant : VariantDeclaration),
          declaration.variants[i]? = some variant
          ∧ literal ∈ variant.literals
          ∧ index = i

/-- Entries with the same keys in the same order are the same, if no key occurs twice and
every entry of one list is in the other. By induction on the entries.
-/
theorem entries_eq_of_subset {left right : Owners}
    (keys : left.map Prod.fst = right.map Prod.fst) (once : (right.map Prod.fst).Nodup)
    (subset : ∀ entry ∈ left, entry ∈ right)
    : left = right := by
  induction left generalizing right with
  | nil => exact (List.map_eq_nil_iff.mp keys.symm).symm
  | cons entry rest ih =>
      obtain ⟨other, others, rfl, sameKey, restKeys⟩ := List.map_eq_cons_iff.mp keys.symm
      have distinct := List.nodup_cons.mp once
      have apart : ∀ found ∈ others, found.1 ≠ entry.1 := by
        intro found member same
        exact distinct.1 (sameKey ▸ same ▸ List.mem_map_of_mem member)
      have first : entry = other := by
        rcases List.mem_cons.mp (subset entry List.mem_cons_self) with same | later
        · exact same
        · exact absurd rfl (apart entry later)
      have behind : ∀ found ∈ rest, found ∈ others := by
        intro found member
        rcases List.mem_cons.mp (subset found (List.mem_cons_of_mem entry member)) with same | later
        · have inKeys : found.1 ∈ others.map Prod.fst := by
            rw [restKeys]
            exact List.mem_map_of_mem member
          exact absurd (same ▸ inKeys) distinct.1
        · exact later
      rw [first, ih restKeys.symm distinct.2 behind]

/-- A declaration has at most one faithful model. -/
theorem IsFaithful.unique {declaration : Declaration} {left right : Model}
    (isLeft : IsFaithful declaration left) (isRight : IsFaithful declaration right)
    : left = right := by
  have name := isLeft.name.trans isRight.name.symm
  have doc := isLeft.doc.trans isRight.doc.symm
  have field := isLeft.field.trans isRight.field.symm
  have imports := isLeft.imports.trans isRight.imports.symm
  have variants : left.variants = right.variants :=
    List.ext_getElem? fun i => (isLeft.variants i).trans (isRight.variants i).symm
  have owners : left.owners = right.owners :=
    entries_eq_of_subset (isLeft.literals.trans isRight.literals.symm) isRight.once
      fun (literal, index) member =>
        (isRight.owners literal index).mpr ((isLeft.owners literal index).mp member)
  cases left
  cases right
  rw [Model.mk.injEq]
  exact ⟨name, variants, owners, doc, field, imports⟩

-----------------------------------------------------------------------------------------
-- Building
-----------------------------------------------------------------------------------------

/-- The variants of a model follow those of the declaration, by induction on the variants. -/
theorem getElem?_number (start : Nat) (variants : List VariantDeclaration) (i : Nat)
    : (number start variants)[i]? = variants[i]?.map (numbered (start + i)) := by
  induction variants generalizing start i with
  | nil => rfl
  | cons variant rest ih =>
      cases i with
      | zero => rfl
      | succ i =>
          rw [number, List.getElem?_cons_succ, List.getElem?_cons_succ, ih]
          congr 2
          omega

/-- The model of a declaration whose claims have been settled. -/
def ofClaims (declaration : Declaration) (held : List Check.Claim) : Model where
  name := declaration.name
  variants := number 0 declaration.variants
  owners := held.map fun claim => (claim.literal, claim.index)
  doc := declaration.doc
  field := declaration.field.map fun field => ⟨field.name, field.typeText⟩
  imports := declaration.imports.map (·.statement)

/-- The model of settled claims is faithful: what is held covers every claim. -/
theorem isFaithful_ofClaims {declaration : Declaration} {held : List Check.Claim}
    (settled : Check.Settled (Check.claims 0 declaration.variants) held)
    : IsFaithful declaration (ofClaims declaration held) := by
  have keys : (ofClaims declaration held).owners.map Prod.fst = held.map (·.literal) := by
    simp [ofClaims]
  refine ⟨rfl, rfl, rfl, rfl, ?_, ?_, ?_, ?_⟩
  · intro i
    rw [ofClaims, getElem?_number, Nat.zero_add]
  · rw [keys, settled.literals, Check.claims_literals]
  · rw [keys]
    exact settled.once
  · intro literal index
    constructor
    · intro member
      obtain ⟨claim, isHeld, same⟩ := List.mem_map.mp member
      obtain ⟨rfl, rfl⟩ := Prod.mk.inj same
      obtain ⟨i, found, declared, index⟩ :=
        (Check.mem_claims_iff 0 _ claim).mp (settled.claimed claim isHeld)
      exact ⟨i, claim.variant, found, declared, by omega⟩
    · rintro ⟨i, variant, found, declared, rfl⟩
      have claimed := (Check.mem_claims_iff 0 declaration.variants ⟨literal, i, variant⟩).mpr
        ⟨i, found, declared, (Nat.zero_add i).symm⟩
      obtain ⟨first, isHeld, sameLiteral, sameIndex⟩ := settled.covered _ claimed
      exact List.mem_map.mpr ⟨first, isHeld, by rw [sameLiteral, sameIndex]⟩

/-- A check lets a computation go on exactly when it finds no violation. -/
theorem refuse_bind_eq_ok_iff {Result : Type} (found : Option Violation)
    (next : Unit → Except Violation Result) (result : Result)
    : (Check.refuse found >>= next) = .ok result ↔ found = none ∧ next () = .ok result := by
  cases found with
  | none => simp [Check.refuse, bind, Except.bind]
  | some violation => simp [Check.refuse, bind, Except.bind]

/-- A model is built exactly where no check finds a violation and the claims are settled, and
it is the model of the settled claims.
-/
theorem ofDeclaration_eq_ok_iff (compiler : Target.Compiler) (declaration : Declaration)
    (model : Model)
    : ofDeclaration compiler declaration = .ok model
      ↔ Check.repeatedName? [] declaration.variants = none
        ∧ ∃ held, Check.settle [] (Check.claims 0 declaration.variants) = .ok held
          ∧ Check.undeclaredData? declaration = none
          ∧ Check.unusableName? declaration = none
          ∧ Check.unusableText? compiler declaration = none
          ∧ Check.tooManyVariants? declaration = none
          ∧ ofClaims declaration held = model := by
  rw [ofDeclaration, refuse_bind_eq_ok_iff]
  refine and_congr_right fun _ => ?_
  cases settlement : Check.settle [] (Check.claims 0 declaration.variants) with
  | error violation => simp [bind, Except.bind]
  | ok held =>
      change (Check.refuse (Check.undeclaredData? declaration) >>= _) = .ok model ↔ _
      simp only [refuse_bind_eq_ok_iff, Except.ok.injEq, exists_eq_left', pure, Except.pure]
      rfl

/-- What is built comes from an admissible declaration and is faithful to it. -/
theorem sound_of_ok {compiler : Target.Compiler} {declaration : Declaration} {model : Model}
    (built : ofDeclaration compiler declaration = .ok model)
    : IsAdmissible compiler declaration ∧ IsFaithful declaration model := by
  obtain ⟨names, held, settlement, data, usable, fit, size, rfl⟩ :=
    (ofDeclaration_eq_ok_iff compiler declaration model).mp built
  refine ⟨?_, isFaithful_ofClaims (Check.Settled.nil.settle settlement)⟩
  exact
    { names := ((repeatedName?_eq_none_iff [] _).mp names).1
      literals := (Check.exists_settle_claims_iff _).mp ⟨held, settlement⟩
      data := (undeclaredData?_eq_none_iff declaration).mp data
      usable := (unusableName?_eq_none_iff declaration).mp usable
      fit := (unusableText?_eq_none_iff compiler declaration).mp fit
      size := (tooManyVariants?_eq_none_iff declaration).mp size }

/-- An admissible declaration has a model: no check can stop the building. -/
theorem IsAdmissible.exists_model {compiler : Target.Compiler} {declaration : Declaration}
    (admissible : IsAdmissible compiler declaration)
    : ∃ model, ofDeclaration compiler declaration = .ok model := by
  obtain ⟨held, settlement⟩ :=
    (Check.exists_settle_claims_iff declaration.variants).mpr admissible.literals
  refine ⟨ofClaims declaration held, (ofDeclaration_eq_ok_iff compiler declaration _).mpr ?_⟩
  exact ⟨(repeatedName?_eq_none_iff [] _).mpr ⟨admissible.names, fun _ _ => rfl⟩, held,
    settlement, (undeclaredData?_eq_none_iff declaration).mpr admissible.data,
    (unusableName?_eq_none_iff declaration).mpr admissible.usable,
    (unusableText?_eq_none_iff compiler declaration).mpr admissible.fit,
    (tooManyVariants?_eq_none_iff declaration).mpr admissible.size, rfl⟩

/-- Building a model is exact. It succeeds exactly where the rules hold; what it returns is
faithful to the declaration, and nothing else would be.
-/
theorem ofDeclaration_exact (compiler : Target.Compiler) (declaration : Declaration)
    : ((∃ model, ofDeclaration compiler declaration = .ok model)
        ↔ IsAdmissible compiler declaration)
      ∧ ∀ model,
          ofDeclaration compiler declaration = .ok model
            ↔ IsAdmissible compiler declaration ∧ IsFaithful declaration model := by
  refine ⟨⟨?_, IsAdmissible.exists_model⟩, fun model => ⟨sound_of_ok, ?_⟩⟩
  · rintro ⟨model, built⟩
    exact (sound_of_ok built).1
  · rintro ⟨admissible, faithful⟩
    obtain ⟨other, built⟩ := admissible.exists_model
    rwa [faithful.unique (sound_of_ok built).2]

end LiteralEnum.Model
