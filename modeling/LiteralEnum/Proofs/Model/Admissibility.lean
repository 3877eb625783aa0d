import LiteralEnum.Model.Check
import Mathlib.Data.Option.Basic

/-! When a declaration describes a model. The rules are stated of the declaration as a
whole, without an order; for each rule there is the law that its check finds no violation
exactly where the rule holds.
-/

namespace LiteralEnum.Model

-----------------------------------------------------------------------------------------
-- The rules
-----------------------------------------------------------------------------------------

/-- A name that may stand in the module, next to reserved names. -/
structure IsUsable (reserved : List String) (name : String) : Prop where
  isName : Text.isName name.toList = true
  notKeyword : Target.isKeyword name = false
  notPrivate : name.toList.head? ≠ some '_'
  notReserved : name ∉ reserved

/-- The names of the type, of the field and of the variants. A variant also leaves the name
of the field alone.
-/
structure HasUsableNames (declaration : Declaration) : Prop where
  type : IsUsable reservedTypes declaration.name
  field : ∀ field ∈ declaration.field, IsUsable reservedMembers field.name
  variants : ∀ variant ∈ declaration.variants, IsUsable reservedMembers variant.name
  apart : ∀ field ∈ declaration.field, ∀ variant ∈ declaration.variants, variant.name ≠ field.name

/-- The texts that the module takes over, by the verdicts of a compiler. -/
structure HasFitTexts (compiler : Target.Compiler) (declaration : Declaration) : Prop where
  type : ∀ field ∈ declaration.field, compiler.typeProblem? field.typeText = none
  data : ∀ variant ∈ declaration.variants, ∀ expression ∈ variant.data,
    compiler.dataProblem? expression = none
  imports : ∀ directive ∈ declaration.imports, compiler.importProblem? directive.statement = none

/-- A literal of two variants is a literal of one. -/
def HasUnsharedLiterals (variants : List VariantDeclaration) : Prop :=
  ∀ (i j : Nat) (left right : VariantDeclaration),
    variants[i]? = some left → variants[j]? = some right →
      ∀ literal ∈ left.literals, literal ∈ right.literals → i = j

/-- The rules for declarations. -/
structure IsAdmissible (compiler : Target.Compiler) (declaration : Declaration) : Prop where
  names : (declaration.variants.map (·.name)).Nodup
  literals : HasUnsharedLiterals declaration.variants
  data : declaration.field = none → ∀ variant ∈ declaration.variants, variant.data = none
  usable : HasUsableNames declaration
  fit : HasFitTexts compiler declaration
  size : declaration.variants.length ≤ 256

-----------------------------------------------------------------------------------------
-- Their checks
-----------------------------------------------------------------------------------------

/-- No name is found twice exactly where the names are distinct, and none of them has been
seen before. By induction on the variants.
-/
theorem repeatedName?_eq_none_iff (seen : List (String × Int))
    (variants : List VariantDeclaration)
    : Check.repeatedName? seen variants = none
      ↔ (variants.map (·.name)).Nodup
        ∧ ∀ variant ∈ variants, seen.lookup variant.name = none := by
  induction variants generalizing seen with
  | nil => simp [Check.repeatedName?]
  | cons variant rest ih =>
      rw [Check.repeatedName?]
      split
      next firstLine known =>
        refine iff_of_false nofun fun ⟨_, unseen⟩ => ?_
        rw [unseen variant List.mem_cons_self] at known
        cases known
      next fresh =>
        rw [ih]
        simp only [List.lookup_eq_none_iff, List.map_cons, List.nodup_cons, List.forall_mem_cons,
          List.mem_map, not_exists, not_and, bne_iff_ne, ne_eq] at fresh ⊢
        constructor
        · rintro ⟨distinct, unseen⟩
          exact ⟨⟨fun other member => (unseen other member).1, distinct⟩, fresh,
            fun other member => (unseen other member).2⟩
        · rintro ⟨⟨notFirst, distinct⟩, -, unseen⟩
          exact ⟨distinct, fun other member => ⟨notFirst other member, unseen other member⟩⟩

theorem undeclaredData?_eq_none_iff (declaration : Declaration)
    : Check.undeclaredData? declaration = none
      ↔ (declaration.field = none → ∀ variant ∈ declaration.variants, variant.data = none) := by
  cases field : declaration.field <;> simp [Check.undeclaredData?, field]

/-- A name has no problem of its own exactly where it is a public name. -/
theorem spellingProblem?_eq_none_iff (name : String)
    : spellingProblem? name = none
      ↔ Text.isName name.toList = true
        ∧ Target.isKeyword name = false
        ∧ name.toList.head? ≠ some '_' := by
  rw [spellingProblem?]
  cases Text.isName name.toList <;> cases Target.isKeyword name <;> simp

theorem typeNameProblem?_eq_none_iff (name : String)
    : typeNameProblem? name = none ↔ IsUsable reservedTypes name := by
  rw [typeNameProblem?, Option.orElse_eq_none, spellingProblem?_eq_none_iff]
  constructor
  · rintro ⟨⟨isName, notKeyword, notPrivate⟩, notReserved⟩
    exact ⟨isName, notKeyword, notPrivate, by simpa using notReserved⟩
  · rintro ⟨isName, notKeyword, notPrivate, notReserved⟩
    exact ⟨⟨isName, notKeyword, notPrivate⟩, if_neg notReserved⟩

theorem memberNameProblem?_eq_none_iff (taken : List String) (name : String)
    : memberNameProblem? taken name = none ↔ IsUsable taken name := by
  rw [memberNameProblem?, Option.orElse_eq_none, spellingProblem?_eq_none_iff]
  constructor
  · rintro ⟨⟨isName, notKeyword, notPrivate⟩, notTaken⟩
    exact ⟨isName, notKeyword, notPrivate, by simpa using notTaken⟩
  · rintro ⟨isName, notKeyword, notPrivate, notTaken⟩
    exact ⟨⟨isName, notKeyword, notPrivate⟩, if_neg notTaken⟩

/-- A name is usable next to more names exactly where it is none of them. -/
theorem isUsable_append_iff (taken reserved : List String) (name : String)
    : IsUsable (taken ++ reserved) name ↔ IsUsable reserved name ∧ name ∉ taken := by
  constructor
  · rintro ⟨isName, notKeyword, notPrivate, free⟩
    simp only [List.mem_append, not_or] at free
    exact ⟨⟨isName, notKeyword, notPrivate, free.2⟩, free.1⟩
  · rintro ⟨⟨isName, notKeyword, notPrivate, notReserved⟩, notTaken⟩
    exact ⟨isName, notKeyword, notPrivate, by simp [notTaken, notReserved]⟩

theorem unusableName?_eq_none_iff (declaration : Declaration)
    : Check.unusableName? declaration = none ↔ HasUsableNames declaration := by
  simp only [Check.unusableName?, Option.orElse_eq_none, Option.map_eq_none_iff,
    Option.bind_eq_none_iff, List.findSome?_eq_none_iff, typeNameProblem?_eq_none_iff,
    memberNameProblem?_eq_none_iff, isUsable_append_iff, List.mem_map, Option.mem_toList]
  constructor
  · rintro ⟨type, field, variants⟩
    refine ⟨type, field, fun variant member => (variants variant member).1, ?_⟩
    intro field isField variant member same
    exact (variants variant member).2 ⟨field, isField, same.symm⟩
  · rintro ⟨type, field, variants, apart⟩
    refine ⟨type, field, fun variant member => ⟨variants variant member, ?_⟩⟩
    rintro ⟨field, isField, same⟩
    exact apart field isField variant member same.symm

theorem unusableText?_eq_none_iff (compiler : Target.Compiler) (declaration : Declaration)
    : Check.unusableText? compiler declaration = none ↔ HasFitTexts compiler declaration := by
  simp only [Check.unusableText?, Option.orElse_eq_none, Option.map_eq_none_iff,
    Option.bind_eq_none_iff, List.findSome?_eq_none_iff]
  constructor
  · rintro ⟨type, data, imports⟩
    exact ⟨type, data, imports⟩
  · rintro ⟨type, data, imports⟩
    exact ⟨type, data, imports⟩

theorem tooManyVariants?_eq_none_iff (declaration : Declaration)
    : Check.tooManyVariants? declaration = none ↔ declaration.variants.length ≤ 256 := by
  rw [Check.tooManyVariants?, maxVariants]
  split
  next exceeds => exact iff_of_false nofun (Nat.not_le.mpr exceeds)
  next fits => exact iff_of_true rfl (Nat.not_lt.mp fits)

end LiteralEnum.Model
