import LiteralEnum.Proofs.Model.Blame
import LiteralEnum.Proofs.Model.Building

/-! Which violation of a declaration is reported. The invariants are tried in a fixed order
on the declaration as a whole; for the first one that fails, the culprit is the earliest.
-/

namespace LiteralEnum.Model

/-- The violation that the check for an invariant finds, whatever the other checks find. -/
def violationOf? (compiler : Target.Compiler) (declaration : Declaration)
    : Invariant → Option Violation
  | .uniqueVariantNames => Check.repeatedName? [] declaration.variants
  | .uniqueLiterals =>
      match Check.settle [] (Check.claims 0 declaration.variants) with
      | .error violation => some violation
      | .ok _ => none
  | .dataFieldDeclared => Check.undeclaredData? declaration
  | .validIdentifiers => Check.unusableName? declaration
  | .validTexts => Check.unusableText? compiler declaration
  | .variantLimit => Check.tooManyVariants? declaration

/-- Each check finds nothing exactly where its invariant holds. -/
theorem violationOf?_eq_none_iff (compiler : Target.Compiler) (declaration : Declaration)
    (invariant : Invariant)
    : violationOf? compiler declaration invariant = none
      ↔ Upholds compiler declaration invariant := by
  cases invariant with
  | uniqueVariantNames =>
      refine (repeatedName?_eq_none_iff [] declaration.variants).trans ?_
      exact and_iff_left fun _ _ => rfl
  | uniqueLiterals =>
      rw [Upholds, ← Check.exists_settle_claims_iff, violationOf?]
      split
      next violation failed => simp [failed]
      next held success => simp [success]
  | dataFieldDeclared => exact undeclaredData?_eq_none_iff declaration
  | validIdentifiers => exact unusableName?_eq_none_iff declaration
  | validTexts => exact unusableText?_eq_none_iff compiler declaration
  | variantLimit => exact tooManyVariants?_eq_none_iff declaration

/-- Each check finds the violation that blames the earliest culprit of its kind. -/
theorem violationOf?_eq_some_iff (compiler : Target.Compiler) (declaration : Declaration)
    (invariant : Invariant) (violation : Violation)
    : violationOf? compiler declaration invariant = some violation
      ↔ violation.invariant = invariant ∧ IsBlame compiler declaration violation := by
  cases invariant with
  | uniqueVariantNames => exact repeatedName?_blames_iff compiler declaration violation
  | uniqueLiterals =>
      rw [← settle_blames_iff compiler declaration violation, violationOf?]
      split
      next other failed => simp [failed]
      next held success => simp [success]
  | dataFieldDeclared => exact undeclaredData?_blames_iff compiler declaration violation
  | validIdentifiers => exact unusableName?_blames_iff compiler declaration violation
  | validTexts => exact unusableText?_blames_iff compiler declaration violation
  | variantLimit => exact tooManyVariants?_blames_iff compiler declaration violation

/-- A check stops a computation with what it finds; otherwise what follows decides. -/
theorem refuse_bind_eq_error_iff {Result : Type} (found : Option Violation)
    (next : Unit → Except Violation Result) (violation : Violation)
    : (Check.refuse found >>= next) = .error violation
      ↔ found = some violation ∨ found = none ∧ next () = .error violation := by
  cases found with
  | none => simp [Check.refuse, bind, Except.bind]
  | some other => simp [Check.refuse, bind, Except.bind]

/-- The first answer in a row of searches comes from the first, or from the rest if the first
finds nothing.
-/
theorem findSome?_cons_eq_some_iff {search : Invariant → Option Violation}
    {invariant : Invariant} {rest : List Invariant} {violation : Violation}
    : (invariant :: rest).findSome? search = some violation
      ↔ search invariant = some violation
        ∨ search invariant = none ∧ rest.findSome? search = some violation := by
  rw [List.findSome?_cons]
  cases search invariant <;> simp

/-- Building fails with what the first check finds that finds anything. -/
theorem ofDeclaration_eq_error_iff_findSome? (compiler : Target.Compiler)
    (declaration : Declaration) (violation : Violation)
    : ofDeclaration compiler declaration = .error violation
      ↔ Invariant.inOrder.findSome? (violationOf? compiler declaration) = some violation := by
  simp only [Invariant.inOrder, findSome?_cons_eq_some_iff, List.findSome?_nil, violationOf?]
  rw [ofDeclaration, refuse_bind_eq_error_iff]
  refine or_congr_right (and_congr_right fun _ => ?_)
  cases settlement : Check.settle [] (Check.claims 0 declaration.variants) with
  | error other => simp [bind, Except.bind]
  | ok held =>
      change (Check.refuse (Check.undeclaredData? declaration) >>= _) = .error violation ↔ _
      simp [refuse_bind_eq_error_iff, pure, Except.pure]

/-- A declaration is refused exactly with the violation that blames the earliest culprit of
the first invariant that fails. No other violation is reported, and none is missed.
-/
theorem ofDeclaration_eq_error_iff (compiler : Target.Compiler) (declaration : Declaration)
    (violation : Violation)
    : ofDeclaration compiler declaration = .error violation
      ↔ IsFirstFailure compiler declaration violation.invariant
        ∧ IsBlame compiler declaration violation := by
  rw [ofDeclaration_eq_error_iff_findSome?, List.findSome?_eq_some_iff]
  constructor
  · rintro ⟨before, invariant, after, order, found, earlier⟩
    obtain ⟨rfl, blame⟩ := (violationOf?_eq_some_iff _ _ _ _).mp found
    refine ⟨⟨?_, before, after, order, ?_⟩, blame⟩
    · rw [← violationOf?_eq_none_iff, found]
      exact Option.some_ne_none violation
    · intro other member
      exact (violationOf?_eq_none_iff _ _ _).mp (earlier other member)
  · rintro ⟨⟨-, before, after, order, earlier⟩, blame⟩
    refine ⟨before, violation.invariant, after, order, ?_, ?_⟩
    · exact (violationOf?_eq_some_iff _ _ _ _).mpr ⟨rfl, blame⟩
    · intro other member
      exact (violationOf?_eq_none_iff _ _ _).mpr (earlier other member)

end LiteralEnum.Model
