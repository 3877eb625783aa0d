import LiteralEnum.Proofs.Model.Admissibility
import LiteralEnum.Proofs.Model.LiteralDispute

/-! Who is to blame for a violation: the earliest culprit of its kind. For each invariant
there is the law that its check finds exactly the violation that blames this culprit.
-/

namespace LiteralEnum

/-- The invariants in the order in which they are tried. -/
def Invariant.inOrder : List Invariant :=
  [.uniqueVariantNames, .uniqueLiterals, .dataFieldDeclared, .validIdentifiers, .validTexts,
   .variantLimit]

namespace Model

-----------------------------------------------------------------------------------------
-- What is wrong, and who is to blame
-----------------------------------------------------------------------------------------

/-- What an invariant demands of a declaration as a whole. -/
def Upholds (compiler : Target.Compiler) (declaration : Declaration) : Invariant → Prop
  | .uniqueVariantNames => (declaration.variants.map (·.name)).Nodup
  | .uniqueLiterals => HasUnsharedLiterals declaration.variants
  | .dataFieldDeclared =>
      declaration.field = none → ∀ variant ∈ declaration.variants, variant.data = none
  | .validIdentifiers => HasUsableNames declaration
  | .validTexts => HasFitTexts compiler declaration
  | .variantLimit => declaration.variants.length ≤ 256

/-- The invariant fails, and those that are tried before it hold. -/
def IsFirstFailure (compiler : Target.Compiler) (declaration : Declaration)
    (invariant : Invariant)
    : Prop :=
  ¬Upholds compiler declaration invariant
  ∧ ∃ before after,
      Invariant.inOrder = before ++ invariant :: after
      ∧ ∀ other ∈ before, Upholds compiler declaration other

/-- The names that a variant leaves alone: those of the class, and that of the field. -/
def takenNames (declaration : Declaration) : List String :=
  declaration.field.toList.map (·.name) ++ reservedMembers

/-- The violation has the earliest culprit of its kind; the names and the line are those of
the culprit.
-/
inductive Blames (compiler : Target.Compiler) (declaration : Declaration)
    : Violation → List String → Int → Prop
  /-- Up to the second occurrence of a name all names differ, so that the first occurrence
  is the only one before it.
  -/
  | repeatedName {before between after first variant}
    (split : declaration.variants = (before ++ first :: between) ++ variant :: after)
    (same : first.name = variant.name)
    (distinct : ((before ++ first :: between).map (·.name)).Nodup)
    (only : ∀ other ∈ before ++ first :: between, other.name = variant.name → other = first)
    : Blames compiler declaration (.repeatedName variant first.line) [variant.name] variant.line
  /-- Of the literals read before, no two variants share one. -/
  | sharedLiteral {before after owner claimant read literal unread}
    (split : declaration.variants = before ++ claimant :: after)
    (literals : claimant.literals = read ++ literal :: unread)
    (isEarlier : owner ∈ before) (owns : literal ∈ owner.literals)
    (only : ∀ other ∈ before, literal ∈ other.literals → other = owner)
    (unshared : HasUnsharedLiterals before)
    (fresh : ∀ known ∈ read, ∀ other ∈ before, known ∉ other.literals)
    : Blames compiler declaration (.sharedLiteral literal owner claimant)
        [owner.name, claimant.name] claimant.line
  | undeclaredData {before after variant}
    (split : declaration.variants = before ++ variant :: after)
    (noField : declaration.field = none) (supplies : variant.data.isSome = true)
    (earlier : ∀ other ∈ before, other.data = none)
    : Blames compiler declaration (.undeclaredData declaration.name variant)
        [variant.name] variant.line
  | enumName {problem}
    (unusable : typeNameProblem? declaration.name = some problem)
    : Blames compiler declaration (.unusableEnumName declaration problem) [] declaration.line
  | fieldName {field problem}
    (enumName : IsUsable reservedTypes declaration.name)
    (declared : declaration.field = some field)
    (unusable : memberNameProblem? reservedMembers field.name = some problem)
    : Blames compiler declaration (.unusableFieldName field problem) [] field.line
  | variantName {before after variant problem}
    (enumName : IsUsable reservedTypes declaration.name)
    (fieldName : ∀ field ∈ declaration.field, IsUsable reservedMembers field.name)
    (split : declaration.variants = before ++ variant :: after)
    (earlier : ∀ other ∈ before, IsUsable (takenNames declaration) other.name)
    (unusable : memberNameProblem? (takenNames declaration) variant.name = some problem)
    : Blames compiler declaration (.unusableVariantName variant problem)
        [variant.name] variant.line
  | typeText {field problem}
    (declared : declaration.field = some field)
    (unfit : compiler.typeProblem? field.typeText = some problem)
    : Blames compiler declaration (.unfitType field problem) [] field.line
  | dataText {before after variant expression problem}
    (typeText : ∀ field ∈ declaration.field, compiler.typeProblem? field.typeText = none)
    (split : declaration.variants = before ++ variant :: after)
    (earlier : ∀ other ∈ before, ∀ text ∈ other.data, compiler.dataProblem? text = none)
    (supplied : variant.data = some expression)
    (unfit : compiler.dataProblem? expression = some problem)
    : Blames compiler declaration (.unfitData variant expression problem)
        [variant.name] variant.line
  | importText {before after directive problem}
    (typeText : ∀ field ∈ declaration.field, compiler.typeProblem? field.typeText = none)
    (dataTexts : ∀ variant ∈ declaration.variants, ∀ text ∈ variant.data,
      compiler.dataProblem? text = none)
    (split : declaration.imports = before ++ directive :: after)
    (earlier : ∀ other ∈ before, compiler.importProblem? other.statement = none)
    (unfit : compiler.importProblem? directive.statement = some problem)
    : Blames compiler declaration (.unfitImport directive problem) [] directive.line
  | limit (exceeds : 256 < declaration.variants.length)
    : Blames compiler declaration (.tooManyVariants declaration) [] declaration.line

/-- A violation says itself whom it blames. -/
def IsBlame (compiler : Target.Compiler) (declaration : Declaration) (violation : Violation)
    : Prop :=
  Blames compiler declaration violation violation.variants violation.line

-----------------------------------------------------------------------------------------
-- Repeated names
-----------------------------------------------------------------------------------------

/-- The names of variants with their lines, last variant first. -/
def nameLines (variants : List VariantDeclaration) : List (String × Int) :=
  (variants.map fun variant => (variant.name, variant.line)).reverse

/-- The search for a repeated name ends at the first variant whose name has been seen. By
induction on the variants.
-/
theorem repeatedName?_eq_some_iff (seen : List (String × Int))
    (variants : List VariantDeclaration) (violation : Violation)
    : Check.repeatedName? seen variants = some violation
      ↔ ∃ before variant after line,
          variants = before ++ variant :: after
          ∧ Check.repeatedName? seen before = none
          ∧ (nameLines before ++ seen).lookup variant.name = some line
          ∧ violation = .repeatedName variant line := by
  induction variants generalizing seen with
  | nil => simp [Check.repeatedName?]
  | cons variant rest ih =>
      rw [Check.repeatedName?]
      split
      next line known =>
        constructor
        · intro found
          obtain rfl := Option.some.inj found
          exact ⟨[], variant, rest, line, rfl, rfl, known, rfl⟩
        · rintro ⟨before, other, after, otherLine, split, none, found, rfl⟩
          cases before with
          | nil =>
              obtain ⟨rfl, -⟩ := List.cons.inj split
              rw [show nameLines [] ++ seen = seen from rfl, known] at found
              rw [Option.some.inj found]
          | cons head tail =>
              obtain ⟨rfl, -⟩ := List.cons.inj split
              simp [Check.repeatedName?, known] at none
      next fresh =>
        rw [ih]
        constructor
        · rintro ⟨before, other, after, line, rfl, none, found, rfl⟩
          refine ⟨variant :: before, other, after, line, rfl, ?_, ?_, rfl⟩
          · rw [Check.repeatedName?, fresh, none]
          · simpa [nameLines] using found
        · rintro ⟨before, other, after, line, split, none, found, rfl⟩
          cases before with
          | nil =>
              obtain ⟨rfl, -⟩ := List.cons.inj split
              rw [show nameLines [] ++ seen = seen from rfl, fresh] at found
              cases found
          | cons head tail =>
              obtain ⟨rfl, rfl⟩ := List.cons.inj split
              rw [Check.repeatedName?, fresh] at none
              exact ⟨tail, other, after, line, rfl, none, by simpa [nameLines] using found, rfl⟩

/-- Where names differ, the line that is kept for a name is the line of the variant that has
it.
-/
theorem lookup_nameLines_iff {variants : List VariantDeclaration} {name : String} {line : Int}
    (distinct : (variants.map (·.name)).Nodup)
    : (nameLines variants).lookup name = some line
      ↔ ∃ variant ∈ variants, variant.name = name ∧ variant.line = line := by
  rw [nameLines, ← List.map_reverse]
  have reversed : (variants.reverse.map (·.name)).Nodup := by
    rw [List.map_reverse]
    exact List.nodup_reverse.mpr distinct
  have either : ∀ variant, variant ∈ variants ↔ variant ∈ variants.reverse :=
    fun _ => List.mem_reverse.symm
  simp only [either]
  generalize variants.reverse = entries at reversed
  induction entries with
  | nil => simp
  | cons entry rest ih =>
      obtain ⟨apart, distinct⟩ := List.nodup_cons.mp reversed
      rw [List.map_cons, List.lookup_cons]
      by_cases same : name = entry.name
      · subst same
        have others : ¬∃ variant ∈ rest, variant.name = entry.name ∧ variant.line = line := by
          rintro ⟨variant, member, same, -⟩
          exact apart (List.mem_map.mpr ⟨variant, member, same⟩)
        simp [others]
      · have differs : (name == entry.name) = false := by simpa using same
        simp [differs, ih distinct, Ne.symm same]

/-- A repeated name is blamed on its second occurrence. -/
theorem repeatedName?_blames_iff (compiler : Target.Compiler) (declaration : Declaration)
    (violation : Violation)
    : Check.repeatedName? [] declaration.variants = some violation
      ↔ violation.invariant = .uniqueVariantNames ∧ IsBlame compiler declaration violation := by
  rw [repeatedName?_eq_some_iff]
  constructor
  · rintro ⟨seen, variant, after, line, split, none, found, rfl⟩
    have distinct := ((repeatedName?_eq_none_iff [] seen).mp none).1
    rw [List.append_nil, lookup_nameLines_iff distinct] at found
    obtain ⟨first, member, same, rfl⟩ := found
    have only : ∀ other ∈ seen, other.name = variant.name → other = first := fun other isOther
        otherSame => List.inj_on_of_nodup_map distinct isOther member (otherSame.trans same.symm)
    obtain ⟨before, between, rfl⟩ := List.append_of_mem member
    exact ⟨rfl, .repeatedName split same distinct only⟩
  · rintro ⟨kind, blame⟩
    rw [IsBlame] at blame
    generalize violation.variants = names, violation.line = line at blame
    cases blame with
    | @repeatedName before between after first variant split same distinct only =>
        refine ⟨before ++ first :: between, variant, after, first.line, split, ?_, ?_, rfl⟩
        · exact (repeatedName?_eq_none_iff [] _).mpr ⟨distinct, fun _ _ => rfl⟩
        · rw [List.append_nil, lookup_nameLines_iff distinct]
          exact ⟨first, by simp, same, rfl⟩
    | _ => cases kind

-----------------------------------------------------------------------------------------
-- Shared literals
-----------------------------------------------------------------------------------------

/-- A claim among those of the earlier variants, if its literal is owned by one of them. -/
theorem mem_claims_of_index_ne {before : List VariantDeclaration} {variant : VariantDeclaration}
    {read : List String} {claim : Check.Claim}
    (member : claim ∈ Check.claims 0 before ++ read.map (⟨·, before.length, variant⟩))
    (differs : claim.index ≠ before.length)
    : before[claim.index]? = some claim.variant ∧ claim.literal ∈ claim.variant.literals := by
  rcases List.mem_append.mp member with early | late
  · obtain ⟨i, found, owns, index⟩ := (Check.mem_claims_iff 0 before claim).mp early
    rw [index, Nat.zero_add]
    exact ⟨found, owns⟩
  · obtain ⟨_, -, rfl⟩ := List.mem_map.mp late
    exact absurd rfl differs

/-- A shared literal is blamed on its first claimant besides its owner. -/
theorem settle_blames_iff (compiler : Target.Compiler) (declaration : Declaration)
    (violation : Violation)
    : Check.settle [] (Check.claims 0 declaration.variants) = .error violation
      ↔ violation.invariant = .uniqueLiterals ∧ IsBlame compiler declaration violation := by
  rw [Check.settle_eq_error_iff]
  constructor
  · rintro ⟨made, claim, rest, held, first, split, success, found, against, rfl⟩
    obtain ⟨before, after, read, unread, variants, literals, index, rfl⟩ :=
      Check.exists_split_of_claims split
    rw [Nat.zero_add] at index
    have settled := Check.Settled.nil.settle success
    rw [List.nil_append, index] at settled
    obtain ⟨unshared, fresh⟩ := (Check.agree_claims_concat_iff _ _ _).mp settled.agree
    have literal : first.literal = claim.literal := by simpa using List.find?_some found
    obtain ⟨place, owns⟩ := mem_claims_of_index_ne
      (settled.claimed first (List.mem_of_find?_eq_some found)) (index ▸ against)
    rw [literal] at owns
    refine ⟨rfl, .sharedLiteral variants literals (List.mem_of_getElem? place) owns ?_ unshared
      fresh⟩
    intro other isOther alsoOwns
    obtain ⟨i, otherPlace⟩ := List.mem_iff_getElem?.mp isOther
    have same := unshared i first.index other first.variant otherPlace place claim.literal
      alsoOwns owns
    rw [same, place] at otherPlace
    exact (Option.some.inj otherPlace).symm
  · rintro ⟨kind, blame⟩
    rw [IsBlame] at blame
    generalize violation.variants = names, violation.line = line at blame
    cases blame with
    | @sharedLiteral before after owner claimant read literal unread split literals isEarlier
        owns only unshared fresh =>
        -- What is claimed before the literal agrees, so that its settlement succeeds.
        have agree := (Check.agree_claims_concat_iff before claimant read).mpr ⟨unshared, fresh⟩
        obtain ⟨held, success⟩ := Check.Settled.nil.exists_settle agree
        have settled := Check.Settled.nil.settle success
        rw [List.nil_append] at settled
        obtain ⟨i, bound, place⟩ := List.mem_iff_getElem.mp isEarlier
        have claimed : (⟨literal, i, owner⟩ : Check.Claim) ∈ Check.claims 0 before :=
          (Check.mem_claims_iff 0 before _).mpr
            ⟨i, List.getElem?_eq_some_iff.mpr ⟨bound, place⟩, owns, (Nat.zero_add i).symm⟩
        -- The literal is held, by the only variant that can hold it.
        obtain ⟨holder, isHeld, sameLiteral, -⟩ :=
          settled.covered _ (List.mem_append_left _ claimed)
        obtain ⟨first, found⟩ : ∃ first, held.find? (·.literal = literal) = some first :=
          Option.isSome_iff_exists.mp
            (List.find?_isSome.mpr ⟨holder, isHeld, by simpa using sameLiteral⟩)
        have isFirst := settled.claimed first (List.mem_of_find?_eq_some found)
        have firstLiteral : first.literal = literal := by simpa using List.find?_some found
        have index : first.index = i :=
          agree first isFirst _ (List.mem_append_left _ claimed) firstLiteral
        have against : first.index ≠ before.length := by omega
        obtain ⟨firstPlace, -⟩ := mem_claims_of_index_ne isFirst against
        have isOwner : first.variant = owner := by
          rw [index, List.getElem?_eq_some_iff.mpr ⟨bound, place⟩] at firstPlace
          exact (Option.some.inj firstPlace).symm
        refine ⟨_, ⟨literal, before.length, claimant⟩,
          unread.map (⟨·, before.length, claimant⟩) ++ Check.claims (before.length + 1) after,
          held, first, ?_, success, found, against, by rw [isOwner]⟩
        rw [split, Check.claims_append, Check.claims, literals]
        simp
    | _ => cases kind

-----------------------------------------------------------------------------------------
-- Data, names and texts
-----------------------------------------------------------------------------------------

/-- Data without a field is blamed on the first variant that has data. -/
theorem undeclaredData?_blames_iff (compiler : Target.Compiler) (declaration : Declaration)
    (violation : Violation)
    : Check.undeclaredData? declaration = some violation
      ↔ violation.invariant = .dataFieldDeclared ∧ IsBlame compiler declaration violation := by
  constructor
  · intro found
    rw [Check.undeclaredData?] at found
    split at found
    next => cases found
    next noField =>
      obtain ⟨before, variant, after, split, supplies, earlier⟩ :=
        List.findSome?_eq_some_iff.mp found
      obtain ⟨expression, supplied, rfl⟩ := Option.map_eq_some_iff.mp supplies
      refine ⟨rfl, .undeclaredData split (by simpa using noField) (by simp [supplied]) ?_⟩
      exact fun other member => by simpa using earlier other member
  · rintro ⟨kind, blame⟩
    rw [IsBlame] at blame
    generalize violation.variants = names, violation.line = line at blame
    cases blame with
    | @undeclaredData before after variant split noField supplies earlier =>
        obtain ⟨expression, supplied⟩ := Option.isSome_iff_exists.mp supplies
        rw [Check.undeclaredData?, noField]
        refine List.findSome?_eq_some_iff.mpr ⟨before, variant, after, split, ?_, ?_⟩
        · rw [supplied, Option.map_some]
        · exact fun other member => by rw [earlier other member, Option.map_none]
    | _ => cases kind

/-- An unusable name is blamed on the type, then on the field, then on the first variant. -/
theorem unusableName?_blames_iff (compiler : Target.Compiler) (declaration : Declaration)
    (violation : Violation)
    : Check.unusableName? declaration = some violation
      ↔ violation.invariant = .validIdentifiers ∧ IsBlame compiler declaration violation := by
  simp only [Check.unusableName?, Option.orElse_eq_some, Option.map_eq_some_iff,
    Option.map_eq_none_iff, Option.bind_eq_some_iff, Option.bind_eq_none_iff,
    List.findSome?_eq_some_iff, typeNameProblem?_eq_none_iff, memberNameProblem?_eq_none_iff]
  constructor
  · rintro (⟨problem, unusable, rfl⟩ | ⟨enumName, ⟨field, declared, problem, unusable, rfl⟩ |
      ⟨fieldName, before, variant, after, split, ⟨problem, unusable, rfl⟩, earlier⟩⟩)
    · exact ⟨rfl, .enumName unusable⟩
    · exact ⟨rfl, .fieldName enumName declared unusable⟩
    · exact ⟨rfl, .variantName enumName fieldName split earlier unusable⟩
  · rintro ⟨kind, blame⟩
    rw [IsBlame] at blame
    generalize violation.variants = names, violation.line = line at blame
    cases blame with
    | enumName unusable => exact Or.inl ⟨_, unusable, rfl⟩
    | fieldName enumName declared unusable =>
        exact Or.inr ⟨enumName, Or.inl ⟨_, declared, _, unusable, rfl⟩⟩
    | variantName enumName fieldName split earlier unusable =>
        exact Or.inr ⟨enumName, Or.inr
          ⟨fieldName, _, _, _, split, ⟨_, unusable, rfl⟩, earlier⟩⟩
    | _ => cases kind

/-- An unfit text is blamed on the type, then on the first data, then on the first import. -/
theorem unusableText?_blames_iff (compiler : Target.Compiler) (declaration : Declaration)
    (violation : Violation)
    : Check.unusableText? compiler declaration = some violation
      ↔ violation.invariant = .validTexts ∧ IsBlame compiler declaration violation := by
  simp only [Check.unusableText?, Option.orElse_eq_some, Option.map_eq_some_iff,
    Option.map_eq_none_iff, Option.bind_eq_some_iff, Option.bind_eq_none_iff,
    List.findSome?_eq_some_iff, List.findSome?_eq_none_iff]
  constructor
  · rintro (⟨field, declared, problem, unfit, rfl⟩ | ⟨typeText,
      ⟨before, variant, after, split, ⟨expression, supplied, problem, unfit, rfl⟩, earlier⟩ |
      ⟨dataTexts, before, directive, after, split, ⟨problem, unfit, rfl⟩, earlier⟩⟩)
    · exact ⟨rfl, .typeText declared unfit⟩
    · exact ⟨rfl, .dataText typeText split earlier supplied unfit⟩
    · exact ⟨rfl, .importText typeText dataTexts split earlier unfit⟩
  · rintro ⟨kind, blame⟩
    rw [IsBlame] at blame
    generalize violation.variants = names, violation.line = line at blame
    cases blame with
    | typeText declared unfit => exact Or.inl ⟨_, declared, _, unfit, rfl⟩
    | dataText typeText split earlier supplied unfit =>
        exact Or.inr ⟨typeText, Or.inl
          ⟨_, _, _, split, ⟨_, supplied, _, unfit, rfl⟩, earlier⟩⟩
    | importText typeText dataTexts split earlier unfit =>
        exact Or.inr ⟨typeText, Or.inr
          ⟨dataTexts, _, _, _, split, ⟨_, unfit, rfl⟩, earlier⟩⟩
    | _ => cases kind

/-- Too many variants are blamed on the type. -/
theorem tooManyVariants?_blames_iff (compiler : Target.Compiler) (declaration : Declaration)
    (violation : Violation)
    : Check.tooManyVariants? declaration = some violation
      ↔ violation.invariant = .variantLimit ∧ IsBlame compiler declaration violation := by
  constructor
  · intro found
    rw [Check.tooManyVariants?] at found
    split at found
    next exceeds =>
      obtain rfl := Option.some.inj found
      exact ⟨rfl, .limit exceeds⟩
    next => cases found
  · rintro ⟨kind, blame⟩
    rw [IsBlame] at blame
    generalize violation.variants = names, violation.line = line at blame
    cases blame with
    | limit exceeds => exact if_pos exceeds
    | _ => cases kind

end Model

end LiteralEnum
