import LiteralEnum.Declaration.Parser
import LiteralEnum.Model
import LiteralEnum.Model.Violation

/-! The model that a declaration describes. The rules are checked one after the other on
the whole declaration, and the first violation is reported.
-/

namespace LiteralEnum

namespace Model.Check

-----------------------------------------------------------------------------------------
-- Names and literals that belong to one variant
-----------------------------------------------------------------------------------------

/-- The first variant whose name an earlier one has. -/
def repeatedName? (seen : List (String × Int)) : List VariantDeclaration → Option Violation
  | [] => none
  | variant :: rest =>
      match seen.lookup variant.name with
      | some firstLine => some (.repeatedName variant firstLine)
      | none => repeatedName? ((variant.name, variant.line) :: seen) rest

/-- A literal with the variant that declares it. -/
structure Claim where
  literal : String
  index : Nat
  variant : VariantDeclaration
deriving Repr, DecidableEq

/-- The claims of variants in reading order. -/
def claims (start : Nat) : List VariantDeclaration → List Claim
  | [] => []
  | variant :: rest =>
      variant.literals.map (fun literal => ⟨literal, start, variant⟩) ++ claims (start + 1) rest

/-- The first claim to every literal, unless another variant makes a later claim. -/
def settle (held : List Claim) : List Claim → Except Violation (List Claim)
  | [] => .ok held
  | claim :: rest =>
      match held.find? (·.literal = claim.literal) with
      | none => settle (held ++ [claim]) rest
      | some first =>
          if first.index = claim.index then settle held rest
          else .error (.sharedLiteral claim.literal first.variant claim.variant)

-----------------------------------------------------------------------------------------
-- Data, names and texts
-----------------------------------------------------------------------------------------

def undeclaredData? (declaration : Declaration) : Option Violation :=
  if declaration.field.isSome then none
  else declaration.variants.findSome? fun variant =>
    variant.data.map fun _ => .undeclaredData declaration.name variant

def unusableName? (declaration : Declaration) : Option Violation :=
  let taken := declaration.field.toList.map (·.name) ++ reservedMembers
  (typeNameProblem? declaration.name).map (.unusableEnumName declaration)
    <|> declaration.field.bind (fun field =>
      (memberNameProblem? reservedMembers field.name).map (.unusableFieldName field))
    <|> declaration.variants.findSome? (fun variant =>
      (memberNameProblem? taken variant.name).map (.unusableVariantName variant))

def unusableText? (compiler : Target.Compiler) (declaration : Declaration) : Option Violation :=
  declaration.field.bind (fun field =>
      (compiler.typeProblem? field.typeText).map (.unfitType field))
    <|> declaration.variants.findSome? (fun variant =>
      variant.data.bind fun expression =>
        (compiler.dataProblem? expression).map (.unfitData variant expression))
    <|> declaration.imports.findSome? (fun directive =>
      (compiler.importProblem? directive.statement).map (.unfitImport directive))

def tooManyVariants? (declaration : Declaration) : Option Violation :=
  if maxVariants < declaration.variants.length then some (.tooManyVariants declaration) else none

/-- Fails with a violation if there is one. -/
def refuse : Option Violation → Except Violation Unit
  | none => .ok ()
  | some violation => .error violation

end Model.Check

namespace Model

/-- The variants of a declaration, numbered in order. -/
def number (start : Nat) : List VariantDeclaration → List Variant
  | [] => []
  | variant :: rest =>
      { index := start, name := variant.name, primary := variant.primary,
        alternates := variant.alternates, doc := variant.doc, data := variant.data }
        :: number (start + 1) rest

/-- The model that a declaration describes. -/
def ofDeclaration (compiler : Target.Compiler) (declaration : Declaration)
    : Except Violation Model := do
  Check.refuse (Check.repeatedName? [] declaration.variants)
  let claims ← Check.settle [] (Check.claims 0 declaration.variants)
  Check.refuse (Check.undeclaredData? declaration)
  Check.refuse (Check.unusableName? declaration)
  Check.refuse (Check.unusableText? compiler declaration)
  Check.refuse (Check.tooManyVariants? declaration)
  return {
    name := declaration.name
    variants := number 0 declaration.variants
    owners := claims.map fun claim => (claim.literal, claim.index)
    doc := declaration.doc
    field := declaration.field.map fun field => ⟨field.name, field.typeText⟩
    imports := declaration.imports.map (·.statement)
  }

end Model

/-- A source that describes no model. -/
inductive BuildError where
  | source (error : SourceError)
  | invalid (violation : Violation)
deriving Repr, DecidableEq

def BuildError.message : BuildError → String
  | .source error => error.message
  | .invalid violation => violation.message

/-- The model that a source describes. -/
def Model.ofSource (source : String) : Except BuildError Model := do
  let declaration ← (Declaration.ofSource source).mapError .source
  (Model.ofDeclaration .standard declaration).mapError .invalid

end LiteralEnum
