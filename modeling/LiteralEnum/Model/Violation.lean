import LiteralEnum.Declaration
import LiteralEnum.Model.Naming
import LiteralEnum.Target.Verdict
import LiteralEnum.Text.Quoted

/-! What a declaration can get wrong. A violation names the culprit; its wording is made
from that.
-/

namespace LiteralEnum

/-- Discriminants fit in one byte. -/
def maxVariants : Nat := 256

/-- The rules for declarations, in the order in which they are checked. -/
inductive Invariant where
  | uniqueVariantNames
  | uniqueLiterals
  | dataFieldDeclared
  | validIdentifiers
  | validTexts
  | variantLimit
deriving Repr, DecidableEq

def Invariant.label : Invariant → String
  | .uniqueVariantNames => "unique-variant-names"
  | .uniqueLiterals => "unique-literals"
  | .dataFieldDeclared => "data-field-declared"
  | .validIdentifiers => "valid-identifiers"
  | .validTexts => "valid-python"
  | .variantLimit => "variant-limit"

inductive Violation where
  | repeatedName (variant : VariantDeclaration) (firstLine : Int)
  | sharedLiteral (literal : String) (owner claimant : VariantDeclaration)
  | undeclaredData (enumName : String) (variant : VariantDeclaration)
  | unusableEnumName (declaration : Declaration) (problem : Model.NameProblem)
  | unusableFieldName (field : DataField) (problem : Model.NameProblem)
  | unusableVariantName (variant : VariantDeclaration) (problem : Model.NameProblem)
  | unfitType (field : DataField) (problem : Target.TextProblem)
  | unfitData (variant : VariantDeclaration) (expression : String) (problem : Target.TextProblem)
  | unfitImport (directive : ImportDirective) (problem : Target.ImportProblem)
  | tooManyVariants (declaration : Declaration)
deriving Repr, DecidableEq

namespace Violation

def invariant : Violation → Invariant
  | .repeatedName _ _ => .uniqueVariantNames
  | .sharedLiteral _ _ _ => .uniqueLiterals
  | .undeclaredData _ _ => .dataFieldDeclared
  | .unusableEnumName _ _ | .unusableFieldName _ _ | .unusableVariantName _ _ => .validIdentifiers
  | .unfitType _ _ | .unfitData _ _ _ | .unfitImport _ _ => .validTexts
  | .tooManyVariants _ => .variantLimit

/-- The names of the variants that are to blame. -/
def variants : Violation → List String
  | .repeatedName variant _ | .undeclaredData _ variant | .unusableVariantName variant _
  | .unfitData variant _ _ => [variant.name]
  | .sharedLiteral _ owner claimant => [owner.name, claimant.name]
  | .unusableEnumName _ _ | .unusableFieldName _ _ | .unfitType _ _ | .unfitImport _ _
  | .tooManyVariants _ => []

/-- The line to look at; zero if there is none. -/
def line : Violation → Int
  | .repeatedName variant _ | .undeclaredData _ variant | .unusableVariantName variant _
  | .unfitData variant _ _ | .sharedLiteral _ _ variant => variant.line
  | .unusableEnumName declaration _ | .tooManyVariants declaration => declaration.line
  | .unusableFieldName field _ | .unfitType field _ => field.line
  | .unfitImport directive _ => directive.line

def reason : Violation → String
  | .repeatedName variant firstLine =>
      s!"Duplicate variant name '{variant.name}' (first declared on line {firstLine})"
  | .sharedLiteral literal owner claimant =>
      s!"Literal {Text.quoted literal} is claimed by both '{owner.name}' and '{claimant.name}'"
  | .undeclaredData enumName variant =>
      s!"Variant '{variant.name}' supplies data but enum '{enumName}' declares no data field"
  | .unusableEnumName declaration problem => s!"Enum name '{declaration.name}' {problem.reason}"
  | .unusableFieldName field problem => s!"Data field name '{field.name}' {problem.reason}"
  | .unusableVariantName variant problem => s!"Variant name '{variant.name}' {problem.reason}"
  | .unfitType field problem => s!"Data field type {Text.quoted field.typeText} {problem.reason}"
  | .unfitData variant expression problem =>
      s!"Data of variant '{variant.name}' {problem.reason}: {Text.quoted expression}"
  | .unfitImport directive problem =>
      s!"Import directive {problem.reason}: {Text.quoted directive.statement}"
  | .tooManyVariants declaration =>
      s!"Enum '{declaration.name}' declares {declaration.variants.length} variants; "
        ++ s!"at most {maxVariants} fit a single-byte discriminant"

/-- The place of a violation in messages. -/
def location (violation : Violation) : String :=
  if violation.line = 0 then "unknown location" else s!"L{violation.line}"

def message (violation : Violation) : String :=
  s!"[{violation.invariant.label}] {violation.location}: {violation.reason}"

end Violation

end LiteralEnum
