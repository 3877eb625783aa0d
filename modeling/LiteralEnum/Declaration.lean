/-! What an enum declaration says. -/

namespace LiteralEnum

/-- An import that the generated module needs, as the text of the statement. -/
structure ImportDirective where
  statement : String
  line : Int := 0
deriving Repr, DecidableEq, Inhabited

/-- The name of the data accessor and the type of the data, as text. -/
structure DataField where
  name : String
  typeText : String
  line : Int := 0
deriving Repr, DecidableEq, Inhabited

/-- A variant with its literals and its data expression, as text. -/
structure VariantDeclaration where
  name : String
  primary : String
  alternates : List String := []
  doc : Option String := none
  data : Option String := none
  line : Int := 0
deriving Repr, DecidableEq, Inhabited

/-- The literals of a variant, the primary first. -/
def VariantDeclaration.literals (variant : VariantDeclaration) : List String :=
  variant.primary :: variant.alternates

/-- One enum type. -/
structure Declaration where
  name : String
  doc : Option String := none
  field : Option DataField := none
  variants : List VariantDeclaration := []
  imports : List ImportDirective := []
  line : Int := 0
deriving Repr, DecidableEq, Inhabited

end LiteralEnum
