/-! A checked enum type, from which the module and the other views are rendered. -/

namespace LiteralEnum

namespace Model

/-- The data accessor and the type of the data, as text. -/
structure Field where
  name : String
  typeText : String
deriving Repr, DecidableEq, Inhabited

/-- A variant and its place in the declaration. -/
structure Variant where
  index : Int
  name : String
  primary : String
  alternates : List String := []
  doc : Option String := none
  data : Option String := none
deriving Repr, DecidableEq, Inhabited

/-- The literals of a variant, the primary first. -/
def Variant.literals (variant : Variant) : List String :=
  variant.primary :: variant.alternates

/-- Literals with the index of their variant, in order of insertion. -/
abbrev Owners := List (String × Int)

/-- Gives a literal an owner. A literal that has one stays in its place. -/
def Owners.assign (owners : Owners) (literal : String) (index : Int) : Owners :=
  if (owners.lookup literal).isSome then
    owners.map fun entry => if entry.1 = literal then (literal, index) else entry
  else owners ++ [(literal, index)]

end Model

/-- One enum type. In a model that was built from a declaration the variants are numbered
in order and every literal is owned by the one variant that declares it.
-/
structure Model where
  name : String
  variants : List Model.Variant := []
  owners : Model.Owners := []
  doc : Option String := none
  field : Option Model.Field := none
  imports : List String := []
deriving Repr, DecidableEq, Inhabited

end LiteralEnum
