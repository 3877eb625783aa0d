import LiteralEnum.Target.Keyword
import LiteralEnum.Text.Name

/-! The names that a declaration may give: names of the target language that the generated
module does not use itself.
-/

namespace LiteralEnum.Model

/-- Builtins that the generated class uses in its body, methods or types. -/
def usedBuiltins : List String :=
  ["NotImplemented", "classmethod", "object", "str", "int", "bool"]

/-- Attributes of the generated class. -/
def reservedMembers : List String :=
  ["name", "value", "mro", "lookup", "is_match", "canonical", "index"] ++ usedBuiltins

/-- Names of the generated module. -/
def reservedTypes : List String :=
  ["VARIANTS", "enum", "functools", "typing", "annotations", "dict", "tuple"] ++ usedBuiltins

/-- Why a name cannot be given. -/
inductive NameProblem where
  | malformed
  | keyword
  | underscore
  | usedByModule
  | usedByClass
deriving Repr, DecidableEq

def NameProblem.reason : NameProblem → String
  | .malformed => "is not a valid Python identifier"
  | .keyword => "is a Python keyword"
  | .underscore => "must not start with an underscore"
  | .usedByModule => "is used by the generated module"
  | .usedByClass => "is used by the generated enum class"

/-- The problem that a name has by itself. -/
def spellingProblem? (name : String) : Option NameProblem :=
  if !Text.isName name.toList then some .malformed
  else if Target.isKeyword name then some .keyword
  else if name.toList.head? = some '_' then some .underscore
  else none

def typeNameProblem? (name : String) : Option NameProblem :=
  spellingProblem? name <|> if name ∈ reservedTypes then some .usedByModule else none

/-- The problem of a member next to members with the names `taken`. -/
def memberNameProblem? (taken : List String) (name : String) : Option NameProblem :=
  spellingProblem? name <|> if name ∈ taken then some .usedByClass else none

end LiteralEnum.Model
