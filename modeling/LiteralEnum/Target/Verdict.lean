import LiteralEnum.Target.Placement
import LiteralEnum.Target.Token

/-! What a compiler of the target language says of the texts that a declaration brings
into the generated module: types, data expressions and imports. A text is judged where the
module holds it.
-/

namespace LiteralEnum.Target

/-- The verdicts of a compiler. -/
structure Compiler where
  /-- The text is a module. -/
  accepts : List Char → Bool
  /-- The statements of a text that has the form of a module. -/
  statements? : List Char → Option (List Stmt)

/-- The compiler of the language. -/
def Compiler.standard : Compiler := ⟨compiles, parseModule?⟩

/-- Why a type or a data expression cannot stand in the module. -/
inductive TextProblem where
  | closesBracket
  | rejected
deriving Repr, DecidableEq

def TextProblem.reason : TextProblem → String
  | .closesBracket => "closes a bracket it did not open"
  | .rejected => "is not valid Python (...)"

/-- Why an import cannot stand in the module. -/
inductive ImportProblem where
  | unreadable
  | notSingle
  | asksFeatures
deriving Repr, DecidableEq

def ImportProblem.reason : ImportProblem → String
  | .unreadable => "is not a Python import statement"
  | .notSingle => "is not a single Python import statement"
  | .asksFeatures => "cannot be a __future__ import"

namespace Compiler

/-- A data table whose one element is the expression. -/
def dataSample (text : List Char) : List Char :=
  "_DATA = (\n    (".toList ++ text ++ "),\n)\n".toList

/-- An accessor of the type and a data table of the type. -/
def typeSample (text : List Char) : List Char :=
  "def _accessor() -> ".toList ++ text ++ " | None: ...\n_DATA: tuple[".toList ++ text
    ++ " | None, ...] = ()\n".toList

/-- The problem of a text that stands in parentheses in a sample. -/
def sampleProblem? (compiler : Compiler) (sample : List Char → List Char) (text : List Char)
    : Option TextProblem :=
  if escapesParentheses text then some .closesBracket
  else if compiler.accepts (sample text) then none
  else some .rejected

def dataProblem? (compiler : Compiler) (text : String) : Option TextProblem :=
  compiler.sampleProblem? dataSample text.toList

def typeProblem? (compiler : Compiler) (text : String) : Option TextProblem :=
  compiler.sampleProblem? typeSample text.toList

/-- The problem of a list of statements that should be one import. -/
def statementsProblem? : List Stmt → Option ImportProblem
  | [.importModules _] => none
  | [.importNames module _] | [.importAll module] =>
      if Placement.asksFeatures module then some .asksFeatures else none
  | _ => some .notSingle

def importProblem? (compiler : Compiler) (text : String) : Option ImportProblem :=
  match compiler.statements? text.toList with
  | none => some .unreadable
  | some statements => statementsProblem? statements

end Compiler

end LiteralEnum.Target
