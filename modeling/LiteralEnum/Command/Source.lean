import LiteralEnum.Command.Report
import LiteralEnum.Model.Check
import LiteralEnum.Settings.Environment
import LiteralEnum.Text.Encoding

/-! Sources as the commands read them: from a file to a model, with a report of what is
wrong.
-/

namespace LiteralEnum.Command

open Files

variable {m : Type → Type} [Monad m]

/-- The settings of a run. -/
def readSettings (environment : Environment) : Act m Settings :=
  match Settings.ofEnvironment environment with
  | .ok settings => pure settings
  | .error error => throw (.environment error)

/-- The file could not be read, and the run goes on. -/
def complainUnread (path : Path) (reason : String) : Act m (Option String) := do
  Act.complain s!"Error: Cannot read {path.text}: {reason}"
  return none

/-- The text of a source file, or a report that there is none. -/
def readSource (disk : Disk m) (environment : Environment) (path : Path)
    : Act m (Option String) := do
  if (← Act.mustFiles (disk.kind? path)).isNone then
    Act.complain s!"Error: File not found: {path.text}"
    return none
  let _ ← readSettings environment
  match ← Act.onFiles (disk.read path) with
  | .error (.fault fault) => complainUnread path fault.message
  | .error failure => throw (.files failure)
  | .ok bytes =>
      match Text.Encoding.utf8.readText bytes with
      | .ok text => return some text
      | .error error => complainUnread path error.message

/-- A line that says what is wrong with the source at a path. -/
def describe (path : Path) : BuildError → String
  | .source error =>
      s!"syntax error {path.text}:{error.position.line}:{error.position.column}: {error.reason}"
  | .invalid violation =>
      let place := if violation.line = 0 then path.text else s!"{path.text}:{violation.line}"
      s!"validation error [{violation.invariant.label}] {place}: {violation.reason}"

/-- The stages that end with a declaration. -/
def parseStage (declaration : Declaration) : String :=
  s!"Parsed enum {declaration.name} with {declaration.variants.length} variants"

def buildStage (model : Model) : String :=
  s!"Built model {model.name}: {model.variants.length} variants, {model.owners.length} literals"

/-- The model of a source, or a report of what is wrong. -/
def buildSource (isVerbose : Bool) (path : Path) (source : String) : Act m (Option Model) := do
  match Declaration.ofSource source with
  | .error error =>
      Act.report (describe path (.source error))
      return none
  | .ok declaration =>
      Act.record isVerbose "litenum.compiler.compiler" [parseStage declaration]
      match Model.ofDeclaration .standard declaration with
      | .error violation =>
          Act.report (describe path (.invalid violation))
          return none
      | .ok model =>
          Act.record isVerbose "litenum.dsl.validator" [buildStage model]
          return some model

end LiteralEnum.Command
