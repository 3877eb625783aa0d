import LiteralEnum.Command.Request
import LiteralEnum.Command.Source
import LiteralEnum.Files.Atomic
import LiteralEnum.Files.Search
import LiteralEnum.Module

/-! The command that generates modules: one for each source, each independent of the
others.
-/

namespace LiteralEnum.Command.Generate

open Files

variable {m : Type → Type} [Monad m]

-----------------------------------------------------------------------------------------
-- Inputs
-----------------------------------------------------------------------------------------

/-- The source files right inside a directory. -/
def sourcesIn (disk : Disk m) (suffix : String) (path : Path) : Act m (List Path) := do
  if isSearchable ("*" ++ suffix) then Act.mustFiles (disk.search path ("*" ++ suffix)).run
  else throw (.pattern suffix)

/-- The inputs with the sources of each directory in its place, or nothing after a report
of a directory without sources.
-/
def expandInputs (disk : Disk m) (suffix : String) : List String → Act m (Option (List Path))
  | [] => return some []
  | name :: rest => do
      let path := Path.ofText name
      if (← Act.mustFiles (disk.kind? path)) = some .directory then
        let sources ← sourcesIn disk suffix path
        if sources.isEmpty then
          Act.complain s!"Error: No {suffix} files in {path.text}"
          return none
        return (← expandInputs disk suffix rest).map (sources ++ ·)
      else return (← expandInputs disk suffix rest).map (path :: ·)

-----------------------------------------------------------------------------------------
-- Outputs
-----------------------------------------------------------------------------------------

/-- Replaces the last name of a path. -/
def rename (path : Path) (name : String) : Act m Path :=
  match path.withName? name with
  | some renamed => pure renamed
  | none => throw (.fileName path name)

/-- Where the module of a source goes. -/
def outputPath (target : Target) (suffix : String) (source : Path) : Act m Path :=
  match target with
  | .file path => pure (Path.ofText path)
  | .directory path => pure ((Path.ofText path).join (Path.ofText (source.stem ++ suffix)))
  | .beside | .stdout => rename source (source.stem ++ suffix)

/-- Writes a file as a whole, with the directories around it. -/
def writeFile (disk : Disk m) (path : Path) (text : String) : Act m (Except Failure Unit) := do
  let parent := path.parent
  match ← Act.onFiles (disk.makeDirectories parent.parts.length parent) with
  | .error failure => return .error failure
  | .ok () =>
      let second ← rename path (path.name ++ ".tmp")
      Act.onFiles (disk.writeThrough path second (Text.Utf8.encode text.toList))

-----------------------------------------------------------------------------------------
-- Units
-----------------------------------------------------------------------------------------

structure Options where
  settings : Settings
  environment : Environment
  target : Target
  isVerbose : Bool

def emitStage (lines : List String) (model : Model) : String :=
  s!"Emitted {lines.length} lines for {model.name}"

/-- Writes the module of a source, and tells whether that succeeded. -/
def writeModule (disk : Disk m) (options : Options) (source : Path) (text : String)
    : Act m Bool := do
  let path ← outputPath options.target options.settings.outputSuffix source
  match ← writeFile disk path text with
  | .ok () =>
      Act.report s!"Generated {path.text}"
      return true
  | .error (.fault fault) =>
      Act.complain s!"Error: Cannot write {path.text}: {fault.message}"
      return false
  | .error failure => throw (.files failure)

/-- The lines of a model's module. A model of a source always has one. -/
def moduleLines (options : Options) (model : Model) : List String :=
  match Module.lines options.settings model with
  | .ok lines => lines
  | .error _ => []

/-- Generates the module of one source, and tells whether that succeeded. -/
def generateOne (disk : Disk m) (options : Options) (source : Path) : Act m Bool := do
  let some text ← readSource disk options.environment source | return false
  let some model ← buildSource options.isVerbose source text | return false
  let lines := moduleLines options model
  Act.record options.isVerbose "litenum.compiler.compiler" [emitStage lines model]
  if options.target = .stdout then
    Act.print (Module.unlines lines)
    return true
  writeModule disk options source (Module.unlines lines)

/-- Generates the modules of sources, and tells whether all succeeded. -/
def generateAll (disk : Disk m) (options : Options) : List Path → Act m Bool
  | [] => return true
  | source :: rest => do
      let first ← generateOne disk options source
      let others ← generateAll disk options rest
      return first && others

/-- Runs the command; the answer is the exit code. -/
def run (disk : Disk m) (environment : Environment) (isVerbose : Bool) (inputs : List String)
    (target : Target) : Act m Nat := do
  let settings ← readSettings environment
  let some sources ← expandInputs disk settings.sourceSuffix inputs | return 1
  match target, sources with
  | .file _, _ :: _ :: _ =>
      Act.report "Error: --output accepts a single input file"
      return 1
  | _, _ =>
      let options := { settings, environment, target, isVerbose : Options }
      return if ← generateAll disk options sources then 0 else 1

end LiteralEnum.Command.Generate
