import LiteralEnum.Command.Run

/-! The program on the files of the machine. -/

namespace LiteralEnum.Machine

open Files

-----------------------------------------------------------------------------------------
-- Files
-----------------------------------------------------------------------------------------

/-- The number of an error. Some operations report it as a negative one. -/
def numberOf (code : UInt32) : Nat :=
  if code.toNat < 0x80000000 then code.toNat else 0x100000000 - code.toNat

/-- The number and the text of an error. -/
def detail : IO.Error → Nat × String
  | .noFileOrDirectory _ code text | .alreadyExists _ code text
  | .inappropriateType _ code text | .invalidArgument _ code text
  | .permissionDenied _ code text | .resourceExhausted _ code text
  | .noSuchThing _ code text | .resourceBusy code text | .unsatisfiedConstraints code text
  | .unsupportedOperation code text | .hardwareFault code text
  | .otherError code text => (numberOf code, text)
  | error => (5, toString error)

/-- Does something with files; an error becomes a fault at the path. -/
def attempt {α : Type} (path : Path) (target : Option Path) (action : IO α)
    : IO (Except Failure α) := do
  match ← action.toBaseIO with
  | .ok value => return .ok value
  | .error error =>
      let (number, text) := detail error
      return .error (.fault ⟨.ofNumber number text, path, target⟩)

def kindOf (type : IO.FS.FileType) : Kind :=
  match type with
  | .dir => .directory
  | .file => .file
  | _ => .other

/-- A path as a place of the machine. -/
def placeOf (path : Path) : IO.FS.DirEntry := { root := path.text, fileName := "" }

def disk : Disk IO where
  kind path := attempt path none do return kindOf (← (placeOf path).root.metadata).type
  read path := attempt path none do return (← IO.FS.readBinFile path.text).toList
  entries path := attempt path none do
    return (← (placeOf path).root.readDir).toList.map (·.fileName)
  makeDirectory path := attempt path none (IO.FS.createDir path.text)
  write path content := attempt path none (IO.FS.writeBinFile path.text ⟨content.toArray⟩)
  rename path target := attempt path (some target) (IO.FS.rename path.text target.text)
  remove path := attempt path none (IO.FS.removeFile path.text)

-----------------------------------------------------------------------------------------
-- Runs
-----------------------------------------------------------------------------------------

/-- The variables that count, as far as they are set. -/
def readEnvironment : IO Environment :=
  Settings.variableNames.filterMapM fun name => do
    return (← IO.getEnv name).map (name, ·)

/-- Prints what a run has printed, and gives its exit code. -/
def finish (time : String) (result : Command.Result) : IO UInt32 := do
  let out ← IO.getStdout
  let err ← IO.getStderr
  result.output.out.forM out.putStr
  result.output.notices.forM fun notice => err.putStr (notice.text time)
  match result.ending with
  | .ok code => return code.toUInt32
  | .error escape =>
      err.putStrLn escape.message
      return 1

/-- A run with arguments. Records of stages show the milliseconds since the machine's
start.
-/
def run (arguments : List String) : IO UInt32 := do
  let time ← IO.monoMsNow
  finish (toString time) (← Command.run disk (← readEnvironment) arguments)

end LiteralEnum.Machine

def main (arguments : List String) : IO UInt32 := LiteralEnum.Machine.run arguments
