import LiteralEnum.Files.Disk

/-! Writing a file as a whole or not at all. -/

namespace LiteralEnum.Files.Disk

variable {m : Type → Type} [Monad m]

/-- A directory that is there already is as good as a new one. -/
def settle (disk : Disk m) (path : Path) (fault : Fault) : m (Except Failure Unit) := do
  match ← disk.kind? path with
  | .ok kind => return if kind = some .directory then .ok () else .error (.fault fault)
  | .error failure => return .error failure

/-- Makes a directory in one that is there. -/
def makeLast (disk : Disk m) (path : Path) : m (Except Failure Unit) := do
  match ← disk.makeDirectory path with
  | .error (.fault fault) =>
      if fault.code = .notFound then return .error (.fault fault) else disk.settle path fault
  | result => return result

/-- Makes a directory and those around it; the number of names is enough for `levels`. -/
def makeDirectories (disk : Disk m) (levels : Nat) (path : Path) : m (Except Failure Unit) := do
  match ← disk.makeDirectory path with
  | .error (.fault fault) =>
      if fault.code ≠ .notFound then disk.settle path fault
      else match levels with
        | 0 => return .error (.fault fault)
        | levels + 1 =>
            match ← disk.makeDirectories levels path.parent with
            | .ok () => disk.makeLast path
            | .error failure => return .error failure
  | result => return result

/-- Takes away a file if it is there. -/
def discard (disk : Disk m) (path : Path) : m (Except Failure Unit) := do
  match ← disk.remove path with
  | .error (.fault fault) =>
      return if fault.code = .notFound then .ok () else .error (.fault fault)
  | result => return result

/-- Writes a second file and moves it to its place. -/
def publish (disk : Disk m) (path second : Path) (content : Text.Bytes)
    : m (Except Failure Unit) := do
  match ← disk.write second content with
  | .error failure => return .error failure
  | .ok () => disk.rename second path

/-- Writes a file through a second one next to it. A failure leaves no second file and
what was at the path before; a failure to clean up comes first.
-/
def writeThrough (disk : Disk m) (path second : Path) (content : Text.Bytes)
    : m (Except Failure Unit) := do
  match ← disk.publish path second content with
  | .ok () => return .ok ()
  | .error failure =>
      match ← disk.discard second with
      | .ok () => return .error failure
      | .error other => return .error other

end LiteralEnum.Files.Disk
