import LiteralEnum.Files.Disk
import LiteralEnum.Module.Compile

/-! The whole way from a source file to the text of its module. -/

namespace LiteralEnum.Module

open Files

variable {m : Type → Type} [Monad m]

inductive FileError where
  | unread (failure : Failure)
  | compile (error : CompileError)
deriving Repr, DecidableEq

def FileError.message : FileError → String
  | .unread (.fault fault) => fault.message
  | .unread .nullCharacter => "embedded null byte"
  | .compile error => error.message

/-- The module that the source file at a path describes. -/
def ofFile (disk : Disk m) (settings : Settings) (path : Path)
    : m (Except FileError String) := do
  match ← disk.read path with
  | .error failure => return .error (.unread failure)
  | .ok bytes => return (ofBytes settings bytes).mapError .compile

end LiteralEnum.Module
