import LiteralEnum.Files.Path
import LiteralEnum.Text.Encoding.Utf8
import LiteralEnum.Text.Quoted

/-! What a program can do with files, and how it fails. -/

namespace LiteralEnum.Files

inductive Kind where
  | file
  | directory
  /-- A device or the like, which can be read but holds nothing. -/
  | other
deriving Repr, DecidableEq, Inhabited

inductive ErrorCode where
  | notFound
  | exists
  | notDirectory
  | isDirectory
  | busy
  | nameTooLong
  | other (number : Nat) (text : String)
deriving Repr, DecidableEq

namespace ErrorCode

def number : ErrorCode → Nat
  | .notFound => 2
  | .busy => 16
  | .exists => 17
  | .notDirectory => 20
  | .isDirectory => 21
  | .nameTooLong => 36
  | .other number _ => number

def text : ErrorCode → String
  | .notFound => "No such file or directory"
  | .busy => "Device or resource busy"
  | .exists => "File exists"
  | .notDirectory => "Not a directory"
  | .isDirectory => "Is a directory"
  | .nameTooLong => "File name too long"
  | .other _ text => text

/-- Codes that have a name of their own. -/
def known : List ErrorCode :=
  [.notFound, .busy, .exists, .notDirectory, .isDirectory, .nameTooLong]

/-- The code with a number; the text is for those without a name. -/
def ofNumber (number : Nat) (text : String) : ErrorCode :=
  (known.find? (·.number = number)).getD (.other number text)

end ErrorCode

/-- An operation that was refused, with the path it was meant for. -/
structure Fault where
  code : ErrorCode
  path : Path
  /-- Where the file was to go. -/
  target : Option Path := none
deriving Repr, DecidableEq

def Fault.message (fault : Fault) : String :=
  let place := match fault.target with
    | some target => s!"{Text.quoted fault.path.text} -> {Text.quoted target.text}"
    | none => Text.quoted fault.path.text
  s!"[Errno {fault.code.number}] {fault.code.text}: {place}"

inductive Failure where
  | fault (fault : Fault)
  /-- No file can have a name with a null character. -/
  | nullCharacter
deriving Repr, DecidableEq

/-- Operations on files in a monad. -/
structure Disk (m : Type → Type) where
  kind : Path → m (Except Failure Kind)
  read : Path → m (Except Failure Text.Bytes)
  /-- The names in a directory. -/
  entries : Path → m (Except Failure (List String))
  makeDirectory : Path → m (Except Failure Unit)
  /-- Creates a file, or replaces what is in it. -/
  write : Path → Text.Bytes → m (Except Failure Unit)
  /-- Moves a file, also to a place where there is one. -/
  rename : Path → Path → m (Except Failure Unit)
  remove : Path → m (Except Failure Unit)

namespace Disk

variable {m : Type → Type} [Monad m]

/-- The failure says that there is nothing at the path. -/
def isAbsence : Failure → Bool
  | .fault fault => fault.code = .notFound || fault.code = .notDirectory
  | .nullCharacter => true

/-- What is at a path, if there is something. -/
def kind? (disk : Disk m) (path : Path) : m (Except Failure (Option Kind)) := do
  match ← disk.kind path with
  | .ok kind => return .ok (some kind)
  | .error failure => return if isAbsence failure then .ok none else .error failure

end Disk

end LiteralEnum.Files
