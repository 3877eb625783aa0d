import LiteralEnum.Console.Markup
import LiteralEnum.Console.Wrap
import LiteralEnum.Files.Disk
import LiteralEnum.Files.Path
import LiteralEnum.Text.Integer

/-! What a run prints, and how it ends. -/

namespace LiteralEnum.Command

/-- A piece of text for the error output. -/
inductive Notice where
  | line (text : String)
  /-- A record of a stage, which is printed behind the time. -/
  | stage (source message : String)
deriving Repr, DecidableEq

def Notice.text (time : String) : Notice → String
  | .line text => text
  | .stage source message => s!"{time} {source} DEBUG {message}\n"

structure Output where
  out : List String := []
  notices : List Notice := []
deriving Repr, DecidableEq

/-- What a run does not deal with: it breaks off. -/
inductive Escape where
  | environment (error : Text.IntegerError)
  /-- A name that cannot take the place of a file's name. -/
  | fileName (path : Files.Path) (name : String)
  | pattern (suffix : String)
  | files (failure : Files.Failure)
  | markup (error : Console.MarkupError)
deriving Repr, DecidableEq

def Escape.message : Escape → String
  | .environment error => error.message
  | .fileName path name => s!"{path.text} cannot be renamed to {Text.quoted name}"
  | .pattern suffix => s!"Invalid pattern: {Text.quoted suffix}"
  | .files (.fault fault) => fault.message
  | .files .nullCharacter => "embedded null byte"
  | .markup error => error.message

/-- A part of a run: it works on files in a monad, prints, and may break off. -/
abbrev Act (m : Type → Type) := ExceptT Escape (StateT Output m)

namespace Act

variable {m : Type → Type} [Monad m]

/-- Prints a text as it is. -/
def print (text : String) : Act m Unit :=
  modify fun output => { output with out := output.out ++ [text] }

def notify (notice : Notice) : Act m Unit :=
  modify fun output => { output with notices := output.notices ++ [notice] }

/-- Reports a line in which names of pictures are pictures. -/
def complain (text : String) : Act m Unit :=
  notify (.line (Console.paragraph (Console.showPictures text.toList)))

/-- Reports a line as it is. -/
def report (text : String) : Act m Unit :=
  notify (.line (Console.paragraph text.toList))

/-- Records stages, if they are asked for. -/
def record (isVerbose : Bool) (source : String) (messages : List String) : Act m Unit :=
  if isVerbose then
    modify fun output =>
      { output with notices := output.notices ++ messages.map (.stage source) }
  else pure ()

/-- Does something with files. -/
def onFiles {α : Type} (action : m (Except Files.Failure α)) : Act m (Except Files.Failure α) :=
  ExceptT.lift (StateT.lift action)

/-- Does something with files that cannot be left undone. -/
def mustFiles {α : Type} (action : m (Except Files.Failure α)) : Act m α := do
  match ← onFiles action with
  | .ok value => return value
  | .error failure => throw (.files failure)

end Act

end LiteralEnum.Command
