import LiteralEnum.Command.Check
import LiteralEnum.Command.Generate

/-! A run of the program: from its arguments to what it prints and how it ends. -/

namespace LiteralEnum.Command

open Files

variable {m : Type → Type} [Monad m]

/-- How a run ends, and what it has printed. -/
structure Result where
  ending : Except Escape Nat
  output : Output

def perform (disk : Disk m) (environment : Environment) (request : Request) : Act m Nat :=
  match request.task with
  | .help => do
      Act.print program.help
      return 0
  | .generate inputs target =>
      Generate.run disk environment request.isVerbose inputs target
  | .check input asJson => Check.run disk environment request.isVerbose input asJson

/-- Runs the program. Arguments that make no request end it with a text. -/
def run (disk : Disk m) (environment : Environment) (arguments : List String) : m Result :=
  match Request.ofArguments arguments with
  | .error (.shown text) => pure ⟨.ok 0, { out := [text] }⟩
  | .error (.refused text) => pure ⟨.ok 2, { notices := [.line text] }⟩
  | .ok request => do
      let (ending, output) ← ((perform disk environment request).run).run {}
      return ⟨ending, output⟩

end LiteralEnum.Command
