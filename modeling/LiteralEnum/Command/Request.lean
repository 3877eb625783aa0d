import LiteralEnum.Command.Usage

/-! What the arguments of a run ask for. -/

namespace LiteralEnum.Command

/-- Where generated modules go. -/
inductive Target where
  /-- Next to the source. -/
  | beside
  | file (path : String)
  | directory (path : String)
  | stdout
deriving Repr, DecidableEq

inductive Task where
  | help
  | generate (inputs : List String) (target : Target)
  | check (input : String) (asJson : Bool)
deriving Repr, DecidableEq

structure Request where
  task : Task
  isVerbose : Bool := false
deriving Repr, DecidableEq

namespace Request

def isGiven (found : Grammar.Found) (form : OptionForm) : Bool :=
  found.options.any (·.1 = form)

/-- The last value of an option. An empty one counts as none. -/
def value? (found : Grammar.Found) (form : OptionForm) : Option String :=
  ((found.options.filter (·.1 = form)).getLast?.bind (·.2)).filter (· ≠ "")

def targetOf (found : Grammar.Found) : Target :=
  if isGiven found stdoutOption then .stdout
  else match value? found outputOption, value? found directoryOption with
    | some path, _ => .file path
    | none, some path => .directory path
    | none, none => .beside

/-- A task, and the arguments that nothing takes. -/
def readTask : Option (List String) → Except Stop (Task × List String)
  | none | some [] => .ok (.help, [])
  | some (word :: arguments) =>
      match word with
      | "generate" => do
          let found ← generate.read arguments
          return (.generate (found.operands.getD []) (targetOf found), found.extras)
      | "check" => do
          let found ← check.read arguments
          let input := (found.operands.getD []).headD ""
          return (.check input (isGiven found jsonOption), found.extras)
      | word =>
          .error (program.refuse (s!"argument command: invalid choice: {Text.quoted word} "
            ++ "(choose from 'generate', 'check')"))

/-- The request that arguments make. -/
def ofArguments (arguments : List String) : Except Stop Request := do
  let found ← program.read arguments
  let (task, extras) ← readTask found.operands
  let unknown := String.intercalate " " (found.extras ++ extras)
  if !(found.extras ++ extras).isEmpty then
    throw (program.refuse s!"unrecognized arguments: {unknown}")
  return ⟨task, isGiven found verboseOption⟩

end Request

end LiteralEnum.Command
