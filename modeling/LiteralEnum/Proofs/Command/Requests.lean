import LiteralEnum.Command.Request

/-! What command lines ask for that name one path. A path that starts with no hyphen is never taken
for an option.
-/

namespace LiteralEnum.Command

/-- The text starts with no hyphen. -/
def IsPlain (name : String) : Prop := name.toList.head? ≠ some '-'

instance (name : String) : Decidable (IsPlain name) := inferInstanceAs (Decidable (_ ≠ _))

theorem IsPlain.ne_separator {name : String} (isPlain : IsPlain name) : name ≠ "--" := by
  rintro rfl
  exact isPlain rfl

namespace Grammar

/-- A plain text is an operand, and what follows it is read as before. -/
theorem markAll_plain {name : String} (isPlain : IsPlain name) (grammar : Grammar)
    (rest : List String)
    : grammar.markAll (name :: rest) = (grammar.markAll rest).map ((name, .operand) :: ·) := by
  have isOperand : name.toList.head? ≠ some '-' ∨ name = "-" := Or.inl isPlain
  rw [markAll, if_neg isPlain.ne_separator, mark, if_pos isOperand]
  cases grammar.markAll rest <;> rfl

/-- A command takes the path and the flag behind it, which is no option of the whole program. -/
theorem read_command {command name flag : String} (isCommand : IsPlain command)
    (isPlain : IsPlain name)
    (isForeign
      : Command.program.markAll [flag] = .ok [(flag, .option ⟨none, flag, none, false⟩)])
    : Command.program.read [command, name, flag]
      = .ok { operands := some [command, name, flag] } := by
  rw [read, markAll_plain isCommand, markAll_plain isPlain, isForeign]
  rfl

/-- Before a flag a path is the one operand. -/
theorem read_flag {grammar : Grammar} {form : OptionForm} {name flag : String}
    (isPlain : IsPlain name)
    (isFlag : grammar.markAll [flag] = .ok [(flag, .option ⟨some form, flag, none, false⟩)])
    (effect : form.effect = .flag) (operands : grammar.operands ≠ .command)
    : grammar.read [name, flag] = .ok { options := [(form, none)], operands := some [name] } := by
  have erased : [name].erase "--" = [name] :=
    List.erase_of_not_mem (by simpa using isPlain.ne_separator.symm)
  have count : operandCount grammar.operands
      [(name, .operand), (flag, .option ⟨some form, flag, none, false⟩)] = 1 := by
    cases kind : grammar.operands with
    | one => rfl
    | several => rfl
    | command => exact absurd kind operands
  have taken : grammar.takeOperands {}
        [(name, .operand), (flag, .option ⟨some form, flag, none, false⟩)]
      = ({ operands := some [name] }, [(flag, .option ⟨some form, flag, none, false⟩)]) := by
    simp [takeOperands, count, operands, erased]
  have noRival : ∀ found : Found, found.options = [] → grammar.rival? found form = none := by
    intro found noOptions
    simp [rival?, noOptions]
  have full : grammar.takeOperands { options := [(form, none)], operands := some [name] } []
      = ({ options := [(form, none)], operands := some [name] }, []) := rfl
  rw [read, markAll_plain isPlain, isFlag]
  simp [bind, Except.bind, Except.map, pure, Except.pure, readItems, isOption, isSeparator,
    isOperand, taken, readCluster, effect, takeOptions, takeOption, Found.setAside, noRival, full]

end Grammar

namespace Request

/-- The command line that asks for the printing of a module. -/
theorem ofArguments_stdout {name : String} (isPlain : IsPlain name)
    : ofArguments ["generate", name, "--stdout"] = .ok ⟨.generate [name] .stdout, false⟩ := by
  have asked : generate.read [name, "--stdout"]
      = .ok { options := [(stdoutOption, none)], operands := some [name] } := by
    exact Grammar.read_flag isPlain rfl rfl (by decide)
  rw [ofArguments, Grammar.read_command (by decide) isPlain rfl]
  simp only [bind, Except.bind, readTask, asked]
  rfl

/-- The command line that asks for the document of a model. -/
theorem ofArguments_json {name : String} (isPlain : IsPlain name)
    : ofArguments ["check", name, "--json"] = .ok ⟨.check name true, false⟩ := by
  have asked : check.read [name, "--json"]
      = .ok { options := [(jsonOption, none)], operands := some [name] } := by
    exact Grammar.read_flag isPlain rfl rfl (by decide)
  rw [ofArguments, Grammar.read_command (by decide) isPlain rfl]
  simp only [bind, Except.bind, readTask, asked]
  rfl

end Request

end LiteralEnum.Command
