import LiteralEnum.Text.Numeral
import LiteralEnum.Text.Quoted

/-! What a command line may hold, and the reading of its arguments: options by name, and
operands between them. Long names may be cut short as long as only one option fits.
-/

namespace LiteralEnum.Command

inductive Effect where
  | help
  | version
  | flag
  /-- The option takes a value. -/
  | value
deriving Repr, DecidableEq

/-- An option by its names, which start with one hyphen or two. -/
structure OptionForm where
  names : List String
  effect : Effect
deriving Repr, DecidableEq

def OptionForm.label (form : OptionForm) : String := String.intercalate "/" form.names

inductive OperandForm where
  | one
  | several
  /-- A word, and all that follows it. -/
  | command
deriving Repr, DecidableEq

structure Grammar where
  program : String
  usage : String
  help : String
  options : List OptionForm
  operands : OperandForm
  operandName : String
  isRequired : Bool := true
  /-- Options of which at most one is given. -/
  exclusive : List OptionForm := []
deriving Repr, DecidableEq

/-- Why the arguments lead to no request: a text is asked for, or something is wrong. -/
inductive Stop where
  | shown (text : String)
  | refused (text : String)
deriving Repr, DecidableEq

def version : String := "litenum 0.1.0\n"

/-- The refusal of arguments, with the usage of the program. -/
def Grammar.refuse (grammar : Grammar) (reason : String) : Stop :=
  .refused s!"usage: {grammar.usage}\n{grammar.program}: error: {reason}\n"

def Grammar.refuseOption (grammar : Grammar) (form : OptionForm) (reason : String) : Stop :=
  grammar.refuse s!"argument {form.label}: {reason}"

namespace Grammar

-----------------------------------------------------------------------------------------
-- Options and operands
-----------------------------------------------------------------------------------------

/-- An argument read as an option. -/
structure Candidate where
  /-- The option, if there is one with the name. -/
  form : Option OptionForm
  name : String
  /-- The value that is part of the argument. -/
  attached : Option String := none
  /-- An equals sign stands before the value. -/
  isAssigned : Bool := false
deriving Repr, DecidableEq

inductive Mark where
  | operand
  /-- Two hyphens, after which everything is an operand. -/
  | separator
  | option (candidate : Candidate)
deriving Repr, DecidableEq

/-- Names with their options, in the order of the grammar. -/
def named (grammar : Grammar) : List (String × OptionForm) :=
  grammar.options.flatMap fun form => form.names.map (·, form)

/-- The text before the first equals sign, and the text behind it. -/
def splitAssignment (argument : List Char) : List Char × Option (List Char) :=
  match argument.span (· ≠ '=') with
  | (name, _ :: value) => (name, some value)
  | (name, []) => (name, none)

def startsWith (start : List Char) (text : String) : Bool := start.isPrefixOf text.toList

/-- The options that a long name cut short may stand for. -/
def longCandidates (grammar : Grammar) (argument : List Char) : List Candidate :=
  let (start, value) := splitAssignment argument
  (grammar.named.filter fun entry => startsWith start entry.1).map fun (name, form) =>
    ⟨some form, name, value.map String.ofList, value.isSome⟩

/-- The options that a short name with text behind it may stand for. -/
def shortCandidates (grammar : Grammar) (argument : List Char) : List Candidate :=
  grammar.named.filterMap fun (name, form) =>
    if name.toList = argument.take 2 then
      some ⟨some form, name, some (String.ofList (argument.drop 2)), false⟩
    else if startsWith argument name then some ⟨some form, name, none, false⟩
    else none

def candidates (grammar : Grammar) (argument : List Char) : List Candidate :=
  if "--".toList.isPrefixOf argument then grammar.longCandidates argument
  else grammar.shortCandidates argument

def areDigits (text : List Char) : Bool :=
  !text.isEmpty && text.all fun c => (Text.decimalValue? c).isSome

/-- The text has the form of a negative number; a line feed may end it. -/
def isNegativeNumber : List Char → Bool
  | '-' :: text =>
      let text := if text.getLast? = some '\n' then text.dropLast else text
      match text.span (· ≠ '.') with
      | (digits, []) => areDigits digits
      | (digits, _ :: fraction) => (digits.isEmpty || areDigits digits) && areDigits fraction
  | _ => false

/-- Reads an argument that starts with a hyphen and is no name of an option. -/
def markUnknown (grammar : Grammar) (argument : String) : Except Stop Mark :=
  match grammar.candidates argument.toList with
  | [candidate] => .ok (.option candidate)
  | [] =>
      if isNegativeNumber argument.toList || argument.toList.contains ' ' then .ok .operand
      else .ok (.option ⟨none, argument, none, false⟩)
  | several =>
      let names := String.intercalate ", " (several.map (·.name))
      .error (grammar.refuse s!"ambiguous option: {argument} could match {names}")

/-- Reads an argument before the separator. -/
def mark (grammar : Grammar) (argument : String) : Except Stop Mark :=
  if argument.toList.head? ≠ some '-' ∨ argument = "-" then .ok .operand
  else match grammar.named.lookup argument with
    | some form => .ok (.option ⟨some form, argument, none, false⟩)
    | none =>
        match splitAssignment argument.toList with
        | (name, some value) =>
            match grammar.named.lookup (String.ofList name) with
            | some form =>
                .ok (.option ⟨some form, String.ofList name, some (String.ofList value), true⟩)
            | none => grammar.markUnknown argument
        | (_, none) => grammar.markUnknown argument

/-- Arguments with their marks. -/
abbrev Marked := List (String × Mark)

def markAll (grammar : Grammar) : List String → Except Stop Marked
  | [] => .ok []
  | argument :: rest =>
      if argument = "--" then .ok ((argument, .separator) :: rest.map (·, .operand))
      else do
        let mark ← grammar.mark argument
        return (argument, mark) :: (← grammar.markAll rest)

-----------------------------------------------------------------------------------------
-- Taking options
-----------------------------------------------------------------------------------------

/-- What has been read. -/
structure Found where
  options : List (OptionForm × Option String) := []
  operands : Option (List String) := none
  /-- Arguments that nothing takes. -/
  extras : List String := []
deriving Repr, DecidableEq

/-- An option that excludes one that is given already. -/
def rival? (grammar : Grammar) (found : Found) (form : OptionForm) : Option OptionForm :=
  if grammar.exclusive.contains form then
    grammar.exclusive.find? fun other =>
      other ≠ form && found.options.any fun given => given.1 = other
  else none

/-- Takes an option with its value. -/
def takeOption (grammar : Grammar) (found : Found) (form : OptionForm) (value : Option String)
    : Except Stop Found :=
  match grammar.rival? found form with
  | some rival =>
      .error (grammar.refuseOption form s!"not allowed with argument {rival.label}")
  | none =>
      match form.effect with
      | .help => .error (.shown grammar.help)
      | .version => .error (.shown version)
      | .flag | .value => .ok { found with options := found.options ++ [(form, value)] }

/-- The options of one argument, in order. -/
abbrev Taken := List (OptionForm × Option String)

def takeOptions (grammar : Grammar) (found : Found) : Taken → Except Stop Found
  | [] => .ok found
  | (form, value) :: rest => do
      grammar.takeOptions (← grammar.takeOption found form value) rest

def ignoredValue (grammar : Grammar) (form : OptionForm) (value : String) : Stop :=
  grammar.refuseOption form s!"ignored explicit argument {Text.quoted value}"

/-- One of several short options in an argument, read from the text behind the one before.
-/
def nextInCluster (grammar : Grammar) (c : Char) (rest : List Char) : Candidate :=
  let name := String.ofList ['-', c]
  let form := grammar.named.lookup name
  match rest with
  | [] => ⟨form, name, none, false⟩
  | '=' :: value => ⟨form, name, some (String.ofList value), true⟩
  | _ => ⟨form, name, some (String.ofList rest), false⟩

/-- What one argument holds: options, an unknown rest, and the arguments that are left
behind it.
-/
structure Cluster where
  taken : Taken := []
  unknown : Option String := none
  rest : Marked
deriving Repr, DecidableEq

/-- Reads the options of one argument; its length is fuel enough. A value that is not
attached is the next argument.
-/
def readCluster (grammar : Grammar) (rest : Marked) : Nat → Taken → Candidate
    → Except Stop Cluster
  | 0, taken, _ => .ok ⟨taken, none, rest⟩
  | fuel + 1, taken, candidate =>
      match candidate.form with
      | none => .ok ⟨taken, some candidate.name, rest⟩
      | some form =>
          match form.effect, candidate.attached with
          | .value, some value => .ok ⟨taken ++ [(form, some value)], none, rest⟩
          | .value, none =>
              match rest with
              | (value, .operand) :: others =>
                  .ok ⟨taken ++ [(form, some value)], none, others⟩
              | _ => .error (grammar.refuseOption form "expected one argument")
          | _, none => .ok ⟨taken ++ [(form, none)], none, rest⟩
          | _, some value =>
              match value.toList with
              | c :: others =>
                  if "--".toList.isPrefixOf candidate.name.toList || candidate.isAssigned
                      || c = '-' then
                    .error (grammar.ignoredValue form value)
                  else
                    let next := grammar.nextInCluster c others
                    let taken := taken ++ [(form, none)]
                    if next.form.isSome then grammar.readCluster rest fuel taken next
                    else .ok ⟨taken, some ("-" ++ value), rest⟩
              | [] => .error (grammar.ignoredValue form value)

-----------------------------------------------------------------------------------------
-- Taking operands
-----------------------------------------------------------------------------------------

def isSeparator (item : String × Mark) : Bool := item.2 = .separator

def isOperand (item : String × Mark) : Bool := item.2 = .operand

def isOption (item : String × Mark) : Bool := !isSeparator item && !isOperand item

/-- The number of arguments that the operands take from the front. -/
def operandCount (form : OperandForm) (items : Marked) : Nat :=
  let lead := (items.takeWhile isSeparator).length
  match items.drop lead with
  | [] => 0
  | item :: after =>
      if isOperand item then
        lead + 1 + match form with
          | .one => (after.takeWhile isSeparator).length
          | .several => (after.takeWhile (!isOption ·)).length
          | .command => after.length
      else 0

/-- Takes operands from the front, if there are none yet. The separator is no operand, but
a command takes all that there is.
-/
def takeOperands (grammar : Grammar) (found : Found) (items : Marked) : Found × Marked :=
  if found.operands.isSome then (found, items)
  else
    let count := operandCount grammar.operands items
    let values := (items.take count).map (·.1)
    if count = 0 then (found, items)
    else ({ found with
      operands := some (if grammar.operands = .command then values else values.erase "--") },
      items.drop count)

/-- Puts arguments aside. -/
def Found.setAside (found : Found) (arguments : List String) : Found :=
  { found with extras := found.extras ++ arguments }

-----------------------------------------------------------------------------------------
-- Reading
-----------------------------------------------------------------------------------------

/-- Reads operands and options in turn; twice the number of arguments is fuel enough. -/
def readItems (grammar : Grammar) : Nat → Found → Marked → Except Stop Found
  | 0, found, _ => .ok found
  | fuel + 1, found, items =>
      if items.any isOption then
        match items with
        | (argument, .option candidate) :: rest => do
            let cluster ← grammar.readCluster rest (argument.length + 1) [] candidate
            let found := found.setAside cluster.unknown.toList
            grammar.readItems fuel (← grammar.takeOptions found cluster.taken) cluster.rest
        | items =>
            let (next, rest) := grammar.takeOperands found items
            if rest.length < items.length then grammar.readItems fuel next rest
            else
              let idle := items.takeWhile (!isOption ·)
              grammar.readItems fuel (found.setAside (idle.map (·.1))) (items.drop idle.length)
      else
        let (next, rest) := grammar.takeOperands found items
        .ok (next.setAside (rest.map (·.1)))

/-- Reads arguments. -/
def read (grammar : Grammar) (arguments : List String) : Except Stop Found := do
  let items ← grammar.markAll arguments
  let found ← grammar.readItems (2 * items.length + 1) {} items
  if grammar.isRequired && found.operands.isNone then
    throw (grammar.refuse s!"the following arguments are required: {grammar.operandName}")
  return found

end Grammar

end LiteralEnum.Command
