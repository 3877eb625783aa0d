import LiteralEnum.Command.Grammar

/-! The command line of the program: its commands, their options, and the help texts. -/

namespace LiteralEnum.Command

def helpOption : OptionForm := ⟨["-h", "--help"], .help⟩

def versionOption : OptionForm := ⟨["--version"], .version⟩

def verboseOption : OptionForm := ⟨["-v", "--verbose"], .flag⟩

def outputOption : OptionForm := ⟨["--output", "-o"], .value⟩

def directoryOption : OptionForm := ⟨["--out-dir"], .value⟩

def stdoutOption : OptionForm := ⟨["--stdout"], .flag⟩

def jsonOption : OptionForm := ⟨["--json"], .flag⟩

/-- A help text: the usage, and what follows it line by line. -/
def helpText (usage : String) (lines : List String) : String :=
  s!"usage: {usage}\n" ++ String.join (lines.map (· ++ "\n"))

def programUsage : String := "litenum [-h] [--version] [-v] \x7bgenerate,check\x7d ..."

def program : Grammar where
  program := "litenum"
  usage := programUsage
  help := helpText programUsage ["",
    "litenum: string-literal enum generator for Python", "",
    "positional arguments:",
    "  \x7bgenerate,check\x7d  Available commands",
    "    generate        Generate Python modules",
    "    check           Validate a .lenum file", "",
    "options:",
    "  -h, --help        show this help message and exit",
    "  --version         show program's version number and exit",
    "  -v, --verbose     Log each pipeline stage to stderr", "",
    "Declare the literals once. Get lookup, ordering, and data accessors generated."]
  options := [helpOption, versionOption, verboseOption]
  operands := .command
  operandName := "command"
  isRequired := false

def generateUsage : String :=
  "litenum generate [-h] [--output OUTPUT | --out-dir OUT_DIR | --stdout] "
    ++ "enum_files [enum_files ...]"

def generate : Grammar where
  program := "litenum generate"
  usage := generateUsage
  help := helpText generateUsage ["",
    "positional arguments:",
    "  enum_files            Paths to .lenum files, or directories of them", "",
    "options:",
    "  -h, --help            show this help message and exit",
    "  --output OUTPUT, -o OUTPUT",
    "                        Output path (single input only)",
    "  --out-dir OUT_DIR     Directory for generated modules",
    "  --stdout              Print generated code instead of writing files"]
  options := [helpOption, outputOption, directoryOption, stdoutOption]
  operands := .several
  operandName := "enum_files"
  exclusive := [outputOption, directoryOption, stdoutOption]

def checkUsage : String := "litenum check [-h] [--json] enum_file"

def check : Grammar where
  program := "litenum check"
  usage := checkUsage
  help := helpText checkUsage ["",
    "positional arguments:",
    "  enum_file   Path to .lenum file", "",
    "options:",
    "  -h, --help  show this help message and exit",
    "  --json      Print the validated model as JSON"]
  options := [helpOption, jsonOption]
  operands := .one
  operandName := "enum_file"

end LiteralEnum.Command
