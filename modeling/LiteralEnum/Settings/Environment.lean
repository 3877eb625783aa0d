import LiteralEnum.Settings
import LiteralEnum.Text.Integer

/-! Settings that come from variables of the environment. -/

namespace LiteralEnum

/-- Variables and their values; a name occurs once. -/
abbrev Environment := List (String × String)

namespace Environment

/-- Sets a variable, or removes it. -/
def update (environment : Environment) (name : String) (value : Option String) : Environment :=
  value.toList.map (name, ·) ++ environment.filter (·.1 ≠ name)

/-- The value of a variable that is set to something. -/
def value? (environment : Environment) (name : String) : Option String :=
  (environment.lookup name).filter (· ≠ "")

def noWords : List String := ["0", "false", "no", "off"]

/-- Everything but a word for no is yes, in whatever case and with blanks around it. -/
def isYes (text : String) : Bool :=
  !noWords.contains (String.ofList ((Text.strip text.toList).map Char.toLower))

end Environment

/-- The variables that settings come from. -/
def Settings.variableNames : List String :=
  ["LITENUM_INDENT_WIDTH", "LITENUM_EMIT_HEADER", "LITENUM_HEADER_TEXT", "LITENUM_EMIT_ALL",
    "LITENUM_SOURCE_SUFFIX", "LITENUM_OUTPUT_SUFFIX"]

/-- The settings of an environment. What it does not say is as usual. -/
def Settings.ofEnvironment (environment : Environment) : Except Text.IntegerError Settings := do
  let usual : Settings := {}
  let indentWidth ← match environment.value? "LITENUM_INDENT_WIDTH" with
    | some text => Text.parseInteger text
    | none => .ok usual.indentWidth
  return { usual with
    indentWidth
    emitHeader :=
      ((environment.value? "LITENUM_EMIT_HEADER").map Environment.isYes).getD usual.emitHeader
    headerText := (environment.value? "LITENUM_HEADER_TEXT").getD usual.headerText
    emitAll := ((environment.value? "LITENUM_EMIT_ALL").map Environment.isYes).getD usual.emitAll
    sourceSuffix := (environment.value? "LITENUM_SOURCE_SUFFIX").getD usual.sourceSuffix
    outputSuffix := (environment.value? "LITENUM_OUTPUT_SUFFIX").getD usual.outputSuffix }

end LiteralEnum
