import LiteralEnum.Command.Source
import LiteralEnum.Console.Table
import LiteralEnum.Model.View

/-! The command that checks a source and shows its model. -/

namespace LiteralEnum.Command.Check

open Files

variable {m : Type → Type} [Monad m]

/-- A dash stands for a cell with nothing in it. -/
def orDash (text : String) : String := if text = "" then "-" else text

def alternatesCell (variant : Model.Variant) : String :=
  orDash (String.intercalate ", " (variant.alternates.map Text.quoted))

def dataCell (variant : Model.Variant) : String := orDash (variant.data.getD "")

def cell (text : String) : List Char := Console.sanitize text.toList

/-- The cells of a variant. -/
def row (model : Model) (variant : Model.Variant) : List (List Char) :=
  [cell (toString variant.index), cell variant.name, cell (Text.quoted variant.primary),
    cell (alternatesCell variant)]
    ++ if model.field.isSome then [cell (dataCell variant)] else []

/-- The header of the data, in which tags go away. -/
def dataColumns (model : Model) : Except Console.MarkupError (List Console.Column) :=
  match model.field with
  | none => .ok []
  | some field => do
      let header ← Console.showMarkup s!"{field.name}: {field.typeText}".toList
      return [{ header }]

/-- The variants of a model, one in each row. -/
def table (model : Model) : Except Console.MarkupError Console.Table := do
  let dataColumns ← dataColumns model
  return {
    title := s!"{model.name} ({model.variants.length} variants)".toList
    columns := [{ header := ['#'], justify := .right }, { header := "Name".toList },
      { header := "Primary".toList }, { header := "Alternates".toList }] ++ dataColumns
    rows := model.variants.map (row model)
  }

/-- Shows a model. -/
def showModel (asJson : Bool) (model : Model) : Act m Unit :=
  if asJson then Act.print (model.viewText 2 ++ "\n")
  else match table model with
    | .ok table => Act.print table.text
    | .error error => throw (.markup error)

/-- Runs the command; the answer is the exit code. -/
def run (disk : Disk m) (environment : Environment) (isVerbose : Bool) (input : String)
    (asJson : Bool) : Act m Nat := do
  let path := Path.ofText input
  let some source ← readSource disk environment path | return 1
  let some model ← buildSource isVerbose path source | return 1
  showModel asJson model
  return 0

end LiteralEnum.Command.Check
