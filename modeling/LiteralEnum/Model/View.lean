import LiteralEnum.Model
import LiteralEnum.Text.Json

/-! A model as a JSON document. The owners of literals are left out: they follow from the
variants.
-/

namespace LiteralEnum.Model

def Field.view (field : Field) : Text.Json :=
  .object [("name", .text field.name), ("type_ref", .text field.typeText)]

def Variant.view (variant : Variant) : Text.Json :=
  .object [("index", .integer variant.index), ("name", .text variant.name),
    ("primary", .text variant.primary), ("alternates", .texts variant.alternates),
    ("doc", .optionalText variant.doc), ("data_expr", .optionalText variant.data)]

def view (model : Model) : Text.Json :=
  .object [("name", .text model.name), ("doc", .optionalText model.doc),
    ("data_field", (model.field.map Field.view).getD .null),
    ("imports", .texts model.imports), ("variants", .list (model.variants.map Variant.view))]

/-- The JSON text of a model. An indent below one breaks lines and leaves them at the
margin.
-/
def viewText (indent : Int) (model : Model) : String :=
  String.ofList (model.view.render indent.toNat 0)

end LiteralEnum.Model
