import LiteralEnum.Model.Check
import LiteralEnum.Module
import LiteralEnum.Text.Encoding

/-! The whole way from a source to the text of its module. -/

namespace LiteralEnum.Module

inductive CompileError where
  | unknownEncoding (name : String)
  | decoding (error : Text.DecodeError)
  | build (error : BuildError)
  | render (error : RenderError)
deriving Repr, DecidableEq

def CompileError.message : CompileError → String
  | .unknownEncoding name => s!"unknown encoding: {name}"
  | .decoding error => error.message
  | .build error => error.message
  | .render error => error.message

/-- The module that a source describes. -/
def ofSource (settings : Settings) (source : String) : Except CompileError String := do
  let model ← (Model.ofSource source).mapError .build
  (model.render settings).mapError .render

/-- The module that the bytes of a source file describe. -/
def ofBytes (settings : Settings) (bytes : Text.Bytes) : Except CompileError String := do
  match Text.Encoding.named? settings.encoding with
  | none => throw (.unknownEncoding settings.encoding)
  | some encoding =>
      let source ← (encoding.readText bytes).mapError .decoding
      ofSource settings source

end LiteralEnum.Module
