/-! The shape of generated modules, and the names and encoding of files. -/

namespace LiteralEnum

structure Settings where
  indentWidth : Int := 4
  emitHeader : Bool := true
  headerText : String := "Generated by litenum. Do not edit by hand."
  emitAll : Bool := true
  sourceSuffix : String := ".lenum"
  outputSuffix : String := ".py"
  encoding : String := "utf-8"
deriving Repr, DecidableEq, Inhabited

/-- The indent of a block. A width below one leaves nothing. -/
def Settings.indent (settings : Settings) : String :=
  String.ofList (List.replicate settings.indentWidth.toNat ' ')

end LiteralEnum
