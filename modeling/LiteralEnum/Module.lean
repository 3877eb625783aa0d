import LiteralEnum.Model
import LiteralEnum.Module.Docstring
import LiteralEnum.Settings
import LiteralEnum.Text.Quoted

/-! The generated module of a model: an enum class, tables of its literals and data, and
the tuple of its variants. A module is a list of lines, each part of it a list of its own.
-/

namespace LiteralEnum

namespace Module

/-- The one way in which rendering fails: a literal is owned by a variant that does not
exist.
-/
inductive RenderError where
  | indexOutOfRange
deriving Repr, DecidableEq

def RenderError.message : RenderError → String
  | .indexOutOfRange => "list index out of range"

-----------------------------------------------------------------------------------------
-- Frame
-----------------------------------------------------------------------------------------

def headerLines (settings : Settings) : List String :=
  if settings.emitHeader then
    (Text.splitLines settings.headerText.toList).map fun line => "# " ++ String.ofList line
  else []

def allLines (settings : Settings) (name : String) : List String :=
  if settings.emitAll then ["", s!"__all__ = [\"{name}\", \"VARIANTS\"]"] else []

/-- A doc text that says something. -/
def spoken? (doc : Option String) : Option String :=
  doc.filter (· ≠ "")

def preambleLines (model : Model) : List String :=
  docstring "" ((spoken? model.doc).getD s!"The {model.name} enumeration.")
    ++ ["", "from __future__ import annotations", "",
        "import enum", "import functools", "import typing"]
    ++ if model.imports.isEmpty then [] else "" :: model.imports

-----------------------------------------------------------------------------------------
-- Class
-----------------------------------------------------------------------------------------

def memberLines (indent : String) (variant : Model.Variant) : List String :=
  s!"{indent}{variant.name} = {variant.index}"
    :: ((spoken? variant.doc).map (docstring indent)).getD []

structure Method where
  decorator : Option String := none
  signature : String
  doc : Option String := none
  body : List String

def Method.lines (indent : String) (method : Method) : List String :=
  ["" ] ++ method.decorator.toList.map (indent ++ ·) ++ [indent ++ method.signature]
    ++ (method.doc.map (docstring (indent ++ indent))).getD []
    ++ method.body.map (indent ++ indent ++ ·)

/-- The methods that every class has. -/
def standardMethods (indent name : String) : List Method := [
  { signature := "def __lt__(self, other: object) -> bool:"
    body := ["if self.__class__ is other.__class__:",
      indent ++ "return self.value < other.value  # type: ignore[attr-defined]",
      "return NotImplemented"] },
  { signature := "def __str__(self) -> str:"
    body := ["return _CANONICAL[self.value]"] },
  { decorator := some "@classmethod"
    signature := s!"def lookup(cls, text: str) -> {name} | None:"
    doc := some "Return the variant with `text` as a primary or alternate literal, or None."
    body := ["return _LOOKUP.get(text)"] },
  { decorator := some "@classmethod"
    signature := "def is_match(cls, text: str) -> bool:"
    doc := some "Return True if `text` is a literal of any variant."
    body := ["return text in _LOOKUP"] },
  { signature := "def canonical(self) -> str:"
    doc := some "Return the primary literal of this variant."
    body := ["return _CANONICAL[self.value]"] },
  { signature := "def index(self) -> int:"
    doc := some "Return the zero-based declaration position of this variant."
    body := ["return self.value"] }]

/-- The method that returns the data of a variant. -/
def accessor (field : Model.Field) : Method where
  signature := s!"def {field.name}(self) -> {field.typeText} | None:"
  doc := some s!"Return the {field.name} of this variant, or None if it declares none."
  body := ["return _DATA[self.value]"]

def classDocLines (indent : String) (doc : Option String) : List String :=
  match spoken? doc with
  | some text => docstring indent text ++ [""]
  | none => []

def classLines (indent : String) (model : Model) : List String :=
  ["", "", "@functools.total_ordering", s!"class {model.name}(enum.Enum):"]
    ++ classDocLines indent model.doc
    ++ model.variants.flatMap (memberLines indent)
    ++ (standardMethods indent model.name ++ model.field.toList.map accessor).flatMap
        (Method.lines indent)

-----------------------------------------------------------------------------------------
-- Tables
-----------------------------------------------------------------------------------------

/-- The variant at an index; a negative index counts from the end. -/
def variantAt? (variants : List Model.Variant) (index : Int) : Option Model.Variant :=
  let place := if index < 0 then index + variants.length else index
  if place < 0 then none else variants[place.toNat]?

def lookupLine (indent : String) (model : Model) (entry : String × Int)
    : Except RenderError String :=
  match variantAt? model.variants entry.2 with
  | some variant => .ok s!"{indent}{Text.quoted entry.1}: {model.name}.{variant.name},"
  | none => .error .indexOutOfRange

def lookupLines (indent : String) (model : Model) : Except RenderError (List String) := do
  let entries ← model.owners.mapM (lookupLine indent model)
  return ["", "", s!"_LOOKUP: dict[str, {model.name}] = \x7b"] ++ entries ++ ["\x7d"]

def canonicalLines (indent : String) (variants : List Model.Variant) : List String :=
  ["", "_CANONICAL: tuple[str, ...] = ("]
    ++ variants.map (fun variant => s!"{indent}{Text.quoted variant.primary},") ++ [")"]

/-- The data of a variant in the data table. -/
def dataElement : Option String → String
  | none => "None"
  | some expression => s!"({expression})"

def dataLines (indent : String) (model : Model) : List String :=
  match model.field with
  | none => []
  | some field =>
      ["", s!"_DATA: tuple[{field.typeText} | None, ...] = ("]
        ++ model.variants.map (fun variant => s!"{indent}{dataElement variant.data},") ++ [")"]

def variantLines (indent : String) (model : Model) : List String :=
  ["", "# Every variant in declaration order; VARIANTS[i].index() == i.",
   "# Indexing is not bounds-checked here: an out-of-range index raises the",
   "# tuple's IndexError and negative indices wrap. Callers own range checks.",
   s!"VARIANTS: typing.Final[tuple[{model.name}, ...]] = ("]
    ++ model.variants.map (fun variant => s!"{indent}{model.name}.{variant.name},") ++ [")"]

-----------------------------------------------------------------------------------------
-- Whole module
-----------------------------------------------------------------------------------------

/-- The lines between the header and the list of exported names. -/
def bodyLines (indent : String) (model : Model) : Except RenderError (List String) := do
  let lookup ← lookupLines indent model
  return preambleLines model ++ classLines indent model ++ lookup
    ++ canonicalLines indent model.variants ++ dataLines indent model ++ variantLines indent model

def lines (settings : Settings) (model : Model) : Except RenderError (List String) := do
  let body ← bodyLines settings.indent model
  return headerLines settings ++ body ++ allLines settings model.name

/-- Every line ends with a line feed. -/
def unlines (lines : List String) : String :=
  String.join (lines.map (· ++ "\n"))

end Module

/-- The text of the module of a model. -/
def Model.render (settings : Settings) (model : Model) : Except Module.RenderError String :=
  (Module.lines settings model).map Module.unlines

end LiteralEnum
