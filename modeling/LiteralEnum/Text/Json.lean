import LiteralEnum.Text.Quoted

/-! JSON documents, and their text with one item on each line. -/

namespace LiteralEnum.Text

inductive Json where
  | null
  | integer (number : Int)
  | text (content : String)
  | list (items : List Json)
  | object (members : List (String × Json))
deriving Repr

namespace Json

/-- A list of texts. -/
def texts (contents : List String) : Json :=
  .list (contents.map .text)

/-- A text, or null. -/
def optionalText : Option String → Json
  | none => .null
  | some content => .text content

/-- How a character stands in a JSON string. Only controls, quotes and backslashes are
escaped.
-/
def stringChar (c : Char) : List Char :=
  if c = '"' || c = '\\' then ['\\', c]
  else if c = '\n' then ['\\', 'n']
  else if c = '\r' then ['\\', 'r']
  else if c = '\t' then ['\\', 't']
  else if c = '\x08' then ['\\', 'b']
  else if c = '\x0c' then ['\\', 'f']
  else if c.toNat < 0x20 then '\\' :: 'u' :: hexDigits 4 c.toNat
  else [c]

def stringText (content : String) : List Char :=
  '"' :: content.toList.flatMap stringChar ++ ['"']

/-- A line break and the indent of a depth. -/
def lineBreak (width depth : Nat) : List Char :=
  '\n' :: List.replicate (width * depth) ' '

/-- Items between brackets, one to a line; without items there is no line break. -/
def block (width depth : Nat) (opening closing : Char) : List (List Char) → List Char
  | [] => [opening, closing]
  | items =>
      opening :: lineBreak width (depth + 1)
        ++ (",".toList ++ lineBreak width (depth + 1)).intercalate items
        ++ lineBreak width depth ++ [closing]

mutual

/-- The text of a document whose first line stands at a depth. -/
def render (width depth : Nat) : Json → List Char
  | .null => "null".toList
  | .integer number => (toString number).toList
  | .text content => stringText content
  | .list items => block width depth '[' ']' (renderItems width (depth + 1) items)
  | .object members => block width depth '\x7b' '\x7d' (renderMembers width (depth + 1) members)

def renderItems (width depth : Nat) : List Json → List (List Char)
  | [] => []
  | item :: rest => render width depth item :: renderItems width depth rest

def renderMembers (width depth : Nat) : List (String × Json) → List (List Char)
  | [] => []
  | (name, value) :: rest =>
      (stringText name ++ ": ".toList ++ render width depth value)
        :: renderMembers width depth rest

end

end Json

end LiteralEnum.Text
