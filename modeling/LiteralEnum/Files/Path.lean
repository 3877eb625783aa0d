import LiteralEnum.Text.Lines

/-! Paths: names with slashes between them. -/

namespace LiteralEnum.Files

/-- The names on the way from the root, or from the place where the program runs. -/
structure Path where
  /-- Empty, one slash, or two slashes. -/
  root : String := ""
  parts : List String := []
deriving Repr, DecidableEq, Inhabited

namespace Path

def slashes (text : List Char) : Nat := (text.takeWhile (· = '/')).length

/-- The slashes at the start. More than two count as one. -/
def rootOf (text : List Char) : String :=
  match slashes text with
  | 0 => ""
  | 2 => "//"
  | _ => "/"

/-- The names between slashes. A single dot is no name. -/
def names (text : List Char) : List String :=
  ((Text.splitAt '/' text).filter fun name => name ≠ [] ∧ name ≠ ['.']).map String.ofList

def ofText (text : String) : Path := ⟨rootOf text.toList, names text.toList⟩

/-- The text of a path; a dot for the place where the program runs. -/
def text (path : Path) : String :=
  if path.root = "" ∧ path.parts = [] then "."
  else path.root ++ String.intercalate "/" path.parts

/-- The path without its last name. -/
def parent (path : Path) : Path := { path with parts := path.parts.dropLast }

/-- The last name, or nothing. -/
def name (path : Path) : String := path.parts.getLastD ""

def child (path : Path) (name : String) : Path := { path with parts := path.parts ++ [name] }

/-- The names that a path leads through. A name that took the place of another may come with
slashes and single dots around it, which do not count.
-/
def steps (path : Path) : List String := path.parts.flatMap fun name => names name.toList

/-- Another path seen from this one. -/
def join (path other : Path) : Path :=
  if other.root = "" then { path with parts := path.parts ++ other.parts } else other

/-- The last name without what follows its last dot. A dot at either end does not count. -/
def stem (path : Path) : String :=
  let text := path.name.toList
  let ending := text.reverse.takeWhile (· ≠ '.')
  let kept := text.length - ending.length - 1
  if kept = 0 ∨ ending = [] then path.name else String.ofList (text.take kept)

/-- The path with another last name. Only one name can take the place of one. -/
def withName? (path : Path) (name : String) : Option Path :=
  if path.name = "" ∨ rootOf name.toList ≠ "" ∨ name.toList.getLast? = some '/'
      ∨ (names name.toList).length ≠ 1 then none
  else some (path.parent.child name)

/-- The order of the names, first to last. -/
def precedes (a b : Path) : Bool := !b.parts.lex a.parts fun x y => decide (x < y)

end Path

end LiteralEnum.Files
