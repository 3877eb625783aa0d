import LiteralEnum.Files.Disk

/-! A tree of files and directories as a value, and the operations on it. -/

namespace LiteralEnum.Files

inductive Node where
  | file (content : Text.Bytes)
  | directory
deriving Repr, DecidableEq, Inhabited

/-- Names from the root of a tree. -/
abbrev Place := List String

/-- The places of a tree, each once; the root is always a directory. -/
structure Tree where
  nodes : List (Place × Node) := []
  /-- The directory where paths start that do not start at the root. -/
  home : Place := []
deriving Repr, DecidableEq, Inhabited

namespace Tree

def node? (tree : Tree) (place : Place) : Option Node :=
  if place = [] then some .directory else tree.nodes.lookup place

/-- Puts a node at a place. -/
def put (tree : Tree) (place : Place) (node : Node) : Tree :=
  { tree with nodes := (place, node) :: tree.nodes.filter (·.1 ≠ place) }

/-- Takes away what is at a place. -/
def erase (tree : Tree) (place : Place) : Tree :=
  { tree with nodes := tree.nodes.filter (·.1 ≠ place) }

/-- The names right below a place. -/
def childNames (tree : Tree) (place : Place) : List String :=
  tree.nodes.filterMap fun (other, _) =>
    if other ≠ [] ∧ other.dropLast = place then other.getLast? else none

-----------------------------------------------------------------------------------------
-- From paths to places
-----------------------------------------------------------------------------------------

/-- The most bytes of a name, and of a whole path. -/
def maxNameBytes : Nat := 255

def maxPathBytes : Nat := 4095

def isTooLong (limit : Nat) (text : String) : Bool :=
  limit < (Text.Utf8.encode text.toList).length

/-- The place that names lead to. Each step starts in a directory; the last name may be
new.
-/
def follow (tree : Tree) (place : Place) : List String → Except ErrorCode Place
  | [] => .ok place
  | name :: rest =>
      match tree.node? place with
      | none => .error .notFound
      | some (.file _) => .error .notDirectory
      | some .directory =>
          if isTooLong maxNameBytes name then .error .nameTooLong
          else tree.follow (if name = ".." then place.dropLast else place ++ [name]) rest

/-- The place where a path starts. -/
def origin (tree : Tree) (path : Path) : Place := if path.root = "" then tree.home else []

/-- The place of a path. -/
def locate (tree : Tree) (path : Path) : Except ErrorCode Place :=
  if isTooLong maxPathBytes path.text then .error .nameTooLong
  else tree.follow (tree.origin path) path.steps

def hasNull (path : Path) : Bool := path.parts.any fun name => name.toList.contains '\x00'

-----------------------------------------------------------------------------------------
-- Operations
-----------------------------------------------------------------------------------------

/-- A change of the tree, or the reason why there is none. -/
abbrev Change (α : Type) := Tree → Except ErrorCode (α × Tree)

/-- What is at a path. -/
def look (path : Path) (tree : Tree) : Except ErrorCode (Place × Node) := do
  let place ← tree.locate path
  match tree.node? place with
  | some node => .ok (place, node)
  | none => .error .notFound

def kindOf : Node → Kind
  | .file _ => .file
  | .directory => .directory

def kind (path : Path) : Change Kind := fun tree => do
  return (kindOf (← tree.look path).2, tree)

def read (path : Path) : Change Text.Bytes := fun tree => do
  match (← tree.look path).2 with
  | .file content => .ok (content, tree)
  | .directory => .error .isDirectory

def entries (path : Path) : Change (List String) := fun tree => do
  match ← tree.look path with
  | (place, .directory) => .ok (tree.childNames place, tree)
  | (_, .file _) => .error .notDirectory

def makeDirectory (path : Path) : Change Unit := fun tree => do
  let place ← tree.locate path
  match tree.node? place with
  | some _ => .error .exists
  | none => .ok ((), tree.put place .directory)

/-- There is a directory around a place. -/
def hasParent (tree : Tree) (place : Place) : Bool :=
  tree.node? place.dropLast = some .directory

def write (path : Path) (content : Text.Bytes) : Change Unit := fun tree => do
  let place ← tree.locate path
  match tree.node? place with
  | some .directory => .error .isDirectory
  | _ => if tree.hasParent place then .ok ((), tree.put place (.file content))
         else .error .notFound

/-- A file does not take the place of a directory, and a path that ends upwards names no
place for one.
-/
def rename (path target : Path) : Change Unit := fun tree => do
  let (source, node) ← tree.look path
  let place ← tree.locate target
  if target.steps.getLast? = some ".." then .error .busy
  else if tree.node? place = some .directory then .error .isDirectory
  else if source = place then .ok ((), tree)
  else .ok ((), (tree.erase source).put place node)

def remove (path : Path) : Change Unit := fun tree => do
  match ← tree.look path with
  | (place, .file _) => .ok ((), tree.erase place)
  | (_, .directory) => .error .isDirectory

/-- Runs a change for a path. -/
def change {α : Type} (path : Path) (target : Option Path) (change : Change α)
    : StateM Tree (Except Failure α) := fun tree =>
  if hasNull path || target.any hasNull then (.error .nullCharacter, tree)
  else match change tree with
    | .ok (value, next) => (.ok value, next)
    | .error code => (.error (.fault ⟨code, path, target⟩), tree)

/-- A tree as a disk. -/
def disk : Disk (StateM Tree) where
  kind path := change path none (kind path)
  read path := change path none (read path)
  entries path := change path none (entries path)
  makeDirectory path := change path none (makeDirectory path)
  write path content := change path none (write path content)
  rename path target := change path (some target) (rename path target)
  remove path := change path none (remove path)

end Tree

end LiteralEnum.Files
