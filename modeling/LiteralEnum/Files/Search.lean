import LiteralEnum.Files.Disk
import LiteralEnum.Files.Pattern

/-! Search for files below a directory, by a path of patterns. -/

namespace LiteralEnum.Files

/-- The patterns of a search, one for each name on the way. An empty one at the end asks
for directories.
-/
def searchSteps (pattern : String) : List String :=
  Path.names pattern.toList ++ if pattern.toList.getLast? = some '/' then [""] else []

def hasTwoStars : List Char → Bool
  | '*' :: '*' :: _ => true
  | _ :: rest => hasTwoStars rest
  | [] => false

/-- Two stars stand for directories at any depth, and have no place in other patterns. -/
def isSearchable (pattern : String) : Bool :=
  (searchSteps pattern).all fun step => step = "**" || !hasTwoStars step.toList

namespace Disk

variable {m : Type → Type} [Monad m]

abbrev Found (m : Type → Type) := ExceptT Failure m

def isKind (disk : Disk m) (kind : Kind) (path : Path) : Found m Bool := do
  return (← ExceptT.mk (disk.kind? path)) = some kind

def someAt (disk : Disk m) (path : Path) : Found m Bool := do
  return (← ExceptT.mk (disk.kind? path)).isSome

/-- The paths that pass a test, in their order. -/
def keep (test : Path → Found m Bool) : List Path → Found m (List Path)
  | [] => return []
  | path :: rest => do
      let passes ← test path
      let others ← keep test rest
      return if passes then path :: others else others

/-- The results for paths, one after the other. -/
def gather (search : Path → Found m (List Path)) : List Path → Found m (List Path)
  | [] => return []
  | path :: rest => return (← search path) ++ (← gather search rest)

/-- The paths right below a directory. -/
def children (disk : Disk m) (path : Path) : Found m (List Path) := do
  return (← ExceptT.mk (disk.entries path)).map path.child

/-- A directory and the directories below it, at most `depth` names down. -/
def directories (disk : Disk m) (depth : Nat) (path : Path) : Found m (List Path) := do
  match depth with
  | 0 => return [path]
  | depth + 1 =>
      let inner ← keep (disk.isKind .directory) (← disk.children path)
      return path :: (← gather (disk.directories depth) inner)

/-- The depth below which no path fits. -/
def maxDepth : Nat := 2048

/-- The paths that steps lead to from a directory. -/
def select (disk : Disk m) (path : Path) : List String → Found m (List Path)
  | [] => return [path]
  | step :: rest => do
      if step = "" then return [path]
      else if step = "**" then
        let starts ← disk.directories maxDepth path
        let found ← gather (fun start => disk.select start rest) starts
        return found.eraseDups
      else if isPattern step then
        let all ← disk.children path
        let candidates ← if rest.isEmpty then pure all else keep (disk.isKind .directory) all
        gather (fun child => disk.select child rest)
          (candidates.filter fun child => matchesPattern step child.name)
      else
        let child := path.child step
        let isThere ← if rest.isEmpty then disk.someAt child else disk.isKind .directory child
        if isThere then disk.select child rest else return []

/-- The files that a pattern finds below a directory, in order. -/
def search (disk : Disk m) (path : Path) (pattern : String) : Found m (List Path) := do
  let found ← disk.select path (searchSteps pattern)
  let files ← keep (disk.isKind .file) found
  return files.mergeSort Path.precedes

end Disk

end LiteralEnum.Files
