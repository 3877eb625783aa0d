import LiteralEnum.Target.Matching

/-! Statements of Python, and whole modules. As for expressions, the readers of one level
call those of the level below for blocks.
-/

namespace LiteralEnum.Target

open Reader

namespace Statement

open Expression

-----------------------------------------------------------------------------------------
-- Simple statements
-----------------------------------------------------------------------------------------

/-- The right side of an assignment. -/
def assigned (nested : Nested) : Reader Expr := do
  if ← isNext (.keyword "yield") then yielding nested else expressions nested

def augmentations : List String :=
  ["+=", "-=", "*=", "@=", "/=", "%=", "&=", "|=", "^=", "<<=", ">>=", "**=", "//="]

/-- A name without parentheses is declared next. -/
def startsDeclaration : Reader Bool := fun lexemes =>
  match lexemes with
  | .name _ :: .symbol ":" :: _ => some (true, lexemes)
  | _ => some (false, lexemes)

/-- An expression, a declaration or an assignment. -/
def expressionStatement (nested : Nested) : Reader Stmt := do
  let simple ← startsDeclaration
  let first ← assigned nested
  if ← accept (.symbol ":") then
    if !isSingleTarget first then failure
    let type ← nested.expression
    let value ← if ← accept (.symbol "=") then some <$> assigned nested else pure none
    return .annotate first type value simple
  match ← attempt (symbolOf augmentations) with
  | some _ =>
      if !isSingleTarget first then failure
      return .augment first (← assigned nested)
  | none =>
      let others ← many do
        symbol "="
        assigned nested
      match others.reverse with
      | [] => return .expression first
      | value :: earlier =>
          let targets := first :: earlier.reverse
          if targets.all isStarTarget then return .assign targets value else failure

/-- A dotted name, as its parts. -/
def path : Reader (List String) := do
  let first ← name
  let others ← many do
    symbol "."
    name
  return first :: others

def boundName : Reader (Option String) := do
  if ← accept (.keyword "as") then return some (← name)
  return none

def importedModule : Reader Alias := do
  let parts ← path
  return ⟨parts, ← boundName⟩

def importedName : Reader Alias := do
  let id ← name
  return ⟨[id], ← boundName⟩

/-- The module of an import of names, of which only dots may be left. -/
def sourceModule : Reader (Option String) := do
  let dots ← many (symbolOf [".", "..."])
  match ← attempt path with
  | some parts => return some (String.intercalate "." parts)
  | none => if dots.isEmpty then failure else return none

def importStatement : Reader Stmt := do
  if ← accept (.keyword "import") then return .importModules (← separated importedModule)
  keyword "from"
  let source ← sourceModule
  keyword "import"
  if ← accept (.symbol "*") then return .importAll source
  if ← accept (.symbol "(") then
    let (aliases, _) ← commaList importedName
    symbol ")"
    return .importNames source aliases
  return .importNames source (← separated importedName)

def deleteStatement (nested : Nested) : Reader Stmt := do
  keyword "del"
  let (targets, _) ← commaList nested.primary
  if targets.all isDeletable then return .delete targets
  failure

def raiseStatement (nested : Nested) : Reader Stmt := do
  keyword "raise"
  match ← attempt nested.expression with
  | none => return .raise []
  | some value =>
      if ← accept (.keyword "from") then return .raise [value, ← nested.expression]
      return .raise [value]

def assertStatement (nested : Nested) : Reader Stmt := do
  keyword "assert"
  let test ← nested.expression
  if ← accept (.symbol ",") then return .assert [test, ← nested.expression]
  return .assert [test]

/-- A statement within one line. -/
def simple (nested : Nested) : Reader Stmt := fun lexemes =>
  match lexemes with
  | .keyword word :: rest =>
      if word = "pass" then some (.pass, rest)
      else if word = "break" then some (.break, rest)
      else if word = "continue" then some (.continue, rest)
      else if word = "return" then
        (attempt (expressions nested) rest).map fun (value, others) => (.return value, others)
      else if word = "global" then
        (separated name rest).map fun (names, others) => (.global names, others)
      else if word = "nonlocal" then
        (separated name rest).map fun (names, others) => (.nonlocal names, others)
      else if word = "import" ∨ word = "from" then importStatement lexemes
      else if word = "del" then deleteStatement nested lexemes
      else if word = "raise" then raiseStatement nested lexemes
      else if word = "assert" then assertStatement nested lexemes
      else expressionStatement nested lexemes
  | _ => expressionStatement nested lexemes

/-- The statements of a line, separated by semicolons. -/
def line (nested : Nested) : Reader (List Stmt) := do
  let first ← simple nested
  let others ← many do
    symbol ";"
    simple nested
  let _ ← accept (.symbol ";")
  expect .newline
  return first :: others

-----------------------------------------------------------------------------------------
-- Compound statements
-----------------------------------------------------------------------------------------

/-- The block behind a colon: statements on the same line, or an indented block. -/
def block (nested : Nested) (inner : Reader (List Stmt)) : Reader (List Stmt) := do
  symbol ":"
  if ← accept .newline then
    expect .indent
    let statements ← inner
    expect .dedent
    return statements
  line nested

/-- A block behind a keyword, or no statements where the keyword is absent. -/
def optionalBlock (word : String) (nested : Nested) (inner : Reader (List Stmt))
    : Reader (List Stmt) := do
  if ← accept (.keyword word) then block nested inner else return []

/-- A test and the block for it. -/
def branch (word : String) (nested : Nested) (inner : Reader (List Stmt))
    : Reader (Expr × List Stmt) := do
  keyword word
  let test ← named nested
  return (test, ← block nested inner)

def ifStatement (nested : Nested) (inner : Reader (List Stmt)) : Reader Stmt := do
  let (test, body) ← branch "if" nested inner
  let others ← many (branch "elif" nested inner)
  let orelse ← optionalBlock "else" nested inner
  return .conditional test body
    (others.foldr (fun (test, body) rest => [.conditional test body rest]) orelse)

def whileStatement (nested : Nested) (inner : Reader (List Stmt)) : Reader Stmt := do
  let (test, body) ← branch "while" nested inner
  return .whileLoop test body (← optionalBlock "else" nested inner)

def forStatement (isAsync : Bool) (nested : Nested) (inner : Reader (List Stmt))
    : Reader Stmt := do
  keyword "for"
  let bound ← targets nested
  keyword "in"
  let iterable ← expressions nested
  let body ← block nested inner
  return .forLoop isAsync bound iterable body (← optionalBlock "else" nested inner)

/-- A context and its target. -/
def withItem (nested : Nested) : Reader (Expr × Option Expr) := do
  let context ← nested.expression
  if ← accept (.keyword "as") then return (context, some (← target nested))
  return (context, none)

/-- The contexts of a `with` statement, in parentheses or not. -/
def withItems (nested : Nested) : Reader (List (Expr × Option Expr)) :=
  firstOf [
    do
      symbol "("
      let (items, _) ← commaList (withItem nested)
      symbol ")"
      if ← isNext (.symbol ":") then return items else failure,
    separated (withItem nested)]

def withStatement (isAsync : Bool) (nested : Nested) (inner : Reader (List Stmt))
    : Reader Stmt := do
  keyword "with"
  let items ← withItems nested
  let body ← block nested inner
  return .withItems isAsync (items.map (·.1)) (items.filterMap (·.2)) body

/-- A handler of exceptions, or of groups of them. -/
def handler (isGroup : Bool) (nested : Nested) (inner : Reader (List Stmt)) : Reader Handler := do
  keyword "except"
  if isGroup then
    symbol "*"
    let type ← nested.expression
    let bound ← boundName
    return .mk (some type) bound (← block nested inner)
  if ← isNext (.symbol ":") then return .mk none none (← block nested inner)
  let type ← nested.expression
  let bound ← boundName
  return .mk (some type) bound (← block nested inner)

def tryStatement (nested : Nested) (inner : Reader (List Stmt)) : Reader Stmt := do
  keyword "try"
  let body ← block nested inner
  let plain ← many (handler false nested inner)
  let groups ← if plain.isEmpty then many (handler true nested inner) else pure []
  let handlers := plain ++ groups
  let orelse ← if handlers.isEmpty then pure [] else optionalBlock "else" nested inner
  if handlers.isEmpty && !(← isNext (.keyword "finally")) then failure
  let cleanup ← optionalBlock "finally" nested inner
  return .tryBlock (!groups.isEmpty) body handlers orelse cleanup

def classStatement (decorators : List Expr) (nested : Nested) (inner : Reader (List Stmt))
    : Reader Stmt := do
  keyword "class"
  let id ← name
  let (values, keywords) ← if ← accept (.symbol "(") then arguments nested false else pure ([], [])
  return .classOf id decorators values keywords (← block nested inner)

def functionStatement (isAsync : Bool) (decorators : List Expr) (nested : Nested)
    (inner : Reader (List Stmt))
    : Reader Stmt := do
  keyword "def"
  let id ← name
  symbol "("
  let found ← parameters nested true ")"
  symbol ")"
  let returns ← if ← accept (.symbol "->") then some <$> nested.expression else pure none
  return .function isAsync id decorators found returns (← block nested inner)

/-- Functions and classes behind their decorators. -/
def decorated (nested : Nested) (inner : Reader (List Stmt)) : Reader Stmt := do
  let decorators ← many do
    symbol "@"
    let value ← named nested
    expect .newline
    return value
  if decorators.isEmpty then failure
  if ← isNext (.keyword "class") then classStatement decorators nested inner
  else
    let isAsync ← accept (.keyword "async")
    functionStatement isAsync decorators nested inner

/-- What a `match` statement matches: an expression, or several as a tuple. -/
def subject (nested : Nested) : Reader Expr := do
  match ← commaList (unpacked nested (named nested)) with
  | ([item], false) => if isStarred item then failure else return item
  | (items, _) => return .display .tuple items

def caseBlock (nested : Nested) (inner : Reader (List Stmt)) : Reader Case := do
  expect (.name "case")
  let lexemes ← get
  let pattern ← Matching.ofCase (Matching.level nested lexemes.length)
  let guard ← if ← accept (.keyword "if") then some <$> named nested else pure none
  return .mk pattern guard (← block nested inner)

def matchStatement (nested : Nested) (inner : Reader (List Stmt)) : Reader Stmt := do
  expect (.name "match")
  let value ← subject nested
  symbol ":"
  expect .newline
  expect .indent
  let first ← caseBlock nested inner
  let others ← many (caseBlock nested inner)
  expect .dedent
  return .matchCases value (first :: others)

/-- The statements of one compound statement or of one line. -/
def statement (nested : Nested) (inner : Reader (List Stmt)) : Reader (List Stmt) := fun lexemes =>
  let compound := fun (reader : Reader Stmt) =>
    (reader lexemes).map fun (found, rest) => ([found], rest)
  match lexemes with
  | .keyword word :: rest =>
      if word = "if" then compound (ifStatement nested inner)
      else if word = "while" then compound (whileStatement nested inner)
      else if word = "for" then compound (forStatement false nested inner)
      else if word = "with" then compound (withStatement false nested inner)
      else if word = "try" then compound (tryStatement nested inner)
      else if word = "class" then compound (classStatement [] nested inner)
      else if word = "def" then compound (functionStatement false [] nested inner)
      else if word = "async" then
        (firstOf [functionStatement true [] nested inner, withStatement true nested inner,
          forStatement true nested inner] rest).map fun (found, others) => ([found], others)
      else line nested lexemes
  | .symbol "@" :: _ => compound (decorated nested inner)
  | .name "match" :: _ =>
      match matchStatement nested inner lexemes with
      | some (found, rest) => some ([found], rest)
      | none => line nested lexemes
  | _ => line nested lexemes

/-- Statements, at least one. -/
def above (nested : Nested) (inner : Reader (List Stmt)) : Reader (List Stmt) := do
  let first ← statement nested inner
  let others ← many (statement nested inner)
  return first ++ others.flatten

def level (nested : Nested) : Nat → Reader (List Stmt)
  | 0 => fun _ => none
  | depth + 1 => above nested (level nested depth)

end Statement

/-- The statements of a module text, if its syntax is right. -/
def parseModule? (text : List Char) : Option (List Stmt) :=
  (Lexeme.ofText? text).bind fun lexemes =>
    if lexemes.isEmpty then some []
    else
      let depth := text.length + 2
      match Statement.level (Expression.level depth) depth lexemes with
      | some (statements, []) => some statements
      | _ => none

end LiteralEnum.Target
