import LiteralEnum.Target.Expression

/-! Patterns of `match` statements. The readers of one level call those of the level below
for patterns in brackets.
-/

namespace LiteralEnum.Target.Matching

open Reader

def number : Reader (List Char)
  | .number text :: rest => if Literal.isNumber text then some (text, rest) else none
  | _ => none

/-- A number with a sign, alone or with an imaginary part. -/
def numeric : Reader PatternConstant := do
  let negative ← accept (.symbol "-")
  let real ← number
  match ← attempt (symbolOf ["+", "-"]) with
  | none => return .number negative real
  | some sign =>
      let imaginary ← number
      if Literal.isImaginary real || !Literal.isImaginary imaginary then failure
      return .complex negative real (sign = "-") imaginary

def constant (nested : Nested) : Reader PatternConstant := fun lexemes =>
  match lexemes with
  | .string _ :: _ => ((Expression.strings nested) lexemes).map fun (value, rest) =>
      (.other value, rest)
  | .keyword "None" :: rest => some (.other (.constant .none), rest)
  | .keyword "True" :: rest => some (.other (.constant .true), rest)
  | .keyword "False" :: rest => some (.other (.constant .false), rest)
  | _ => numeric lexemes

/-- A name to which a pattern binds a value. -/
def captureName : Reader String := fun lexemes =>
  match lexemes with
  | .name id :: rest =>
      let blocked := rest.head? = some (.symbol ".") || rest.head? = some (.symbol "(")
        || rest.head? = some (.symbol "=")
      if id = "_" || blocked then none else some (id, rest)
  | _ => none

/-- A name with any number of attributes. -/
def dottedName : Reader Expr := do
  let first ← name
  let attributes ← many do
    symbol "."
    name
  return attributes.foldl Expr.attribute (.name first)

/-- A pattern, or a star with a name for what the others leave. -/
def starrable (pattern : Reader Pattern) : Reader Pattern := do
  if ← accept (.symbol "*") then
    if ← accept (.name "_") then return .starred none
    return .starred (some (← captureName))
  pattern

def isStarred : Pattern → Bool
  | .starred _ => true
  | _ => false

/-- Patterns in square brackets; the opening one has been taken. -/
def listed (pattern : Reader Pattern) : Reader Pattern := do
  if ← accept (.symbol "]") then return .sequence []
  let (items, _) ← commaList (starrable pattern)
  symbol "]"
  return .sequence items

/-- A pattern or a sequence in parentheses; the opening one has been taken. -/
def parenthesized (pattern : Reader Pattern) : Reader Pattern := do
  if ← accept (.symbol ")") then return .sequence []
  let found ← commaList (starrable pattern)
  symbol ")"
  match found with
  | ([item], false) => if isStarred item then failure else return item
  | (items, _) => return .sequence items

/-- A key of a mapping: a constant, or a name with attributes. -/
def key (nested : Nested) : Reader (Option PatternConstant) := do
  match ← attempt (constant nested) with
  | some value => return some value
  | none =>
      match ← dottedName with
      | .attribute _ _ => return none
      | _ => failure

/-- The entries of a mapping, in braces; the opening one has been taken. -/
def mapping (nested : Nested) (pattern : Reader Pattern) : Reader Pattern := do
  let entries ← many do
    let found ← key nested
    symbol ":"
    let value ← pattern
    if !(← isNext (.symbol "\x7d")) then symbol ","
    return (found, value)
  let rest ← if ← accept (.symbol "**") then
      let id ← captureName
      let _ ← accept (.symbol ",")
      pure (some id)
    else pure none
  symbol "\x7d"
  return .mapping (entries.map (·.1)) (entries.map (·.2)) rest

def keywordPattern (pattern : Reader Pattern) : Reader (String × Pattern) := do
  let id ← name
  symbol "="
  return (id, ← pattern)

/-- The patterns for positions and then for attributes, in parentheses; the opening one
has been taken.
-/
def classArguments (cls : Expr) (pattern : Reader Pattern) : Reader Pattern := do
  let positional ← many do
    let value ← pattern
    if !(← isNext (.symbol ")")) then symbol ","
    return value
  let keyword ← many do
    let value ← keywordPattern pattern
    if !(← isNext (.symbol ")")) then symbol ","
    return value
  symbol ")"
  return .classOf cls positional (keyword.map (·.1)) (keyword.map (·.2))

/-- A pattern that starts with a name. -/
def named (pattern : Reader Pattern) : Reader Pattern := do
  if ← accept (.name "_") then return .wildcard
  match ← attempt captureName with
  | some id => return .capture id
  | none =>
      let path ← dottedName
      if ← accept (.symbol "(") then classArguments path pattern
      else match path with
        | .attribute _ _ => if ← isNext (.symbol "=") then failure else return .path path
        | _ => failure

def isSingleton : PatternConstant → Bool
  | .other (.constant .none) | .other (.constant .true) | .other (.constant .false) => true
  | _ => false

def closed (nested : Nested) (pattern : Reader Pattern) : Reader Pattern := fun lexemes =>
  match lexemes with
  | .name _ :: _ => named pattern lexemes
  | .symbol "(" :: rest => parenthesized pattern rest
  | .symbol "[" :: rest => listed pattern rest
  | .symbol "\x7b" :: rest => mapping nested pattern rest
  | _ => (constant nested lexemes).map fun (value, rest) =>
      (if isSingleton value then .singleton else .value value, rest)

/-- Alternatives, bound to a name or not. -/
def above (nested : Nested) (pattern : Reader Pattern) : Reader Pattern := do
  let first ← closed nested pattern
  let others ← many do
    symbol "|"
    closed nested pattern
  let whole := if others.isEmpty then first else .alternatives (first :: others)
  match ← attempt (do keyword "as"; captureName) with
  | some id => return .binding whole id
  | none => return whole

def level (nested : Nested) : Nat → Reader Pattern
  | 0 => fun _ => none
  | depth + 1 => above nested (level nested depth)

/-- The pattern of a case: several without brackets are a sequence. -/
def ofCase (pattern : Reader Pattern) : Reader Pattern := do
  match ← commaList (starrable pattern) with
  | ([item], false) => if isStarred item then failure else return item
  | (items, _) => return .sequence items

end LiteralEnum.Target.Matching
