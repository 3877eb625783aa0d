import LiteralEnum.Target.Literal
import LiteralEnum.Target.Reader
import LiteralEnum.Target.Syntax

/-! Expressions of Python. The readers of one level call those of the level below for
everything in brackets or behind a keyword, so that the number of levels bounds the
nesting.
-/

namespace LiteralEnum.Target

/-- The readers of a level that readers of the next level use. -/
structure Nested where
  expression : Reader Expr
  disjunction : Reader Expr
  /-- An expression without comparison and logical operators. -/
  arithmetic : Reader Expr
  primary : Reader Expr

namespace Expression

open Reader

/-- The readers below the first level fail. -/
def bottom : Nested where
  expression := fun _ => none
  disjunction := fun _ => none
  arithmetic := fun _ => none
  primary := fun _ => none

-----------------------------------------------------------------------------------------
-- Lists of expressions
-----------------------------------------------------------------------------------------

/-- An expression that may bind a name. -/
def named (nested : Nested) : Reader Expr := fun lexemes =>
  match lexemes with
  | .name id :: .symbol ":=" :: rest =>
      (nested.expression rest).map fun (value, others) => (.assignment id value, others)
  | _ => (nested.expression lexemes).bind fun (value, others) =>
      if others.head? = some (.symbol ":=") then none else some (value, others)

/-- A name is bound next. -/
def startsBinding : Reader Bool := fun lexemes =>
  match lexemes with
  | .name _ :: .symbol ":=" :: _ => some (true, lexemes)
  | _ => some (false, lexemes)

/-- An expression or an unpacked iterable. -/
def unpacked (nested : Nested) (plain : Reader Expr) : Reader Expr := do
  if ← accept (.symbol "*") then return .starred (← nested.arithmetic)
  plain

/-- One expression, or several as a tuple. -/
def tupleOf (items : List Expr × Bool) : Expr :=
  match items with
  | ([item], false) => item
  | (items, _) => .display .tuple items

/-- Expressions without brackets around them. -/
def expressions (nested : Nested) : Reader Expr := do
  return tupleOf (← commaList (unpacked nested nested.expression))

def yielding (nested : Nested) : Reader Expr := do
  keyword "yield"
  if ← accept (.keyword "from") then return .yieldFrom (← nested.expression)
  return .yield (← attempt (expressions nested)).toList

-----------------------------------------------------------------------------------------
-- Targets
-----------------------------------------------------------------------------------------

mutual

/-- An expression to which a value can be assigned. -/
def isTarget : Expr → Bool
  | .name _ => true
  | .attribute _ _ => true
  | .subscript _ _ => true
  | .display .tuple items => areTargets items
  | .display .list items => areTargets items
  | _ => false

/-- Targets, each of which may take what the others leave. -/
def areTargets : List Expr → Bool
  | [] => true
  | .starred value :: rest => isTarget value && areTargets rest
  | item :: rest => isTarget item && areTargets rest

end

/-- A target, or a starred one. -/
def isStarTarget : Expr → Bool
  | .starred value => isTarget value
  | value => isTarget value

/-- A target that is no list of targets. -/
def isSingleTarget : Expr → Bool
  | .name _ => true
  | .attribute _ _ => true
  | .subscript _ _ => true
  | _ => false

/-- An expression that can be deleted. -/
def isDeletable : Expr → Bool
  | .name _ => true
  | .attribute _ _ => true
  | .subscript _ _ => true
  | .display .tuple items => areDeletable items
  | .display .list items => areDeletable items
  | _ => false
where
  areDeletable : List Expr → Bool
    | [] => true
    | item :: rest => isDeletable item && areDeletable rest

/-- A target in front of the keyword of a loop, or behind a context. -/
def target (nested : Nested) : Reader Expr := do
  let starred ← accept (.symbol "*")
  let value ← nested.primary
  if isTarget value then return if starred then .starred value else value
  failure

/-- Targets without brackets around them. -/
def targets (nested : Nested) : Reader Expr := do
  return tupleOf (← commaList (target nested))

-----------------------------------------------------------------------------------------
-- Brackets
-----------------------------------------------------------------------------------------

def clause (nested : Nested) : Reader Clause := do
  let isAsync ← accept (.keyword "async")
  keyword "for"
  let bound ← targets nested
  keyword "in"
  let iterable ← nested.disjunction
  let conditions ← many do
    keyword "if"
    nested.disjunction
  return .mk isAsync bound iterable conditions

def clauses (nested : Nested) : Reader (List Clause) := do
  return (← clause nested) :: (← many (clause nested))

def startsClause : Reader Bool := do
  return (← isNext (.keyword "for")) || (← isNext (.keyword "async"))

def isStarred : Expr → Bool
  | .starred _ => true
  | _ => false

/-- More items of a display behind the first. -/
def moreItems (nested : Nested) (first : Expr) (closing : String)
    : Reader (List Expr × Bool) := do
  let others ← many do
    symbol ","
    unpacked nested (named nested)
  let comma ← accept (.symbol ",")
  symbol closing
  return (first :: others, comma)

/-- What stands in parentheses: nothing, an expression, a tuple or a generator. The
opening one has been taken.
-/
def parenthesized (nested : Nested) : Reader Expr := do
  if ← accept (.symbol ")") then return .display .tuple []
  if ← isNext (.keyword "yield") then
    let value ← yielding nested
    symbol ")"
    return value
  let first ← unpacked nested (named nested)
  if (← startsClause) && !isStarred first then
    let loops ← clauses nested
    symbol ")"
    return .comprehension .generator [first] loops
  match ← moreItems nested first ")" with
  | ([item], false) => if isStarred item then failure else return item
  | (items, _) => return .display .tuple items

/-- What stands in square brackets as an expression: a list. -/
def bracketed (nested : Nested) : Reader Expr := do
  if ← accept (.symbol "]") then return .display .list []
  let first ← unpacked nested (named nested)
  if (← startsClause) && !isStarred first then
    let loops ← clauses nested
    symbol "]"
    return .comprehension .list [first] loops
  return .display .list (← moreItems nested first "]").1

/-- An entry of a dictionary display, or another dictionary. -/
def entry (nested : Nested) : Reader (List Expr) := do
  if ← accept (.symbol "**") then return [← nested.arithmetic]
  let key ← nested.expression
  symbol ":"
  return [key, ← nested.expression]

/-- The rest of a dictionary behind its first entry. -/
def dictionary (nested : Nested) (first : List Expr) : Reader Expr := do
  if (← startsClause) && first.length = 2 then
    let loops ← clauses nested
    symbol "\x7d"
    return .comprehension .dict first loops
  let others ← many do
    symbol ","
    entry nested
  let _ ← accept (.symbol ",")
  symbol "\x7d"
  return .operation (first ++ others.flatten)

/-- The rest of a set behind its first item. -/
def setDisplay (nested : Nested) (first : Expr) : Reader Expr := do
  if (← startsClause) && !isStarred first then
    let loops ← clauses nested
    symbol "\x7d"
    return .comprehension .set [first] loops
  return .display .set (← moreItems nested first "\x7d").1

/-- What stands in braces: a dictionary or a set. Only a plain expression can be a key. -/
def braced (nested : Nested) : Reader Expr := do
  if ← accept (.symbol "\x7d") then return .operation []
  if ← isNext (.symbol "**") then
    dictionary nested (← entry nested)
  else
    let plain := !(← startsBinding) && !(← isNext (.symbol "*"))
    let first ← unpacked nested (named nested)
    if plain && (← isNext (.symbol ":")) then
      symbol ":"
      dictionary nested [first, ← nested.expression]
    else setDisplay nested first

-----------------------------------------------------------------------------------------
-- Literals
-----------------------------------------------------------------------------------------

/-- The expression of a replacement field. -/
def fieldExpression? (nested : Nested) (text : List Char) : Option Expr := do
  let lexemes ← Lexeme.ofText? ('(' :: text ++ [')'])
  match lexemes with
  | .symbol "(" :: rest => (parenthesized nested rest).map (·.1)
  | _ => none

/-- Adjacent string literals are one literal. Those of bytes do not mix with others. -/
def joinPieces? (nested : Nested) (pieces : List Literal.Piece) : Option Expr :=
  if pieces.all Literal.Piece.isBytes then
    some (.constant (.bytes (pieces.flatMap fun
      | .bytes codes => codes
      | _ => [])))
  else if pieces.any Literal.Piece.isBytes then none
  else if pieces.all (fun | .text _ => true | _ => false) then
    some (.constant (.text (pieces.flatMap fun
      | .text codes => codes
      | _ => [])))
  else
    let fields := pieces.flatMap fun
      | .formatted expressions => expressions
      | _ => []
    (fields.mapM (fieldExpression? nested)).map .formatted

def stringToken : Reader (List Char)
  | .string text :: rest => some (text, rest)
  | _ => none

def strings (nested : Nested) : Reader Expr := do
  let first ← stringToken
  let others ← many stringToken
  let pieces ← ((first :: others).mapM Literal.piece? : Option (List Literal.Piece))
  (joinPieces? nested pieces : Option Expr)

-----------------------------------------------------------------------------------------
-- Atoms and primaries
-----------------------------------------------------------------------------------------

def atom (nested : Nested) : Reader Expr := fun lexemes =>
  match lexemes with
  | .name id :: rest => some (.name id, rest)
  | .number text :: rest =>
      if Literal.isNumber text then some (.constant (.number text), rest) else none
  | .string _ :: _ => strings nested lexemes
  | .keyword word :: rest =>
      if word = "None" then some (.constant .none, rest)
      else if word = "True" then some (.constant .true, rest)
      else if word = "False" then some (.constant .false, rest)
      else none
  | .symbol text :: rest =>
      if text = "(" then parenthesized nested rest
      else if text = "[" then bracketed nested rest
      else if text = "\x7b" then braced nested rest
      else if text = "..." then some (.constant .ellipsis, rest)
      else none
  | _ => none

/-- One subscript: an expression that may bind a name, or a slice. -/
def slice (nested : Nested) : Reader Expr := do
  if ← startsBinding then named nested
  else
    let lower ← attempt (named nested)
    match lower, ← accept (.symbol ":") with
    | some value, false => return value
    | none, false => failure
    | lower, true =>
        let upper ← attempt nested.expression
        let step ← if ← accept (.symbol ":") then attempt nested.expression else pure none
        return .slice (lower.toList ++ upper.toList ++ step.toList)

/-- The subscripts in square brackets. -/
def slices (nested : Nested) : Reader Expr := do
  let items ← commaList (do
    if ← accept (.symbol "*") then return .starred (← nested.expression)
    slice nested)
  symbol "]"
  match items with
  | ([item], false) => if isStarred item then return .display .tuple [item] else return item
  | (items, _) => return .display .tuple items

/-- An argument of a call. -/
inductive Argument where
  | positional (value : Expr)
  | keyword (name : String) (value : Expr)
  | mapping (value : Expr)

/-- An argument. After a keyword no plain argument may follow, and after a mapping no
unpacked iterable.
-/
def argument (nested : Nested) : Reader Argument := fun lexemes =>
  match lexemes with
  | .symbol "*" :: rest =>
      (nested.expression rest).map fun (value, others) => (.positional (.starred value), others)
  | .symbol "**" :: rest =>
      (nested.expression rest).map fun (value, others) => (.mapping value, others)
  | .name id :: .symbol "=" :: rest =>
      (nested.expression rest).map fun (value, others) => (.keyword id value, others)
  | _ => (named nested lexemes).bind fun (value, others) =>
      if others.head? = some (.symbol "=") then none else some (.positional value, others)

/-- The order of arguments: plain and unpacked ones, then keywords and unpacked ones, then
keywords and mappings.
-/
def inOrder (afterKeyword afterMapping : Bool) : List Argument → Bool
  | [] => true
  | .positional value :: rest =>
      (if isStarred value then !afterMapping else !afterKeyword)
        && inOrder afterKeyword afterMapping rest
  | .keyword _ _ :: rest => inOrder true afterMapping rest
  | .mapping _ :: rest => inOrder true true rest

def Argument.value : Argument → Expr
  | .positional value | .keyword _ value | .mapping value => value

def Argument.keyword? : Argument → Option String
  | .keyword name _ => some name
  | _ => none

/-- The values of arguments and the keywords among them. The opening parenthesis has been
taken. A generator may stand as the only argument without parentheses of its own.
-/
def arguments (nested : Nested) (generator : Bool) : Reader (List Expr × List String) := do
  if ← accept (.symbol ")") then return ([], [])
  let first ← argument nested
  if generator && (← startsClause) then
    match first with
    | .positional element =>
        if isStarred element then failure
        let loops ← clauses nested
        symbol ")"
        return ([.comprehension .generator [element] loops], [])
    | _ => failure
  let others ← many do
    symbol ","
    argument nested
  let _ ← accept (.symbol ",")
  symbol ")"
  let found := first :: others
  if inOrder false false found then return (found.map (·.value), found.filterMap (·.keyword?))
  failure

/-- What may follow a primary: an attribute, a call or a subscript. -/
def trailer (nested : Nested) (value : Expr) : Reader (Option Expr) := fun lexemes =>
  match lexemes with
  | .symbol "." :: .name id :: rest => some (some (.attribute value id), rest)
  | .symbol "(" :: rest =>
      (arguments nested true rest).map fun ((values, keywords), others) =>
        (some (.call value values keywords), others)
  | .symbol "[" :: rest =>
      (slices nested rest).map fun (index, others) => (some (.subscript value index), others)
  | .symbol "." :: _ => none
  | _ => some (none, lexemes)

/-- All that follows a primary; the number of lexemes is fuel enough. -/
def trailers (nested : Nested) : Nat → Expr → Reader Expr
  | 0, value => pure value
  | fuel + 1, value => do
      match ← trailer nested value with
      | some next => trailers nested fuel next
      | none => return value

def primary (nested : Nested) : Reader Expr := fun lexemes =>
  (atom nested lexemes).bind fun (value, rest) => trailers nested rest.length value rest

-----------------------------------------------------------------------------------------
-- Operators
-----------------------------------------------------------------------------------------

/-- Operands joined by operators of one kind. -/
def joined (operator : Reader Unit) (operand : Reader Expr) : Reader Expr := do
  let first ← operand
  let others ← many do
    operator
    operand
  return if others.isEmpty then first else .operation (first :: others)

def anySymbol (texts : List String) : Reader Unit := do
  let _ ← symbolOf texts

/-- A primary behind any number of signs, awaited or not. -/
def signed (nested : Nested) : Reader Expr := do
  let signs ← many (symbolOf ["+", "-", "~"])
  let awaited ← accept (.keyword "await")
  let value ← primary nested
  let value := if awaited then .await value else value
  return if signs.isEmpty then value else .operation [value]

/-- Signs and powers bind tightest, then products, sums, shifts and the bit operators. -/
def arithmetic (nested : Nested) : Reader Expr :=
  [["|"], ["^"], ["&"], ["<<", ">>"], ["+", "-"], ["*", "/", "//", "%", "@"], ["**"]].foldr
    (fun texts operand => joined (anySymbol texts) operand) (signed nested)

def comparator : Reader Unit :=
  firstOf [
    anySymbol ["==", "!=", "<=", "<", ">=", ">"],
    do keyword "not"; keyword "in",
    keyword "in",
    do keyword "is"; let _ ← accept (.keyword "not")]

def inversion (nested : Nested) : Reader Expr := do
  let negations ← many (keyword "not")
  let value ← joined comparator (arithmetic nested)
  return if negations.isEmpty then value else .operation [value]

def disjunction (nested : Nested) : Reader Expr :=
  joined (keyword "or") (joined (keyword "and") (inversion nested))

-----------------------------------------------------------------------------------------
-- Parameters
-----------------------------------------------------------------------------------------

/-- How far a list of parameters has come. -/
structure Progress where
  found : Parameters := {}
  /-- A positional parameter has a default. -/
  defaulted : Bool := false
  /-- A slash has ended the parameters that are positional only. -/
  slashed : Bool := false
  /-- A star has been read. -/
  starred : Bool := false
  /-- A lone star waits for a parameter. -/
  waiting : Bool := false
  /-- Nothing may follow. -/
  finished : Bool := false

def Progress.add (progress : Progress) (name : String) (type default : Option Expr)
    : Progress :=
  { progress with
    found.names := progress.found.names ++ [name]
    found.types := progress.found.types ++ type.toList
    found.defaults := progress.found.defaults ++ default.toList }

/-- The type of a parameter, where types are allowed. -/
def parameterType (nested : Nested) (annotated : Bool) (starred : Bool) : Reader (Option Expr) := do
  if !annotated then return none
  if !(← accept (.symbol ":")) then return none
  if starred then return some (← unpacked nested nested.expression)
  return some (← nested.expression)

/-- One parameter, slash or star. -/
def parameter (nested : Nested) (annotated : Bool) (progress : Progress) : Reader Progress := do
  if progress.finished then failure
  if ← accept (.symbol "/") then
    if progress.slashed || progress.starred || progress.found.names.isEmpty then failure
    return { progress with slashed := true }
  if ← accept (.symbol "**") then
    let id ← name
    let type ← parameterType nested annotated false
    if progress.waiting then failure
    return { progress.add id type none with finished := true }
  if ← accept (.symbol "*") then
    if progress.starred then failure
    match ← attempt name with
    | some id =>
        let type ← parameterType nested annotated true
        return { progress.add id type none with starred := true }
    | none => return { progress with starred := true, waiting := true }
  let id ← name
  let type ← parameterType nested annotated false
  let default ← if ← accept (.symbol "=") then some <$> nested.expression else pure none
  if default.isNone && progress.defaulted && !progress.starred then failure
  return { progress.add id type default with
    defaulted := progress.defaulted || (default.isSome && !progress.starred), waiting := false }

/-- Parameters up to a closing symbol, which stays; the number of lexemes is fuel enough. -/
def parametersFrom (nested : Nested) (annotated : Bool) (closing : String)
    : Nat → Progress → Reader Progress
  | 0, _ => failure
  | fuel + 1, progress => do
      let next ← parameter nested annotated progress
      if ← accept (.symbol ",") then
        if ← isNext (.symbol closing) then return next
        parametersFrom nested annotated closing fuel next
      else if ← isNext (.symbol closing) then return next
      else failure

/-- The parameters of a function, up to a closing symbol. A lone star cannot be the last
one.
-/
def parameters (nested : Nested) (annotated : Bool) (closing : String) : Reader Parameters := do
  if ← isNext (.symbol closing) then return {}
  let lexemes ← get
  let progress ← parametersFrom nested annotated closing lexemes.length {}
  if progress.waiting then failure
  return progress.found

-----------------------------------------------------------------------------------------
-- Expressions
-----------------------------------------------------------------------------------------

def lambda (nested : Nested) : Reader Expr := do
  keyword "lambda"
  let found ← parameters nested false ":"
  symbol ":"
  return .lambda found.names found.defaults (← nested.expression)

/-- The rest of a conditional expression behind its first operand. -/
def conditional (nested : Nested) (value : Expr) : Reader Expr := do
  keyword "if"
  let test ← disjunction nested
  keyword "else"
  return .operation [value, test, ← nested.expression]

def expression (nested : Nested) : Reader Expr := do
  if ← isNext (.keyword "lambda") then lambda nested
  else
    let value ← disjunction nested
    match ← attempt (conditional nested value) with
    | some whole => return whole
    | none => return value

/-- The readers above the given ones. -/
def above (nested : Nested) : Nested where
  expression := expression nested
  disjunction := disjunction nested
  arithmetic := arithmetic nested
  primary := primary nested

/-- The readers of a level. -/
def level : Nat → Nested
  | 0 => bottom
  | depth + 1 => above (level depth)

end Expression

end LiteralEnum.Target
