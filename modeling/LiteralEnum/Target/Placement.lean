import LiteralEnum.Target.Literal
import LiteralEnum.Target.Scope
import LiteralEnum.Target.Statement

/-! Where the constructs of Python may stand: what needs a loop, a function or an
asynchronous function, where stars are allowed, which names cannot be bound, and how deep
blocks may nest. Types are not evaluated, and only have to be printable.
-/

namespace LiteralEnum.Target.Placement

inductive Kind where
  | module
  | classBody
  | function
  | asyncFunction
  | lambda
  | comprehension
deriving Repr, DecidableEq

/-- What a block is to statements that leave it. -/
inductive Block where
  | loop
  | groupHandler
  | plain
deriving Repr, DecidableEq

structure Context where
  kind : Kind
  /-- The function around yields values. -/
  isGenerator : Bool := false
  /-- The blocks around, innermost first. -/
  blocks : List Block := []
deriving Repr, DecidableEq

/-- The most blocks inside each other. -/
def maxBlocks : Nat := 20

/-- The context of a block inside, if it is not too deep. -/
def Context.inside? (context : Context) (block : Block) : Option Context :=
  if context.blocks.length < maxBlocks then
    some { context with blocks := block :: context.blocks }
  else none

/-- A name that can be bound. -/
def isBindable (name : String) : Bool := name ≠ "__debug__"

/-- Keywords that occur once each and can be bound. -/
def areDistinct : List String → Bool
  | [] => true
  | name :: rest => isBindable name && !rest.contains name && areDistinct rest

-----------------------------------------------------------------------------------------
-- Asynchronous comprehensions
-----------------------------------------------------------------------------------------

mutual

/-- The expression waits, outside scopes of its own. -/
def awaits : Expr → Bool
  | .name _ | .constant _ => false
  | .formatted fields => anyAwaits fields
  | .operation operands => anyAwaits operands
  | .display _ items => anyAwaits items
  | .starred value => awaits value
  | .attribute value _ => awaits value
  | .subscript value index => awaits value || awaits index
  | .slice bounds => anyAwaits bounds
  | .call function arguments _ => awaits function || anyAwaits arguments
  | .lambda _ defaults _ => anyAwaits defaults
  | .comprehension kind elements clauses =>
      firstIterableAwaits clauses
        || (kind ≠ .generator && (anyAwaits elements || clausesAwait true clauses))
  | .assignment _ value => awaits value
  | .yield value => anyAwaits value
  | .yieldFrom value => awaits value
  | .await _ => true

def anyAwaits : List Expr → Bool
  | [] => false
  | item :: rest => awaits item || anyAwaits rest

def firstIterableAwaits : List Clause → Bool
  | [] => false
  | .mk _ _ iterable _ :: _ => awaits iterable

/-- A loop of a comprehension waits within its scope, to which the first iterable does not
belong.
-/
def clausesAwait (first : Bool) : List Clause → Bool
  | [] => false
  | .mk isAsync target iterable conditions :: rest =>
      isAsync || awaits target || (!first && awaits iterable) || anyAwaits conditions
        || clausesAwait false rest

end

/-- The comprehension waits within its own scope. -/
def isAsynchronous (elements : List Expr) (clauses : List Clause) : Bool :=
  anyAwaits elements || clausesAwait true clauses

def countAsync : List Clause → Nat
  | [] => 0
  | .mk isAsync _ _ _ :: rest => (if isAsync then 1 else 0) + countAsync rest

-----------------------------------------------------------------------------------------
-- Expressions
-----------------------------------------------------------------------------------------

def isStarred : Expr → Bool
  | .starred _ => true
  | _ => false

/-- At most one of the targets is starred, and not too many stand before it. -/
def oneStar (items : List Expr) : Bool :=
  let before := (items.takeWhile fun item => !isStarred item).length
  before = items.length || (before < 256 && !((items.drop (before + 1)).any isStarred))

/-- A comprehension that waits has to stand in a context that can wait, or in one that
generates.
-/
def mayWait (context : Context) (kind : Comprehension) : Bool :=
  kind = .generator || context.kind = .asyncFunction || context.kind = .comprehension

mutual

/-- An expression that is evaluated. -/
def placed (context : Context) : Expr → Bool
  | .name _ | .constant _ => true
  | .formatted fields => allPlaced context fields
  | .operation operands => allPlaced context operands
  | .display _ items => allUnpacked context items
  | .starred _ => false
  | .attribute value _ => placed context value
  | .subscript value index => placed context value && placed context index
  | .slice bounds => allPlaced context bounds
  | .call function arguments keywords =>
      placed context function && allUnpacked context arguments && areDistinct keywords
  | .lambda parameters defaults body =>
      parameters.all isBindable && allPlaced context defaults && placed ⟨.lambda, false, []⟩ body
  | .comprehension kind elements clauses =>
      (mayWait context kind || !isAsynchronous elements clauses)
        && countAsync clauses ≤ maxBlocks
        && clausesPlaced context true clauses
        && allPlaced ⟨.comprehension, false, []⟩ elements
  | .assignment name value => isBindable name && placed context value
  | .yield value =>
      (context.kind = .function || context.kind = .asyncFunction || context.kind = .lambda)
        && allPlaced context value
  | .yieldFrom value =>
      (context.kind = .function || context.kind = .lambda) && placed context value
  | .await value =>
      (context.kind = .asyncFunction || context.kind = .comprehension) && placed context value

def allPlaced (context : Context) : List Expr → Bool
  | [] => true
  | item :: rest => placed context item && allPlaced context rest

/-- Items of which each may be an unpacked iterable. -/
def allUnpacked (context : Context) : List Expr → Bool
  | [] => true
  | .starred value :: rest => placed context value && allUnpacked context rest
  | item :: rest => placed context item && allUnpacked context rest

/-- The first iterable is evaluated outside the comprehension. -/
def clausesPlaced (context : Context) (first : Bool) : List Clause → Bool
  | [] => true
  | .mk _ target iterable conditions :: rest =>
      let own : Context := ⟨.comprehension, false, []⟩
      targetPlaced own target
        && (if first then placed context iterable else placed own iterable)
        && allPlaced own conditions && clausesPlaced context false rest

/-- An expression to which a value is assigned. -/
def targetPlaced (context : Context) : Expr → Bool
  | .name id => isBindable id
  | .attribute value name => placed context value && isBindable name
  | .subscript value index => placed context value && placed context index
  | .display _ items => oneStar items && targetsPlaced context items
  | _ => false

def targetsPlaced (context : Context) : List Expr → Bool
  | [] => true
  | .starred value :: rest => targetPlaced context value && targetsPlaced context rest
  | item :: rest => targetPlaced context item && targetsPlaced context rest

end

mutual

/-- An expression that is deleted. -/
def deletionPlaced (context : Context) : Expr → Bool
  | .name id => isBindable id
  | .attribute value name => placed context value && isBindable name
  | .subscript value index => placed context value && placed context index
  | .display _ items => deletionsPlaced context items
  | _ => false

def deletionsPlaced (context : Context) : List Expr → Bool
  | [] => true
  | item :: rest => deletionPlaced context item && deletionsPlaced context rest

end

/-- The target of an operator assignment. An attribute may have any name. -/
def augmentPlaced (context : Context) : Expr → Bool
  | .name id => isBindable id
  | .attribute value _ => placed context value
  | .subscript value index => placed context value && placed context index
  | _ => false

/-- Subscripts of a target that is declared and not assigned; none of them is starred. -/
def subscriptPlaced (context : Context) : Expr → Bool
  | .display .tuple items => allSubscripts items
  | other => placed context other
where
  allSubscripts : List Expr → Bool
    | [] => true
    | item :: rest => subscriptPlaced context item && allSubscripts rest

/-- A target that is declared and not assigned. -/
def declarationPlaced (context : Context) : Expr → Bool
  | .name id => isBindable id
  | .attribute value name => placed context value && isBindable name
  | .subscript value index => placed context value && subscriptPlaced context index
  | _ => false

-----------------------------------------------------------------------------------------
-- Types
-----------------------------------------------------------------------------------------

/-- A whole number in a type is short enough to be printed in decimal. -/
def isPrintable : Constant → Bool
  | .number text => (Literal.integerValue? text).all fun value =>
      value < Nat.pow 10 Text.maxIntegerDigits
  | _ => true

mutual

def typePrintable : Expr → Bool
  | .name _ => true
  | .constant value => isPrintable value
  | .formatted fields => typesPrintable fields
  | .operation operands => typesPrintable operands
  | .display _ items => typesPrintable items
  | .starred value => typePrintable value
  | .attribute value _ => typePrintable value
  | .subscript value index => typePrintable value && typePrintable index
  | .slice bounds => typesPrintable bounds
  | .call function arguments _ => typePrintable function && typesPrintable arguments
  | .lambda _ defaults body => typesPrintable defaults && typePrintable body
  | .comprehension _ elements clauses => typesPrintable elements && clausesPrintable clauses
  | .assignment _ value => typePrintable value
  | .yield value => typesPrintable value
  | .yieldFrom value => typePrintable value
  | .await value => typePrintable value

def typesPrintable : List Expr → Bool
  | [] => true
  | item :: rest => typePrintable item && typesPrintable rest

def clausesPrintable : List Clause → Bool
  | [] => true
  | .mk _ target iterable conditions :: rest =>
      typePrintable target && typePrintable iterable && typesPrintable conditions
        && clausesPrintable rest

end

-----------------------------------------------------------------------------------------
-- Patterns
-----------------------------------------------------------------------------------------

/-- The value of a key, as far as keys are compared. -/
inductive KeyValue where
  | number (real imaginary : Literal.Decimal)
  | text (codes : List Nat)
  | bytes (codes : List Nat)
  | none
deriving Repr, DecidableEq

def zero : Literal.Decimal := ⟨0, 0⟩

def negate (negative : Bool) (value : Literal.Decimal) : Literal.Decimal :=
  if negative then ⟨-value.mantissa, value.exponent⟩ else value

def numberValue (negative : Bool) (text : List Char) : KeyValue :=
  let value := negate negative (Literal.decimalValue text)
  if Literal.isImaginary text then .number zero value else .number value zero

/-- The value of a constant; a text with replacement fields has none. -/
def keyValue? : PatternConstant → Option KeyValue
  | .number negative text => some (numberValue negative text)
  | .complex negative real subtracted imaginary =>
      some (.number (negate negative (Literal.decimalValue real))
        (negate subtracted (Literal.decimalValue imaginary)))
  | .other (.constant .none) => some .none
  | .other (.constant .true) => some (.number ⟨1, 0⟩ zero)
  | .other (.constant .false) => some (.number zero zero)
  | .other (.constant (.text codes)) => some (.text codes)
  | .other (.constant (.bytes codes)) => some (.bytes codes)
  | .other _ => none

/-- Keys are constants that differ, or dotted names. -/
def keysDiffer (keys : List (Option PatternConstant)) : Bool :=
  go [] keys
where
  go (seen : List KeyValue) : List (Option PatternConstant) → Bool
    | [] => true
    | none :: rest => go seen rest
    | some constant :: rest =>
        match keyValue? constant with
        | none => false
        | some value => !seen.contains value && go (value :: seen) rest

/-- The names that a pattern has bound so far, with one more that is not among them. -/
def store? (names : List String) (name : String) : Option (List String) :=
  if isBindable name && !names.contains name then some (names ++ [name]) else none

def storeAll? (names : List String) (others : List String) : Option (List String) :=
  others.foldlM store? names

def isStarPattern : Pattern → Bool
  | .starred _ => true
  | _ => false

def isWildcard : Pattern → Bool
  | .wildcard => true
  | .starred none => true
  | _ => false

/-- At most one pattern is starred, and not too many stand before one that keeps the
others.
-/
def oneStarPattern (items : List Pattern) : Bool :=
  let before := (items.takeWhile fun item => !isStarPattern item).length
  before = items.length
    || (!((items.drop (before + 1)).any isStarPattern)
      && (before < 256 || items.all isWildcard || ((items[before]?).any isWildcard)))

def sameNames (a b : List String) : Bool :=
  a.length = b.length && a.all b.contains

mutual

/-- The names bound by a pattern and before it. Where something can follow, the pattern
must not match everything.
-/
def bindings? (last : Bool) (names : List String) : Pattern → Option (List String)
  | .value value => if (keyValue? value).isSome then some names else none
  | .path _ => some names
  | .singleton => some names
  | .wildcard => if last then some names else none
  | .capture name => if last then store? names name else none
  | .starred name => storeAll? names name.toList
  | .sequence items => if oneStarPattern items then allBindings? names items else none
  | .mapping keys values rest =>
      if keysDiffer keys then
        (allBindings? names values).bind fun found => storeAll? found rest.toList
      else none
  | .classOf _ positional attributes keyword =>
      if areDistinct attributes then
        (allBindings? names positional).bind fun found => allBindings? found keyword
      else none
  | .binding pattern name => (bindings? last names pattern).bind fun found => store? found name
  | .alternatives patterns =>
      (alternativeBindings? last patterns).bind fun found => storeAll? names found

/-- Patterns inside a pattern may match everything. -/
def allBindings? (names : List String) : List Pattern → Option (List String)
  | [] => some names
  | pattern :: rest => (bindings? true names pattern).bind fun found => allBindings? found rest

/-- Alternatives bind the same names; only the last may match everything. -/
def alternativeBindings? (last : Bool) : List Pattern → Option (List String)
  | [] => some []
  | [pattern] => bindings? last [] pattern
  | pattern :: rest =>
      (bindings? false [] pattern).bind fun first =>
        (alternativeBindings? last rest).bind fun others =>
          if sameNames first others then some first else none

end

def patternAllowed (last : Bool) (pattern : Pattern) : Bool :=
  (bindings? last [] pattern).isSome

-----------------------------------------------------------------------------------------
-- Statements
-----------------------------------------------------------------------------------------

mutual

/-- The expression yields, outside scopes of its own. -/
def yields : Expr → Bool
  | .name _ | .constant _ => false
  | .formatted fields => anyYields fields
  | .operation operands => anyYields operands
  | .display _ items => anyYields items
  | .starred value => yields value
  | .attribute value _ => yields value
  | .subscript value index => yields value || yields index
  | .slice bounds => anyYields bounds
  | .call function arguments _ => yields function || anyYields arguments
  | .lambda _ defaults _ => anyYields defaults
  | .comprehension _ _ clauses => firstIterableYields clauses
  | .assignment _ value => yields value
  | .yield _ | .yieldFrom _ => true
  | .await value => yields value

def anyYields : List Expr → Bool
  | [] => false
  | item :: rest => yields item || anyYields rest

def firstIterableYields : List Clause → Bool
  | [] => false
  | .mk _ _ iterable _ :: _ => yields iterable

end

mutual

/-- The statement yields, outside functions and classes of its own. -/
def stmtYields : Stmt → Bool
  | .expression value => yields value
  | .assign targets value => anyYields targets || yields value
  | .augment target value => yields target || yields value
  | .annotate target _ value _ => yields target || anyYields value.toList
  | .delete targets => anyYields targets
  | .pass | .break | .continue => false
  | .return value => anyYields value.toList
  | .raise values => anyYields values
  | .assert values => anyYields values
  | .global _ | .nonlocal _ | .importModules _ | .importNames _ _ | .importAll _ => false
  | .function _ _ decorators parameters _ _ => anyYields decorators || anyYields parameters.defaults
  | .classOf _ decorators arguments _ _ => anyYields decorators || anyYields arguments
  | .conditional test body orelse => yields test || stmtsYield body || stmtsYield orelse
  | .whileLoop test body orelse => yields test || stmtsYield body || stmtsYield orelse
  | .forLoop _ target iterable body orelse =>
      yields target || yields iterable || stmtsYield body || stmtsYield orelse
  | .withItems _ contexts targets body =>
      anyYields contexts || anyYields targets || stmtsYield body
  | .tryBlock _ body handlers orelse cleanup =>
      stmtsYield body || handlersYield handlers || stmtsYield orelse || stmtsYield cleanup
  | .matchCases subject cases => yields subject || casesYield cases

def stmtsYield : List Stmt → Bool
  | [] => false
  | statement :: rest => stmtYields statement || stmtsYield rest

def handlersYield : List Handler → Bool
  | [] => false
  | .mk type _ body :: rest => anyYields type.toList || stmtsYield body || handlersYield rest

def casesYield : List Case → Bool
  | [] => false
  | .mk _ guard body :: rest => anyYields guard.toList || stmtsYield body || casesYield rest

end

/-- A statement that leaves the innermost loop has one, and does not leave a handler of
groups.
-/
def leavesLoop : List Block → Bool
  | [] => false
  | .loop :: _ => true
  | .groupHandler :: _ => false
  | .plain :: rest => leavesLoop rest

/-- A return leaves a function, but no handler of groups; a generator that can wait
returns no value.
-/
def returnPlaced (context : Context) (value : Option Expr) : Bool :=
  (context.kind = .function || context.kind = .asyncFunction)
    && !context.blocks.contains .groupHandler
    && !(value.isSome && context.kind = .asyncFunction && context.isGenerator)

/-- What is asynchronous stands in an asynchronous function. -/
def asyncPlaced (context : Context) (isAsync : Bool) : Bool :=
  !isAsync || context.kind = .asyncFunction

/-- Contexts and targets, each inside the blocks of those before it. -/
def insideAll? (context : Context) : Nat → Option Context
  | 0 => some context
  | count + 1 => (context.inside? .plain).bind fun inner => insideAll? inner count

/-- A default handler is the last one. -/
def defaultLast : List Handler → Bool
  | [] => true
  | [_] => true
  | .mk type _ _ :: rest => type.isSome && defaultLast rest

mutual

def stmtPlaced (context : Context) : Stmt → Bool
  | .expression value => placed context value
  | .assign targets value =>
      placed context value && targets.all (targetPlaced context)
  | .augment target value => augmentPlaced context target && placed context value
  | .annotate target type value simple =>
      (match value with
        | some assigned => placed context assigned && targetPlaced context target
        | none => declarationPlaced context target)
        && (!(simple && (context.kind = .module || context.kind = .classBody))
          || typePrintable type)
  | .delete targets => deletionsPlaced context targets
  | .pass => true
  | .break => leavesLoop context.blocks
  | .continue => leavesLoop context.blocks
  | .return value => returnPlaced context value && allPlaced context value.toList
  | .raise values => allPlaced context values
  | .assert values => allPlaced context values
  | .global _ | .nonlocal _ => true
  | .importModules aliases => aliases.all fun module => isBindable (Scope.boundBy module)
  | .importNames _ aliases => aliases.all fun module => isBindable (Scope.boundBy module)
  | .importAll _ => true
  | .function isAsync name decorators parameters returns body =>
      isBindable name && allPlaced context decorators
        && allPlaced context parameters.defaults
        && parameters.names.all isBindable
        && typesPrintable parameters.types && typesPrintable returns.toList
        && stmtsPlaced
          ⟨if isAsync then .asyncFunction else .function, stmtsYield body, []⟩ body
  | .classOf name decorators arguments keywords body =>
      isBindable name && allPlaced context decorators && allUnpacked context arguments
        && areDistinct keywords && stmtsPlaced ⟨.classBody, false, []⟩ body
  | .conditional test body orelse =>
      placed context test && stmtsPlaced context body && stmtsPlaced context orelse
  | .whileLoop test body orelse =>
      match context.inside? .loop with
      | none => false
      | some inner =>
          placed context test && stmtsPlaced inner body && stmtsPlaced context orelse
  | .forLoop isAsync target iterable body orelse =>
      match context.inside? .loop with
      | none => false
      | some inner =>
          asyncPlaced context isAsync && placed context iterable && targetPlaced context target
            && stmtsPlaced inner body && stmtsPlaced context orelse
  | .withItems isAsync contexts targets body =>
      match insideAll? context contexts.length with
      | none => false
      | some inner =>
          asyncPlaced context isAsync && allPlaced context contexts
            && targets.all (targetPlaced context) && stmtsPlaced inner body
  | .tryBlock isGroup body handlers orelse cleanup =>
      let outer? := if cleanup.isEmpty then some context else context.inside? .plain
      match outer? with
      | none => false
      | some outer =>
          (if handlers.isEmpty then stmtsPlaced outer body
            else
              match outer.inside? .plain,
                (outer.inside? (if isGroup then .groupHandler else .plain)).bind
                  (·.inside? .plain) with
              | some tried, some handling =>
                  (isGroup || defaultLast handlers) && stmtsPlaced tried body
                    && handlersPlaced outer handling handlers && stmtsPlaced outer orelse
              | _, _ => false)
            && stmtsPlaced outer cleanup
  | .matchCases subject cases => placed context subject && casesPlaced context cases

def stmtsPlaced (context : Context) : List Stmt → Bool
  | [] => true
  | statement :: rest => stmtPlaced context statement && stmtsPlaced context rest

def handlersPlaced (outer handling : Context) : List Handler → Bool
  | [] => true
  | .mk type name body :: rest =>
      allPlaced outer type.toList && name.all isBindable && stmtsPlaced handling body
        && handlersPlaced outer handling rest

/-- A last case that takes everything ends more than one case. -/
def casesPlaced (context : Context) : List Case → Bool
  | [] => true
  | .mk pattern guard body :: rest =>
      patternAllowed (guard.isSome || rest.isEmpty) pattern
        && allPlaced context guard.toList && stmtsPlaced context body
        && casesPlaced context rest

end

-----------------------------------------------------------------------------------------
-- Features
-----------------------------------------------------------------------------------------

/-- Features that a module can ask for. -/
def features : List String :=
  ["nested_scopes", "generators", "division", "absolute_import", "with_statement",
   "print_function", "unicode_literals", "barry_as_FLUFL", "generator_stop", "annotations"]

def asksFeatures : Option String → Bool
  | some module => module = "__future__"
  | none => false

mutual

/-- Nothing in the statement asks for features. -/
def asksNothing : Stmt → Bool
  | .importNames module _ => !asksFeatures module
  | .importAll module => !asksFeatures module
  | .function _ _ _ _ _ body => allAskNothing body
  | .classOf _ _ _ _ body => allAskNothing body
  | .conditional _ body orelse => allAskNothing body && allAskNothing orelse
  | .whileLoop _ body orelse => allAskNothing body && allAskNothing orelse
  | .forLoop _ _ _ body orelse => allAskNothing body && allAskNothing orelse
  | .withItems _ _ _ body => allAskNothing body
  | .tryBlock _ body handlers orelse cleanup =>
      allAskNothing body && handlersAskNothing handlers && allAskNothing orelse
        && allAskNothing cleanup
  | .matchCases _ cases => casesAskNothing cases
  | _ => true

def allAskNothing : List Stmt → Bool
  | [] => true
  | statement :: rest => asksNothing statement && allAskNothing rest

def handlersAskNothing : List Handler → Bool
  | [] => true
  | .mk _ _ body :: rest => allAskNothing body && handlersAskNothing rest

def casesAskNothing : List Case → Bool
  | [] => true
  | .mk _ _ body :: rest => allAskNothing body && casesAskNothing rest

end

/-- Features are known, and asked for before everything but texts and other such requests.
-/
def featuresPlaced : List Stmt → Bool
  | [] => true
  | .expression (.constant (.text _)) :: rest => featuresPlaced rest
  | .importNames module aliases :: rest =>
      if asksFeatures module then
        aliases.all (fun module => features.contains (module.path.headD "")) && featuresPlaced rest
      else allAskNothing rest
  | statement :: rest => asksNothing statement && allAskNothing rest

end Placement

/-- Every construct of a module stands where it may. -/
def constructsPlaced (statements : List Stmt) : Bool :=
  Placement.stmtsPlaced ⟨.module, false, []⟩ statements && Placement.featuresPlaced statements

/-- A text is a module that the compiler takes, when types are not evaluated. -/
def compiles (text : List Char) : Bool :=
  (parseModule? text).any fun statements => scopesAgree statements && constructsPlaced statements

end LiteralEnum.Target
