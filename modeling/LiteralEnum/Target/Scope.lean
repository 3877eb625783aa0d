import LiteralEnum.Target.Syntax

/-! Scopes of names in a Python module. A walk over the syntax tree lists what happens to
names in order; a run over the list keeps the open scopes and finds the conflicts that can
be seen on the way; the tree of scopes then shows which names of outer scopes are missing.
Types are not evaluated, so what is bound inside a type is bound nowhere.
-/

namespace LiteralEnum.Target

inductive Scope.Kind where
  | module
  | function
  | classBody
  | comprehension (kind : Comprehension)
  | type
deriving Repr, DecidableEq

/-- What happens to names, in the order of the text. -/
inductive Scope.Event where
  | use (name : String)
  | bind (name : String)
  | parameter (name : String)
  | importName (name : String)
  | importAll
  | global (name : String)
  | nonlocal (name : String)
  /-- A name is declared with a type. -/
  | declare (name : String) (simple assigned : Bool)
  /-- A name is bound by an expression. -/
  | assignment (name : String)
  | yields
  | awaits
  /-- A scope opens; in a class body, private names belong to the class. -/
  | enter (kind : Scope.Kind) (owner : Option String)
  | leave
  | enterIterable
  | leaveIterable
  | enterTarget
  | leaveTarget
deriving Repr, DecidableEq

-----------------------------------------------------------------------------------------
-- Events of a syntax tree
-----------------------------------------------------------------------------------------

namespace Scope

mutual

def ofExpr : Expr → List Event
  | .name id => [.use id]
  | .constant _ => []
  | .formatted fields => ofExprs fields
  | .operation operands => ofExprs operands
  | .display _ items => ofExprs items
  | .starred value => ofExpr value
  | .attribute value _ => ofExpr value
  | .subscript value index => ofExpr value ++ ofExpr index
  | .slice bounds => ofExprs bounds
  | .call function arguments _ => ofExpr function ++ ofExprs arguments
  | .lambda parameters defaults body =>
      ofExprs defaults ++ .enter .function none :: parameters.map .parameter
        ++ ofExpr body ++ [.leave]
  | .comprehension kind elements clauses => ofComprehension kind (ofExprs elements) clauses
  | .assignment name value => .assignment name :: ofExpr value ++ [.bind name]
  | .yield value => ofExprs value ++ [.yields]
  | .yieldFrom value => ofExpr value ++ [.yields]
  | .await value => ofExpr value ++ [.awaits]

def ofExprs : List Expr → List Event
  | [] => []
  | item :: rest => ofExpr item ++ ofExprs rest

/-- An expression that is bound or deleted. -/
def ofTarget : Expr → List Event
  | .name id => [.bind id]
  | .display _ items => ofTargets items
  | .starred value => ofTarget value
  | .attribute value _ => ofExpr value
  | .subscript value index => ofExpr value ++ ofExpr index
  | _ => []

def ofTargets : List Expr → List Event
  | [] => []
  | item :: rest => ofTarget item ++ ofTargets rest

/-- The outermost iterable belongs to the scope around the comprehension, all else to a
scope of its own.
-/
def ofComprehension (kind : Comprehension) (elements : List Event) : List Clause → List Event
  | [] => elements
  | .mk _ target iterable conditions :: rest =>
      .enterIterable :: ofExpr iterable ++ .leaveIterable
        :: .enter (.comprehension kind) none :: .enterTarget :: ofTarget target
        ++ .leaveTarget :: ofExprs conditions ++ ofClauses rest ++ elements ++ [.leave]

def ofClauses : List Clause → List Event
  | [] => []
  | .mk _ target iterable conditions :: rest =>
      .enterTarget :: ofTarget target ++ .leaveTarget :: .enterIterable :: ofExpr iterable
        ++ .leaveIterable :: ofExprs conditions ++ ofClauses rest

end

def ofType (type : Expr) : List Event := .enter .type none :: ofExpr type ++ [.leave]

def ofTypes (types : List Expr) : List Event := .enter .type none :: ofExprs types ++ [.leave]

def ofOption (value : Option Expr) : List Event := ofExprs value.toList

def ofPatternConstant : PatternConstant → List Event
  | .other value => ofExpr value
  | _ => []

def ofBound (name : Option String) : List Event := name.toList.map .bind

mutual

def ofPattern : Pattern → List Event
  | .value value => ofPatternConstant value
  | .path value => ofExpr value
  | .singleton | .wildcard => []
  | .capture name => [.bind name]
  | .starred name => ofBound name
  | .sequence items => ofPatterns items
  | .mapping keys values rest =>
      keys.flatMap (fun key => key.toList.flatMap ofPatternConstant) ++ ofPatterns values
        ++ ofBound rest
  | .classOf cls positional _ keyword =>
      ofExpr cls ++ ofPatterns positional ++ ofPatterns keyword
  | .binding pattern name => ofPattern pattern ++ [.bind name]
  | .alternatives patterns => ofPatterns patterns

def ofPatterns : List Pattern → List Event
  | [] => []
  | pattern :: rest => ofPattern pattern ++ ofPatterns rest

end

/-- The name that an import binds. -/
def boundBy (module : Alias) : String := module.bound.getD (module.path.headD "")

mutual

def ofStmt : Stmt → List Event
  | .expression value => ofExpr value
  | .assign targets value => ofTargets targets ++ ofExpr value
  | .augment target value => ofTarget target ++ ofExpr value
  | .annotate target type value simple =>
      (match target with
        | .name id => [.declare id simple value.isSome]
        | other => ofTarget other)
        ++ ofType type ++ ofOption value
  | .delete targets => ofTargets targets
  | .pass | .break | .continue => []
  | .return value => ofOption value
  | .raise values => ofExprs values
  | .assert values => ofExprs values
  | .global names => names.map .global
  | .nonlocal names => names.map .nonlocal
  | .importModules aliases => aliases.map fun module => .importName (boundBy module)
  | .importNames _ aliases => aliases.map fun module => .importName (boundBy module)
  | .importAll _ => [.importAll]
  | .function _ name decorators parameters returns body =>
      .bind name :: ofExprs parameters.defaults ++ ofTypes parameters.types
        ++ ofTypes returns.toList ++ ofExprs decorators ++ .enter .function none
        :: parameters.names.map .parameter ++ ofStmts body ++ [.leave]
  | .classOf name decorators arguments _ body =>
      .bind name :: ofExprs arguments ++ ofExprs decorators ++ .enter .classBody (some name)
        :: ofStmts body ++ [.leave]
  | .conditional test body orelse => ofExpr test ++ ofStmts body ++ ofStmts orelse
  | .whileLoop test body orelse => ofExpr test ++ ofStmts body ++ ofStmts orelse
  | .forLoop _ target iterable body orelse =>
      ofTarget target ++ ofExpr iterable ++ ofStmts body ++ ofStmts orelse
  | .withItems _ contexts targets body =>
      ofExprs contexts ++ ofTargets targets ++ ofStmts body
  | .tryBlock _ body handlers orelse cleanup =>
      ofStmts body ++ ofStmts orelse ++ ofHandlers handlers ++ ofStmts cleanup
  | .matchCases subject cases => ofExpr subject ++ ofCases cases

def ofStmts : List Stmt → List Event
  | [] => []
  | statement :: rest => ofStmt statement ++ ofStmts rest

def ofHandlers : List Handler → List Event
  | [] => []
  | .mk type name body :: rest =>
      ofOption type ++ ofBound name ++ ofStmts body ++ ofHandlers rest

def ofCases : List Case → List Event
  | [] => []
  | .mk pattern guard body :: rest =>
      ofPattern pattern ++ ofOption guard ++ ofStmts body ++ ofCases rest

end

-----------------------------------------------------------------------------------------
-- Open scopes
-----------------------------------------------------------------------------------------

/-- What is known of a name in a scope. -/
structure Mention where
  parameter : Bool := false
  bound : Bool := false
  imported : Bool := false
  used : Bool := false
  declared : Bool := false
  global : Bool := false
  nonlocal : Bool := false
  /-- The name is bound by a loop of the comprehension. -/
  iteration : Bool := false
deriving Repr, DecidableEq

def Mention.merge (a b : Mention) : Mention where
  parameter := a.parameter || b.parameter
  bound := a.bound || b.bound
  imported := a.imported || b.imported
  used := a.used || b.used
  declared := a.declared || b.declared
  global := a.global || b.global
  nonlocal := a.nonlocal || b.nonlocal
  iteration := a.iteration || b.iteration

/-- The scope makes a binding of its own. -/
def Mention.binds (mention : Mention) : Bool :=
  mention.parameter || mention.bound || mention.imported

end Scope

/-- A scope with its names and the scopes inside it. -/
inductive Scope where
  | mk (kind : Scope.Kind) (mentions : List (String × Scope.Mention)) (inner : List Scope)

namespace Scope

/-- A scope that is still open. -/
structure Frame where
  kind : Kind
  mentions : List (String × Mention) := []
  inner : List Scope := []
  /-- The class to which private names belong. -/
  owner : Option String := none
  /-- How many iterables of comprehensions are open. -/
  iterables : Nat := 0
  /-- Names are targets of a comprehension loop. -/
  inTarget : Bool := false

def Frame.close (frame : Frame) : Scope := .mk frame.kind frame.mentions frame.inner

/-- The form of a private name in a class: a name with two underscores before it and not
behind it carries the name of the class.
-/
def privateForm (owner : Option String) (name : String) : String :=
  match owner with
  | none => name
  | some cls =>
      let text := name.toList
      let stem := cls.toList.dropWhile (· = '_')
      if text.take 2 = ['_', '_'] ∧ text.reverse.take 2 ≠ ['_', '_'] ∧ !text.contains '.'
          ∧ stem ≠ [] then
        String.ofList ('_' :: stem ++ text)
      else name

def find (mentions : List (String × Mention)) (name : String) : Mention :=
  ((mentions.find? (·.1 = name)).map (·.2)).getD {}

def replace (name : String) (mention : Mention)
    : List (String × Mention) → List (String × Mention)
  | [] => [(name, mention)]
  | (other, known) :: rest =>
      if other = name then (name, mention) :: rest
      else (other, known) :: replace name mention rest

/-- Adds to what is known of a name. A parameter occurs once, and a loop of a
comprehension does not bind what an expression inside binds outside.
-/
def Frame.mention? (frame : Frame) (owner : Option String) (name : String) (mention : Mention)
    : Option Frame :=
  let form := privateForm owner name
  let known := find frame.mentions form
  let merged := known.merge mention
  if known.parameter && mention.parameter then none
  else if frame.inTarget && (merged.global || merged.nonlocal) then none
  else some { frame with
    mentions := replace form { merged with iteration := merged.iteration || frame.inTarget }
      frame.mentions }

/-- Open scopes, innermost first. -/
abbrev Frames := List Frame

/-- Adds to what the innermost scope knows of a name. -/
def mentionHere? (name : String) (mention : Mention) : Frames → Option Frames
  | [] => none
  | frame :: outer => (frame.mention? frame.owner name mention).map (· :: outer)

/-- Binds a name of an expression in the function or module around all comprehensions, and
tells whether the name is global there. No loop on the way may bind the name, and a class
body cannot be the end.
-/
def bindOutside? (owner : Option String) (name : String) : Frames → Option (Bool × Frames)
  | [] => none
  | frame :: outer =>
      let beyond := (bindOutside? owner name outer).map fun (isGlobal, frames) =>
        (isGlobal, frame :: frames)
      match frame.kind with
      | .comprehension _ => if (find frame.mentions name).iteration then none else beyond
      | .function =>
          (frame.mention? owner name { bound := true }).map fun next =>
            ((find frame.mentions name).global, next :: outer)
      | .module => (frame.mention? owner name { global := true }).map fun next =>
          (true, next :: outer)
      | .classBody => none
      | .type => beyond

def isComprehension : Kind → Bool
  | .comprehension _ => true
  | _ => false

/-- A name is bound by an expression, which a type and an iterable of a comprehension
cannot hold.
-/
def assign? (name : String) : Frames → Option Frames
  | [] => none
  | frame :: outer =>
      if frame.kind = .type ∨ 0 < frame.iterables then none
      else if isComprehension frame.kind then
        (bindOutside? frame.owner name (frame :: outer)).bind fun (isGlobal, frames) =>
          mentionHere? name (if isGlobal then { global := true } else { nonlocal := true }) frames
      else some (frame :: outer)

/-- A declaration of a name as global or not local comes before every other mention. -/
def redirect? (name : String) (mention : Mention) (frames : Frames) : Option Frames :=
  match frames with
  | [] => none
  | frame :: _ =>
      let known := find frame.mentions (privateForm frame.owner name)
      if known.parameter || known.bound || known.used || known.declared then none
      else mentionHere? name mention frames

/-- A name is declared with a type, which in an inner scope a redirected name cannot be. -/
def declare? (name : String) (simple assigned : Bool) (frames : Frames) : Option Frames :=
  match frames with
  | [] => none
  | frame :: _ =>
      let known := find frame.mentions (privateForm frame.owner name)
      if (known.global || known.nonlocal) && frame.kind ≠ .module && simple then none
      else if simple then mentionHere? name { declared := true, bound := true } frames
      else if assigned then mentionHere? name { bound := true } frames
      else some frames

def enter (kind : Kind) (owner : Option String) (frames : Frames) : Frames :=
  let around := frames.head?
  { kind, owner := owner.orElse fun _ => around.bind (·.owner)
    iterables := (around.map (·.iterables)).getD 0 } :: frames

/-- The innermost scope closes. What a type binds is not kept. -/
def leave? : Frames → Option Frames
  | inner :: frame :: outer =>
      if inner.kind = .type then some (frame :: outer)
      else some ({ frame with inner := frame.inner ++ [inner.close] } :: outer)
  | _ => none

def changeHere? (change : Frame → Frame) : Frames → Option Frames
  | [] => none
  | frame :: outer => some (change frame :: outer)

def step? (frames : Frames) : Event → Option Frames
  | .use name => mentionHere? name { used := true } frames
  | .bind name => mentionHere? name { bound := true } frames
  | .parameter name => mentionHere? name { parameter := true } frames
  | .importName name => mentionHere? name { imported := true } frames
  | .importAll => if (frames.head?.map (·.kind)) = some .module then some frames else none
  | .global name => redirect? name { global := true } frames
  | .nonlocal name => redirect? name { nonlocal := true } frames
  | .declare name simple assigned => declare? name simple assigned frames
  | .assignment name => assign? name frames
  | .yields =>
      match frames with
      | frame :: _ =>
          if frame.kind = .type || isComprehension frame.kind then none else some frames
      | [] => none
  | .awaits => if (frames.head?.map (·.kind)) = some .type then none else some frames
  | .enter kind owner => some (enter kind owner frames)
  | .leave => leave? frames
  | .enterIterable =>
      changeHere? (fun frame => { frame with iterables := frame.iterables + 1 }) frames
  | .leaveIterable =>
      changeHere? (fun frame => { frame with iterables := frame.iterables - 1 }) frames
  | .enterTarget => changeHere? (fun frame => { frame with inTarget := true }) frames
  | .leaveTarget => changeHere? (fun frame => { frame with inTarget := false }) frames

/-- The scope of a module, if nothing on the way is a conflict. -/
def ofModule? (statements : List Stmt) : Option Scope :=
  match (ofStmts statements).foldlM step? [{ kind := .module }] with
  | some [frame] => some frame.close
  | _ => none

-----------------------------------------------------------------------------------------
-- Names of outer scopes
-----------------------------------------------------------------------------------------

/-- The names that scopes inside a scope see bound in functions around them. A class hides
its own names from them, but shows itself.
-/
def visibleInside (kind : Kind) (mentions : List (String × Mention)) (outer : List String)
    : List String :=
  let own := (mentions.filter fun (_, mention) => mention.binds && !mention.global
    && !mention.nonlocal).map (·.1)
  let hidden := (mentions.filter fun (_, mention) => mention.global).map (·.1)
  match kind with
  | .module | .type => outer
  | .classBody => "__class__" :: outer
  | .function | .comprehension _ => own ++ outer.filter (fun name => !hidden.contains name)

/-- A name that is not local has a binding in a function around. -/
def resolves (outer : Option (List String)) (mention : String × Mention) : Bool :=
  if mention.2.nonlocal then
    !mention.2.global && (outer.any fun names => names.contains mention.1)
  else true

mutual

/-- In a scope and all scopes inside it, names that are not local have a binding. -/
def isResolved (outer : Option (List String)) : Scope → Bool
  | .mk kind mentions inner =>
      mentions.all (resolves outer)
        && areResolved (some (visibleInside kind mentions (outer.getD []))) inner

def areResolved (outer : Option (List String)) : List Scope → Bool
  | [] => true
  | scope :: rest => isResolved outer scope && areResolved outer rest

end

end Scope

/-- The scopes of a module have no conflict. -/
def scopesAgree (statements : List Stmt) : Bool :=
  (Scope.ofModule? statements).any (Scope.isResolved none)

end LiteralEnum.Target
