/-! Syntax trees of Python modules, with what decides whether a module compiles: names,
bindings, nesting and the kinds of constructs. Operators of every arity are one construct.
-/

namespace LiteralEnum.Target

inductive Constant where
  | none
  | true
  | false
  | ellipsis
  /-- A number as it is written. -/
  | number (text : List Char)
  /-- The code points of a text, which may be surrogates. -/
  | text (codes : List Nat)
  | bytes (codes : List Nat)
deriving Repr, DecidableEq

inductive Display where
  | tuple
  | list
  | set
deriving Repr, DecidableEq

inductive Comprehension where
  | list
  | set
  | dict
  | generator
deriving Repr, DecidableEq

mutual

inductive Expr where
  | name (id : String)
  | constant (value : Constant)
  /-- A text with replacement fields. -/
  | formatted (fields : List Expr)
  /-- Operators, conditionals, comparisons, dictionary displays and slices. -/
  | operation (operands : List Expr)
  | display (kind : Display) (items : List Expr)
  | starred (value : Expr)
  | attribute (value : Expr) (name : String)
  | subscript (value index : Expr)
  | slice (bounds : List Expr)
  /-- Positional arguments and the values of keyword arguments, and the given keywords. -/
  | call (function : Expr) (arguments : List Expr) (keywords : List String)
  | lambda (parameters : List String) (defaults : List Expr) (body : Expr)
  | comprehension (kind : Comprehension) (elements : List Expr) (clauses : List Clause)
  | assignment (name : String) (value : Expr)
  | yield (value : List Expr)
  | yieldFrom (value : Expr)
  | await (value : Expr)

/-- A loop of a comprehension. -/
inductive Clause where
  | mk (isAsync : Bool) (target iterable : Expr) (conditions : List Expr)

end

instance : Inhabited Expr := ⟨.constant .none⟩

/-- A constant of a pattern: a signed real part and an imaginary part, or no number. -/
inductive PatternConstant where
  | number (negative : Bool) (real : List Char)
  | complex (negative : Bool) (real : List Char) (subtracted : Bool) (imaginary : List Char)
  | other (value : Expr)

inductive Pattern where
  | value (value : PatternConstant)
  /-- A dotted name. -/
  | path (value : Expr)
  /-- None, True or False. -/
  | singleton
  | wildcard
  | capture (name : String)
  | starred (name : Option String)
  | sequence (items : List Pattern)
  /-- The keys are constants or dotted names; `rest` takes what is left. -/
  | mapping (keys : List (Option PatternConstant)) (values : List Pattern) (rest : Option String)
  | classOf (cls : Expr) (positional : List Pattern) (attributes : List String)
      (keyword : List Pattern)
  | binding (pattern : Pattern) (name : String)
  | alternatives (patterns : List Pattern)

structure Alias where
  /-- The parts of a dotted name. -/
  path : List String
  bound : Option String
deriving Repr, DecidableEq

structure Parameters where
  names : List String := []
  defaults : List Expr := []
  types : List Expr := []

mutual

inductive Stmt where
  | expression (value : Expr)
  | assign (targets : List Expr) (value : Expr)
  | augment (target value : Expr)
  /-- A declared type; `simple` if the target is a name without parentheses. -/
  | annotate (target type : Expr) (value : Option Expr) (simple : Bool)
  | delete (targets : List Expr)
  | pass
  | break
  | continue
  | return (value : Option Expr)
  | raise (values : List Expr)
  | assert (values : List Expr)
  | global (names : List String)
  | nonlocal (names : List String)
  | importModules (aliases : List Alias)
  | importNames (module : Option String) (aliases : List Alias)
  | importAll (module : Option String)
  | function (isAsync : Bool) (name : String) (decorators : List Expr) (parameters : Parameters)
      (returns : Option Expr) (body : List Stmt)
  | classOf (name : String) (decorators arguments : List Expr) (keywords : List String)
      (body : List Stmt)
  | conditional (test : Expr) (body orelse : List Stmt)
  | whileLoop (test : Expr) (body orelse : List Stmt)
  | forLoop (isAsync : Bool) (target iterable : Expr) (body orelse : List Stmt)
  /-- Context values, the targets of those that have one, and the body. -/
  | withItems (isAsync : Bool) (contexts targets : List Expr) (body : List Stmt)
  | tryBlock (isGroup : Bool) (body : List Stmt) (handlers : List Handler)
      (orelse cleanup : List Stmt)
  | matchCases (subject : Expr) (cases : List Case)

inductive Handler where
  | mk (type : Option Expr) (name : Option String) (body : List Stmt)

inductive Case where
  | mk (pattern : Pattern) (guard : Option Expr) (body : List Stmt)

end

end LiteralEnum.Target
