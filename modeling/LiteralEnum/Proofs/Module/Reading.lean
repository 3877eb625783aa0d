import LiteralEnum.Module
import LiteralEnum.Target.Lexeme
import LiteralEnum.Target.Literal
import Mathlib.Data.List.Basic

/-! What the definitions of a module mean. A reader goes through their lines, leaves out the
string literals in three quotes, and takes the members of the class and the entries of the
tables, each of them from one line. The methods of the class look up what was read.
-/

namespace LiteralEnum.Module

-----------------------------------------------------------------------------------------
-- Tables
-----------------------------------------------------------------------------------------

/-- A text of the target language. -/
abbrev CodePoints := List Nat

def codePoints (text : String) : CodePoints := text.toList.map Char.toNat

/-- The members of the class with their values, the entries of the lookup table with their
members, the canonical texts, and the members in the tuple of variants.
-/
@[ext]
structure Tables where
  members : List (String × Nat) := []
  entries : List (CodePoints × String) := []
  canonical : List CodePoints := []
  order : List String := []
deriving Repr, DecidableEq

namespace Tables

/-- Tables that are read one after the other. -/
def append (front back : Tables) : Tables where
  members := front.members ++ back.members
  entries := front.entries ++ back.entries
  canonical := front.canonical ++ back.canonical
  order := front.order ++ back.order

instance : Append Tables := ⟨append⟩

/-- The value of a member. -/
def value? (tables : Tables) (member : String) : Option Nat :=
  tables.members.lookup member

/-- The member for a text. A later entry takes the place of an earlier one. -/
def lookup? (tables : Tables) (text : CodePoints) : Option String :=
  tables.entries.reverse.lookup text

def isMatch (tables : Tables) (text : CodePoints) : Bool :=
  tables.entries.any (·.1 = text)

/-- The text at the value of a member. -/
def canonical? (tables : Tables) (member : String) : Option CodePoints :=
  (tables.value? member).bind fun value => tables.canonical[value]?

/-- The index of a member is its value. -/
def index? (tables : Tables) (member : String) : Option Nat :=
  tables.value? member

end Tables

-----------------------------------------------------------------------------------------
-- Entries
-----------------------------------------------------------------------------------------

namespace Reading

/-- A line without its indent, if it is one line. -/
def content? (line : String) : Option (List Char) :=
  if line.toList.any Text.isLineBreak then none
  else some (line.toList.dropWhile (· = ' '))

/-- The name at the start of a text, and the rest. -/
def takeName? (text : List Char) : Option (String × List Char) :=
  let (name, rest) := text.span Text.isNameContinue
  if Text.isName name then some (String.ofList name, rest) else none

/-- The code points that the string literal at the start of a text denotes, and the rest. -/
def takeLiteral? (text : List Char) : Option (CodePoints × List Char) :=
  match Target.Lexeme.takeString? text with
  | some (some (token, rest)) =>
      match Target.Literal.piece? token with
      | some (.text codes) => some (codes, rest)
      | _ => none
  | _ => none

/-- A member of the type with the comma that ends its entry. -/
def reference? (typeName : String) (text : List Char) : Option String := do
  let (owner, rest) ← takeName? text
  let (name, rest) ← takeName? (← rest.dropPrefix? ['.'])
  if owner = typeName && rest = [','] then some name else none

/-- The number that digits denote. -/
def number? (digits : List Char) : Option Nat :=
  if digits.isEmpty || !digits.all Char.isDigit then none else Target.Literal.integerValue? digits

/-- The tables that the reader takes entries from. -/
inductive Table where
  | lookup
  | canonical
  | order
deriving Repr, DecidableEq

/-- The table that is assigned to a name. -/
def Table.named? (name : String) : Option Table :=
  if name = "_LOOKUP" then some .lookup
  else if name = "_CANONICAL" then some .canonical
  else if name = "VARIANTS" then some .order
  else none

/-- The line that closes a table. -/
def Table.closing : Table → String
  | lookup => "\x7d"
  | canonical | order => ")"

/-- What a line adds to a table. -/
def Table.entry? (typeName : String) (table : Table) (line : String) : Option Tables := do
  let text ← content? line
  match table with
  | lookup =>
      let (literal, rest) ← takeLiteral? text
      let name ← reference? typeName (← rest.dropPrefix? [':', ' '])
      return { entries := [(literal, name)] }
  | canonical =>
      let (literal, rest) ← takeLiteral? text
      if rest = [','] then some { canonical := [literal] } else none
  | order => (reference? typeName text).map fun name => { order := [name] }

-----------------------------------------------------------------------------------------
-- Lines
-----------------------------------------------------------------------------------------

/-- Where the reader stands. -/
inductive Place where
  | outside
  | docstring
  | inside (table : Table)
deriving Repr, DecidableEq

/-- The place behind a part of a string literal in three quotes. -/
def placeBehind (text : List Char) : Place :=
  if (Target.closeTriple? '"' [] text).isSome then .outside else .docstring

/-- What a statement on one line says. A name with an annotation opens its table, if it has
one, and a name to which a number is assigned is a member.
-/
def readStatement (text : List Char) : Place × Tables :=
  match takeName? text with
  | some (name, ':' :: _) => ((Table.named? name).elim .outside .inside, {})
  | some (name, ' ' :: '=' :: ' ' :: digits) =>
      (.outside, { members := ((number? digits).map (name, ·)).toList })
  | _ => (.outside, {})

/-- The place behind a line, and what the line says. -/
def readLine? (typeName : String) (place : Place) (line : String) : Option (Place × Tables) :=
  match place with
  | .outside =>
      match line.toList.dropWhile (· = ' ') with
      | '"' :: '"' :: '"' :: text => some (placeBehind text, {})
      | _ => some (((content? line).map readStatement).getD (.outside, {}))
  | .docstring => some (placeBehind line.toList, {})
  | .inside table =>
      if line = table.closing then some (.outside, {})
      else (table.entry? typeName line).map (.inside table, ·)

/-- What lines say, if every entry can be read and no table is left open. -/
def read? (typeName : String) (place : Place) : List String → Option Tables
  | [] => if place = .outside then some {} else none
  | line :: rest => do
      let (next, said) ← readLine? typeName place line
      let more ← read? typeName next rest
      return said ++ more

end Reading

/-- The lines of the class, of the tables and of the tuple of variants. -/
def definitionLines (indent : String) (model : Model) : Except RenderError (List String) := do
  let lookup ← lookupLines indent model
  return classLines indent model ++ lookup ++ canonicalLines indent model.variants
    ++ dataLines indent model ++ variantLines indent model

-----------------------------------------------------------------------------------------
-- Laws of reading
-----------------------------------------------------------------------------------------

namespace Tables

@[simp]
theorem append_members (front back : Tables)
    : (front ++ back).members = front.members ++ back.members := rfl

@[simp]
theorem append_entries (front back : Tables)
    : (front ++ back).entries = front.entries ++ back.entries := rfl

@[simp]
theorem append_canonical (front back : Tables)
    : (front ++ back).canonical = front.canonical ++ back.canonical := rfl

@[simp]
theorem append_order (front back : Tables)
    : (front ++ back).order = front.order ++ back.order := rfl

@[simp]
theorem nil_append (tables : Tables) : ({} : Tables) ++ tables = tables := by
  ext1 <;> simp

@[simp]
theorem append_nil (tables : Tables) : tables ++ ({} : Tables) = tables := by
  ext1 <;> simp

theorem append_assoc (front middle back : Tables)
    : front ++ middle ++ back = front ++ (middle ++ back) := by
  ext1 <;> simp

/-- Tables that are read one after the other, as one. -/
def concat (parts : List Tables) : Tables where
  members := parts.flatMap (·.members)
  entries := parts.flatMap (·.entries)
  canonical := parts.flatMap (·.canonical)
  order := parts.flatMap (·.order)

end Tables

namespace Reading

variable {typeName : String}

/-- Lines lead from one place to another and say the tables, whatever follows them. -/
def Reads (typeName : String) (start : Place) (lines : List String) (next : Place)
    (said : Tables) : Prop :=
  ∀ rest, read? typeName start (lines ++ rest) = (read? typeName next rest).map (said ++ ·)

theorem Reads.nil (place : Place) : Reads typeName place [] place {} := by
  intro rest
  simp

/-- One line, by its own reading. -/
theorem Reads.line {start next : Place} {line : String} {said : Tables}
    (isRead : readLine? typeName start line = some (next, said))
    : Reads typeName start [line] next said := by
  intro rest
  cases more : read? typeName next rest <;> simp [read?, isRead, more]

/-- Lines that follow each other say one thing after the other. -/
theorem Reads.append {start middle next : Place} {front back : List String}
    {saidFirst saidLater : Tables} (isFront : Reads typeName start front middle saidFirst)
    (isBack : Reads typeName middle back next saidLater)
    : Reads typeName start (front ++ back) next (saidFirst ++ saidLater) := by
  intro rest
  rw [List.append_assoc, isFront, isBack, Option.map_map]
  congr 1
  funext more
  exact (Tables.append_assoc saidFirst saidLater more).symm

/-- Parts that come back to their place can be repeated, by induction on the parts. -/
theorem Reads.flatMap {Part : Type} {place : Place} {lines : Part → List String}
    {said : Part → Tables} {parts : List Part}
    (areRead : ∀ part ∈ parts, Reads typeName place (lines part) place (said part))
    : Reads typeName place (parts.flatMap lines) place (Tables.concat (parts.map said)) := by
  induction parts with
  | nil => exact .nil place
  | cons part parts ih =>
      obtain ⟨isRead, areRead⟩ := List.forall_mem_cons.mp areRead
      exact isRead.append (ih areRead)

/-- Parts of one line each. -/
theorem Reads.map {Part : Type} {place : Place} {line : Part → String} {said : Part → Tables}
    {parts : List Part}
    (areRead : ∀ part ∈ parts, readLine? typeName place (line part) = some (place, said part))
    : Reads typeName place (parts.map line) place (Tables.concat (parts.map said)) := by
  rw [List.map_eq_flatMap]
  exact .flatMap fun part member => .line (areRead part member)

/-- What is said when the lines end outside strings and tables. -/
theorem Reads.read? {lines : List String} {said : Tables}
    (isRead : Reads typeName .outside lines .outside said)
    : read? typeName .outside lines = some said := by
  simpa [Reading.read?] using isRead []

end Reading

end LiteralEnum.Module
