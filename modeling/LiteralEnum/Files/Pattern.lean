/-! Patterns for names: a star for any text, a question mark for any character, and sets
of characters in square brackets.
-/

namespace LiteralEnum.Files

namespace Pattern

inductive Item where
  | one (c : Char)
  | any
  | anyText
  /-- A character in one of the ranges, or in none of them. -/
  | set (isNegated : Bool) (ranges : List (Char × Char))
deriving Repr, DecidableEq

-----------------------------------------------------------------------------------------
-- Sets
-----------------------------------------------------------------------------------------

/-- Takes the given character if it is next. -/
def takeIf (c : Char) : List Char → List Char × List Char
  | next :: rest => if next = c then ([c], rest) else ([], next :: rest)
  | [] => ([], [])

/-- What stands in brackets, and what follows them. The opening one has been taken. A
closing bracket is a member if it comes first.
-/
def brackets? (text : List Char) : Option (List Char × List Char) :=
  let (mark, text) := takeIf '!' text
  let (first, text) := takeIf ']' text
  match text.span (· ≠ ']') with
  | (inner, _ :: rest) => some (mark ++ first ++ inner, rest)
  | (_, []) => none

/-- The parts of a set between the hyphens of its ranges. A part has at least `least`
characters; the number of characters is fuel enough.
-/
def parts (least : Nat) : Nat → List Char → List (List Char)
  | 0, text => [text]
  | fuel + 1, text =>
      match (text.drop least).span (· ≠ '-') with
      | (more, _ :: rest) => (text.take least ++ more) :: parts 2 fuel rest
      | (_, []) => [text]

/-- A hyphen at the end is a member. -/
def closeParts (found : List (List Char)) : List (List Char) :=
  match found.reverse with
  | [] :: last :: before => ((last ++ ['-']) :: before).reverse
  | _ => found

/-- Two parts with an empty range between them become one without the range. -/
def addPart (part : List Char) : List (List Char) → List (List Char)
  | [] => [part]
  | next :: rest =>
      match part.getLast?, next.head? with
      | some low, some high =>
          if high < low then (part.dropLast ++ next.tail) :: rest else part :: next :: rest
      | _, _ => part :: next :: rest

def single (c : Char) : Char × Char := (c, c)

/-- The ranges of parts: from the last character of one to the first of the next, and all
others.
-/
def rangesOf : List (List Char) → List (Char × Char)
  | [] => []
  | [part] => part.map single
  | part :: next :: rest =>
      match part.getLast?, next.head? with
      | some low, some high =>
          part.dropLast.map single ++ (low, high) :: rangesOf (next.tail :: rest)
      | _, _ => part.map single ++ rangesOf (next :: rest)
termination_by found => found.length

/-- The set in brackets. A mark of exclamation in front excludes its members. -/
def setOf (text : List Char) : Item :=
  let least := if text.head? = some '!' then 2 else 1
  let found := if text.contains '-' then
      (closeParts (parts least text.length text)).foldr addPart [] else [text]
  match found with
  | ('!' :: part) :: rest => .set true (rangesOf (part :: rest))
  | found => .set false (rangesOf found)

-----------------------------------------------------------------------------------------
-- Reading and matching
-----------------------------------------------------------------------------------------

/-- The items of a pattern; the number of characters is fuel enough. A bracket that is not
closed stands for itself.
-/
def read : Nat → List Char → List Item
  | 0, _ => []
  | _, [] => []
  | fuel + 1, c :: rest =>
      if c = '*' then .anyText :: read fuel rest
      else if c = '?' then .any :: read fuel rest
      else if c = '[' then
        match brackets? rest with
        | some (inner, after) => setOf inner :: read fuel after
        | none => .one '[' :: read fuel rest
      else .one c :: read fuel rest

/-- A single character that an item stands for. -/
def Item.allows (item : Item) (c : Char) : Bool :=
  match item with
  | .one wanted => c = wanted
  | .any | .anyText => true
  | .set isNegated ranges =>
      ranges.any (fun range => range.1 ≤ c && c ≤ range.2) != isNegated

/-- The items match what some rest of the text starts; `test` decides for each rest. -/
def someRest (test : List Char → Bool) : List Char → Bool
  | [] => test []
  | c :: rest => test (c :: rest) || someRest test rest

/-- The items match the whole text. -/
def matchItems : List Item → List Char → Bool
  | [], text => text.isEmpty
  | .anyText :: items, text => someRest (matchItems items) text
  | item :: items, c :: rest => item.allows c && matchItems items rest
  | _ :: _, [] => false

end Pattern

/-- The whole name matches the pattern. -/
def matchesPattern (pattern name : String) : Bool :=
  Pattern.matchItems (Pattern.read pattern.length pattern.toList) name.toList

/-- The pattern has to be matched; otherwise it is a name. -/
def isPattern (text : String) : Bool :=
  text.toList.any fun c => c = '*' || c = '?' || c = '['

end LiteralEnum.Files
