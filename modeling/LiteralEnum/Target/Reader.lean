import LiteralEnum.Target.Lexeme

/-! Readers of lexemes. A reader takes lexemes from the front, or fails; a choice between
readers goes to the first that does not fail.
-/

namespace LiteralEnum.Target

abbrev Reader := StateT (List Lexeme) Option

namespace Reader

/-- The result of a reader, or nothing if it fails; then no lexeme is taken. -/
def attempt {α : Type} (reader : Reader α) : Reader (Option α) := fun lexemes =>
  match reader lexemes with
  | some (value, rest) => some (some value, rest)
  | none => some (none, lexemes)

/-- The first reader that does not fail. -/
def firstOf {α : Type} : List (Reader α) → Reader α
  | [] => fun _ => none
  | reader :: others => fun lexemes =>
      match reader lexemes with
      | some found => some found
      | none => firstOf others lexemes

/-- Results of a reader until it fails, or takes nothing. -/
def many {α : Type} (reader : Reader α) : Reader (List α) := fun lexemes =>
  some (go lexemes.length lexemes)
where
  go : Nat → List Lexeme → List α × List Lexeme
    | 0, lexemes => ([], lexemes)
    | fuel + 1, lexemes =>
        match reader lexemes with
        | some (value, rest) =>
            let (values, others) := go fuel rest
            (value :: values, others)
        | none => ([], lexemes)

/-- The next lexeme is the given one; it stays. -/
def isNext (lexeme : Lexeme) : Reader Bool := fun lexemes =>
  some (lexemes.head? = some lexeme, lexemes)

/-- Takes the given lexeme. -/
def expect (lexeme : Lexeme) : Reader Unit
  | next :: rest => if next = lexeme then some ((), rest) else none
  | [] => none

/-- Takes the given lexeme if it is next, and tells whether it was. -/
def accept (lexeme : Lexeme) : Reader Bool
  | next :: rest => if next = lexeme then some (true, rest) else some (false, next :: rest)
  | [] => some (false, [])

def symbol (text : String) : Reader Unit := expect (.symbol text)

def keyword (word : String) : Reader Unit := expect (.keyword word)

/-- Takes a name. -/
def name : Reader String
  | .name form :: rest => some (form, rest)
  | _ => none

/-- Takes one of the given symbols. -/
def symbolOf (texts : List String) : Reader String
  | .symbol text :: rest => if texts.contains text then some (text, rest) else none
  | _ => none

/-- Results separated by commas, at least one, and whether a comma follows the last. -/
def commaList {α : Type} (reader : Reader α) : Reader (List α × Bool) := do
  let first ← reader
  let others ← many do
    symbol ","
    reader
  return (first :: others, ← accept (.symbol ","))

/-- Results separated by commas, at least one, without a comma after the last. -/
def separated {α : Type} (reader : Reader α) : Reader (List α) := do
  let first ← reader
  let others ← many do
    symbol ","
    reader
  return first :: others

end Reader

end LiteralEnum.Target
