import LiteralEnum.Text.Blank
import LiteralEnum.Text.Numeral
import LiteralEnum.Text.Quoted

/-! Reading a decimal integer: blanks around it, a sign, digits of any script, and single
underscores between digits.
-/

namespace LiteralEnum.Text

inductive IntegerError where
  | malformed (text : String)
  | tooManyDigits (count : Nat)
deriving Repr, DecidableEq

/-- The most digits that are converted. -/
def maxIntegerDigits : Nat := 4300

def IntegerError.message : IntegerError → String
  | .malformed text =>
      "invalid literal for int() with base 10: " ++ String.ofList ((quoted text).toList.take 200)
  | .tooManyDigits count =>
      s!"Exceeds the limit ({maxIntegerDigits} digits) for integer string conversion: "
        ++ s!"value has {count} digits; use sys.set_int_max_str_digits() to increase the limit"

/-- Blanks and digits in their ASCII form; what is neither becomes a mark that no number
holds. A text of ASCII alone stays as it is.
-/
def plainNumber (text : List Char) : List Char :=
  if text.all (·.toNat < 0x80) then text
  else text.map fun c =>
    if c.toNat < 127 then c
    else if isBlank c then ' '
    else match decimalValue? c with
      | some value => Char.ofNat (48 + value)
      | none => '?'

def isAsciiSpace (c : Char) : Bool :=
  c = ' ' || (9 ≤ c.toNat && c.toNat ≤ 13)

/-- The value of digits in which single underscores may stand between two digits, and the
number of digits.
-/
def digitsValue? : List Char → Option (Nat × Nat)
  | [] => none
  | c :: rest => if c.isDigit then go (c.toNat - 48) 1 rest else none
where
  go (value count : Nat) : List Char → Option (Nat × Nat)
    | [] => some (value, count)
    | '_' :: c :: rest =>
        if c.isDigit then go (value * 10 + (c.toNat - 48)) (count + 1) rest else none
    | c :: rest =>
        if c.isDigit then go (value * 10 + (c.toNat - 48)) (count + 1) rest else none

/-- The longest run of digits and underscores at the start of a text, with what follows
it.
-/
def spanDigits (text : List Char) : List Char × List Char :=
  text.span fun c => c.isDigit || c = '_'

/-- The sign at the start of a text, and the rest. -/
def takeSign : List Char → Bool × List Char
  | '-' :: rest => (true, rest)
  | '+' :: rest => (false, rest)
  | rest => (false, rest)

/-- The integer that a text denotes. -/
def parseInteger (text : String) : Except IntegerError Int :=
  let (negative, body) := takeSign ((plainNumber text.toList).dropWhile isAsciiSpace)
  let (digits, rest) := spanDigits body
  match digitsValue? digits with
  | none => .error (.malformed text)
  | some (value, count) =>
      if maxIntegerDigits < count then .error (.tooManyDigits count)
      else if rest.all isAsciiSpace then .ok (if negative then -value else value)
      else .error (.malformed text)

end LiteralEnum.Text
