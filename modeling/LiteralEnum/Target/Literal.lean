import LiteralEnum.Target.Token
import LiteralEnum.Text.CharacterName
import LiteralEnum.Text.Integer

/-! What number and string literals of Python denote, and which of them are well-formed. -/

namespace LiteralEnum.Target.Literal

-----------------------------------------------------------------------------------------
-- Numbers
-----------------------------------------------------------------------------------------

def hexValue? (c : Char) : Option Nat :=
  if c.isDigit then some (c.toNat - 48)
  else if 'a' ≤ c ∧ c ≤ 'f' then some (c.toNat - 87)
  else if 'A' ≤ c ∧ c ≤ 'F' then some (c.toNat - 55)
  else none

/-- The value of digits in a base. Characters that are no digits do not count. -/
def valueInBase (base : Nat) (digits : List Char) : Nat :=
  digits.foldl (fun value c => match hexValue? c with
    | some digit => value * base + digit
    | none => value) 0

/-- The base of a whole number, and its digits. -/
def splitBase : List Char → Nat × List Char
  | '0' :: 'x' :: digits | '0' :: 'X' :: digits => (16, digits)
  | '0' :: 'o' :: digits | '0' :: 'O' :: digits => (8, digits)
  | '0' :: 'b' :: digits | '0' :: 'B' :: digits => (2, digits)
  | digits => (10, digits)

def isImaginary (text : List Char) : Bool :=
  text.getLast?.any fun c => c = 'j' || c = 'J'

/-- A number with a point, an exponent or the mark of an imaginary part. -/
def isInexact (text : List Char) : Bool :=
  (splitBase text).1 = 10 && text.any fun c => !(c.isDigit || c = '_')

/-- A whole number in decimal digits has a limited length. -/
def isNumber (text : List Char) : Bool :=
  isInexact text || (splitBase text).1 ≠ 10
    || (text.filter Char.isDigit).length ≤ Text.maxIntegerDigits

/-- A decimal fraction without superfluous zeros: mantissa and power of ten. -/
structure Decimal where
  mantissa : Int
  exponent : Int
deriving Repr, DecidableEq

/-- Moves zeros at the end of a mantissa to the exponent. -/
def Decimal.normal (fuel : Nat) (mantissa : Int) (exponent : Int) : Decimal :=
  match fuel with
  | 0 => ⟨mantissa, exponent⟩
  | fuel + 1 =>
      if mantissa = 0 then ⟨0, 0⟩
      else if mantissa % 10 = 0 then Decimal.normal fuel (mantissa / 10) (exponent + 1)
      else ⟨mantissa, exponent⟩

/-- The value of a number, real or imaginary, as it is written. -/
def decimalValue (text : List Char) : Decimal :=
  let (base, digits) := splitBase text
  if base ≠ 10 then
    let value := valueInBase base digits
    Decimal.normal (value.log2 + 1) value 0
  else
    let (significand, power) := digits.span fun c => c ≠ 'e' && c ≠ 'E'
    let fraction := (significand.dropWhile (· ≠ '.')).filter Char.isDigit
    let scale : Int := match power with
      | _ :: '-' :: more => -(valueInBase 10 (more.filter Char.isDigit) : Int)
      | _ :: more => valueInBase 10 (more.filter Char.isDigit)
      | [] => 0
    Decimal.normal digits.length (valueInBase 10 (significand.filter Char.isDigit))
      (scale - fraction.length)

/-- The value of a whole number, if the text is one. -/
def integerValue? (text : List Char) : Option Nat :=
  if isInexact text then none
  else
    let (base, digits) := splitBase text
    some (valueInBase base digits)

-----------------------------------------------------------------------------------------
-- Escapes
-----------------------------------------------------------------------------------------

/-- The value of exactly `width` hexadecimal digits at the start of a text, and the rest. -/
def takeHex? : Nat → Nat → List Char → Option (Nat × List Char)
  | 0, value, rest => some (value, rest)
  | width + 1, value, c :: rest => (hexValue? c).bind fun digit =>
      takeHex? width (value * 16 + digit) rest
  | _ + 1, _, [] => none

/-- The value of at most `width` more octal digits, and the rest. -/
def takeOctal : Nat → Nat → List Char → Nat × List Char
  | width + 1, value, c :: rest =>
      if isOctalDigit c then takeOctal width (value * 8 + (c.toNat - 48)) rest
      else (value, c :: rest)
  | _, value, rest => (value, rest)

/-- The character that a letter behind a backslash stands for. -/
def simpleEscape? (c : Char) : Option Nat :=
  match c with
  | '\\' => some 92
  | '\'' => some 39
  | '"' => some 34
  | 'a' => some 7
  | 'b' => some 8
  | 'f' => some 12
  | 'n' => some 10
  | 'r' => some 13
  | 't' => some 9
  | 'v' => some 11
  | _ => none

/-- The character that is named in braces, and the rest. -/
def takeNamed? : List Char → Option (Nat × List Char)
  | '\x7b' :: rest =>
      match rest.span (· ≠ '\x7d') with
      | (name, _ :: others) => (Text.characterNamed? name).map fun code => (code, others)
      | (_, []) => none
  | _ => none

/-- What follows a backslash: the code points for it, and the rest. An unknown escape
stands for itself, and an escaped line end for nothing.
-/
def takeEscape? (isBytes : Bool) : List Char → Option (List Nat × List Char)
  | [] => some ([92], [])
  | '\n' :: rest => some ([], rest)
  | 'x' :: rest => (takeHex? 2 0 rest).map fun (code, others) => ([code], others)
  | c :: rest =>
      if isOctalDigit c then
        let (code, others) := takeOctal 2 (c.toNat - 48) rest
        some ([code], others)
      else if !isBytes && c = 'u' then
        (takeHex? 4 0 rest).map fun (code, others) => ([code], others)
      else if !isBytes && c = 'U' then
        (takeHex? 8 0 rest).bind fun (code, others) =>
          if code < 0x110000 then some ([code], others) else none
      else if !isBytes && c = 'N' then
        (takeNamed? rest).map fun (code, others) => ([code], others)
      else match simpleEscape? c with
        | some code => some ([code], rest)
        | none => some ([92, c.toNat], rest)

/-- The code points of a text with escapes. -/
def decodeEscapes? (isBytes : Bool) (fuel : Nat) (text : List Char) : Option (List Nat) :=
  match fuel, text with
  | _, [] => some []
  | 0, _ => none
  | fuel + 1, '\\' :: rest =>
      (takeEscape? isBytes rest).bind fun (codes, others) =>
        (decodeEscapes? isBytes fuel others).map (codes ++ ·)
  | fuel + 1, c :: rest => (decodeEscapes? isBytes fuel rest).map (c.toNat :: ·)

/-- The code points of the text between the quotes of a literal. -/
def decode? (isBytes raw : Bool) (text : List Char) : Option (List Nat) :=
  if raw then some (text.map Char.toNat) else decodeEscapes? isBytes text.length text

-----------------------------------------------------------------------------------------
-- Replacement fields
-----------------------------------------------------------------------------------------

/-- How plain text of a formatted literal ends. -/
structure PlainText where
  text : List Char
  /-- Two braces in a row end the text, and stand for one. -/
  doubled : Bool
  rest : List Char
deriving Repr, DecidableEq

/-- A name in braces behind the letter `N`, braces included, and the rest. -/
def spanNamed (text : List Char) : List Char × List Char :=
  let name := text.takeWhile (· ≠ '\x7d')
  (text.take (name.length + 1), text.drop (name.length + 1))

/-- The plain text up to the next brace that is not part of a named character. Only
outside fields can a brace be doubled, and there a closing one has to be.
-/
def spanPlain? (raw : Bool) (level : Nat) (fuel : Nat) (read text : List Char)
    : Option PlainText :=
  match fuel, text with
  | _, [] => some ⟨read.reverse, false, []⟩
  | 0, _ => none
  | fuel + 1, c :: rest =>
      if c = '\\' ∧ !raw then
        match rest with
        | 'N' :: '\x7b' :: _ =>
            let (name, others) := spanNamed rest
            spanPlain? raw level fuel (name.reverse ++ c :: read) others
        | other :: more =>
            if other = '\x7b' ∨ other = '\x7d' then spanPlain? raw level fuel (c :: read) rest
            else spanPlain? raw level fuel (other :: c :: read) more
        | [] => some ⟨(c :: read).reverse, false, []⟩
      else if c = '\x7b' ∨ c = '\x7d' then
        if level = 0 ∧ rest.head? = some c then some ⟨(c :: read).reverse, true, rest.tail⟩
        else if level = 0 ∧ c = '\x7d' then none
        else some ⟨read.reverse, false, c :: rest⟩
      else spanPlain? raw level fuel (c :: read) rest

/-- The quotes that are open in a field. -/
structure FieldQuote where
  quote : Char
  isTriple : Bool
deriving Repr, DecidableEq

/-- The expression of a field, up to an equals sign, conversion, format or closing brace
outside quotes and brackets. Backslashes and comments are refused everywhere.
-/
def spanField? (quote : Option FieldQuote) (brackets : List Char) (read : List Char)
    : List Char → Option (List Char × List Char)
  | [] => none
  | c :: rest =>
      if c = '\\' then none
      else match quote with
        | some open_ =>
            if c = open_.quote then
              if open_.isTriple then
                match rest with
                | second :: third :: more =>
                    if second = c ∧ third = c then
                      spanField? none brackets (c :: c :: c :: read) more
                    else spanField? quote brackets (c :: read) (second :: third :: more)
                | others => spanField? quote brackets (c :: read) others
              else spanField? none brackets (c :: read) rest
            else spanField? quote brackets (c :: read) rest
        | none =>
            if c = '\'' ∨ c = '"' then
              match rest with
              | second :: third :: more =>
                  if second = c ∧ third = c then
                    spanField? (some ⟨c, true⟩) brackets (c :: c :: c :: read) more
                  else spanField? (some ⟨c, false⟩) brackets (c :: read) (second :: third :: more)
              | others => spanField? (some ⟨c, false⟩) brackets (c :: read) others
            else if isOpeningBracket c then
              if brackets.length < 200 then
                spanField? none (closingBracket c :: brackets) (c :: read) rest
              else none
            else if c = '#' then none
            else if brackets.isEmpty
                && (c = '!' || c = ':' || c = '\x7d' || c = '=' || c = '<' || c = '>') then
              match rest with
              | '=' :: more =>
                  if c = '!' ∨ c = '=' ∨ c = '<' ∨ c = '>' then
                    spanField? none brackets ('=' :: c :: read) more
                  else some (read.reverse, c :: '=' :: more)
              | others =>
                  if c = '<' ∨ c = '>' then spanField? none brackets (c :: read) others
                  else some (read.reverse, c :: others)
            else if isClosingBracket c then
              match brackets with
              | expected :: outer =>
                  if c = expected then spanField? none outer (c :: read) rest else none
              | [] => none
            else spanField? none brackets (c :: read) rest

def isFieldBlank (c : Char) : Bool := c = ' ' || c = '\t' || c = '\n' || c = '\x0c'

/-- The text behind an equals sign of a field, without spaces, if one stands there. -/
def skipSelfDocumenting : List Char → List Char
  | '=' :: rest => rest.dropWhile Text.isAsciiSpace
  | rest => rest

/-- The text behind the conversion of a field, if there is one. -/
def skipConversion? : List Char → Option (List Char)
  | '!' :: c :: rest => if c = 's' ∨ c = 'r' ∨ c = 'a' then some rest else none
  | ['!'] => none
  | rest => some rest

/-- The expressions of the fields in a formatted text, those of nested formats included,
and what follows the text. A format ends at a closing brace, the whole text at its end.
Fields nest once.
-/
def fields? (raw : Bool) (fuel : Nat) (level : Nat) (text : List Char)
    : Option (List (List Char) × List Char) :=
  match fuel with
  | 0 => none
  | fuel + 1 =>
      (spanPlain? raw level text.length [] text).bind fun plain =>
      (decode? false raw plain.text).bind fun _ =>
      if plain.doubled then fields? raw fuel level plain.rest
      else match plain.rest with
        | '\x7b' :: body =>
            if 2 ≤ level then none
            else
              (spanField? none [] [] body).bind fun (expression, behind) =>
              if expression.all isFieldBlank then none
              else
                (skipConversion? (skipSelfDocumenting behind)).bind fun behind =>
                let format := match behind with
                  | ':' :: format => fields? raw fuel (level + 1) format
                  | others => some ([], others)
                format.bind fun (nested, behind) =>
                match behind with
                | '\x7d' :: others =>
                    (fields? raw fuel level others).map fun (more, rest) =>
                      (expression :: nested ++ more, rest)
                | _ => none
        | rest => some ([], rest)

-----------------------------------------------------------------------------------------
-- String literals
-----------------------------------------------------------------------------------------

/-- A literal as it is written: the letters before it, in lower case, and the text in
quotes.
-/
structure Written where
  letters : List Char
  body : List Char
deriving Repr, DecidableEq

def split? (token : List Char) : Option Written :=
  match openTriple? token with
  | some (opening, _, rest) =>
      some ⟨(opening.take (opening.length - 3)).map Char.toLower, rest.take (rest.length - 3)⟩
  | none => (openQuote? token).map fun (letters, _, rest) =>
      ⟨letters.map Char.toLower, rest.take (rest.length - 1)⟩

/-- What one literal stands for. -/
inductive Piece where
  | text (codes : List Nat)
  | bytes (codes : List Nat)
  | formatted (expressions : List (List Char))
deriving Repr, DecidableEq

def Piece.isBytes : Piece → Bool
  | .bytes _ => true
  | _ => false

/-- What a literal stands for, if it is well-formed. -/
def piece? (token : List Char) : Option Piece :=
  (split? token).bind fun written =>
    let raw := written.letters.contains 'r'
    if written.letters.contains 'b' then
      if written.body.all (·.toNat < 128) then (decode? true raw written.body).map .bytes else none
    else if written.letters.contains 'f' then
      (fields? raw (written.body.length + 1) 0 written.body).map fun found => .formatted found.1
    else (decode? false raw written.body).map .text

end LiteralEnum.Target.Literal
