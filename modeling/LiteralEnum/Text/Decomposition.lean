import LiteralEnum.Text.Decomposition.Table

/-! Compatibility decomposition of names. Two names denote the same thing when their
decompositions are equal: letters in another style, width or position decompose to the
plain letter.
-/

namespace LiteralEnum.Text

/-- The decomposition of a code point, if it is not its own. -/
def tabulatedDecomposition? (code : Nat) : Option (List Nat) :=
  (decompositionRuns.find? fun run => run.1 ≤ code && code ≤ run.2.1).map
    fun (first, _, width, targets) => (targets.drop ((code - first) * width)).take width

/-- A Hangul syllable splits into a leading consonant, a vowel and, if present, a final
consonant.
-/
def hangulDecomposition (code : Nat) : List Nat :=
  let index := code - 0xAC00
  let final := index % 28
  let start := [0x1100 + index / 588, 0x1161 + index % 588 / 28]
  if final = 0 then start else start ++ [0x11A7 + final]

def decomposeCode (code : Nat) : List Nat :=
  if code < 0x80 then [code]
  else if 0xAC00 ≤ code ∧ code ≤ 0xD7A3 then hangulDecomposition code
  else (tabulatedDecomposition? code).getD [code]

/-- The combining class; zero for every character that is not a combining mark. -/
def combiningClass (code : Nat) : Nat :=
  if code < 0x300 then 0
  else ((combiningClasses.find? fun entry => entry.1 ≤ code && code ≤ entry.2.1).map
    fun entry => entry.2.2).getD 0

/-- Places a mark behind the marks of its run whose class is not above its own. -/
def insertMark (mark : Nat × Nat) : List (Nat × Nat) → List (Nat × Nat)
  | [] => [mark]
  | other :: rest =>
      if mark.1 < other.1 then mark :: other :: rest else other :: insertMark mark rest

/-- Sorts every maximal run of combining marks by class, and keeps the order within a
class.
-/
def orderMarks (codes : List Nat) : List Nat :=
  go [] codes
where
  go (run : List (Nat × Nat)) : List Nat → List Nat
    | [] => run.map (·.2)
    | code :: rest =>
        let weight := combiningClass code
        if weight = 0 then run.map (·.2) ++ code :: go [] rest
        else go (insertMark (weight, code) run) rest

/-- The compatibility decomposition of a text in canonical order of marks. -/
def decompose (text : List Char) : List Char :=
  (orderMarks (text.flatMap fun c => decomposeCode c.toNat)).map Char.ofNat

/-- The form under which a name is compared. An ASCII name is its own form. -/
def nameForm (name : String) : String :=
  if name.toList.all (·.toNat < 0x80) then name else String.ofList (decompose name.toList)

end LiteralEnum.Text
