import LiteralEnum.Console.Wrap

/-! Tables with a title, a header row, and a frame around every cell. -/

namespace LiteralEnum.Console

structure Column where
  header : List Char
  justify : Justify := .left
deriving Repr, DecidableEq

structure Table where
  title : List Char
  columns : List Column
  /-- The cells of each row, one for each column. -/
  rows : List (List (List Char))
deriving Repr, DecidableEq

namespace Table

-----------------------------------------------------------------------------------------
-- Widths
-----------------------------------------------------------------------------------------

/-- A cell has a blank on either side. -/
def padding : Nat := 2

/-- The columns of the longest line. -/
def textWidth (text : List Char) : Nat :=
  ((Text.splitLines text).map width).foldl max 0

/-- The width that the texts of a column ask for. -/
def wishedWidth (limit : Nat) (texts : List (List Char)) : Nat :=
  min limit ((texts.map fun text => textWidth text + padding).foldl max 0)

/-- The quotient rounded to the nearest number, a half to the even one. -/
def roundDivide (dividend divisor : Nat) : Nat :=
  let quotient := dividend / divisor
  let twice := 2 * (dividend % divisor)
  if divisor < twice ∨ (twice = divisor ∧ quotient % 2 = 1) then quotient + 1 else quotient

/-- One share of a width that is to be taken away. -/
structure Share where
  takes : Bool
  most : Nat
  width : Nat
deriving Repr, DecidableEq

/-- Takes a total from widths in equal shares; `count` shares are left. -/
def takeShares (total count : Nat) : List Share → List Nat
  | [] => []
  | share :: rest =>
      if share.takes && count ≠ 0 then
        let taken := min share.most (roundDivide total count)
        (share.width - taken) :: takeShares (total - taken) (count - 1) rest
      else share.width :: takeShares total count rest

def shrink (total : Nat) (shares : List Share) : List Nat :=
  takeShares total (shares.filter (·.takes)).length shares

def total (widths : List Nat) : Nat := widths.foldl (· + ·) 0

/-- Brings the widest columns down to the next widest until all fit; as many rounds as
there are columns are enough.
-/
def levelWidths (limit : Nat) : Nat → List Nat → List Nat
  | 0, widths => widths
  | rounds + 1, widths =>
      let excess := total widths - limit
      let widest := widths.foldl max 0
      let second := (widths.filter (· ≠ widest)).foldl max 0
      if excess = 0 ∨ widest = second then widths
      else
        levelWidths limit rounds (shrink excess (widths.map fun width =>
          ⟨width = widest, min excess (widest - second), width⟩))

/-- Widths that fit, from wished ones. -/
def fitWidths (limit : Nat) (widths : List Nat) : List Nat :=
  let leveled := levelWidths limit widths.length widths
  let excess := total leveled - limit
  if excess = 0 then leveled
  else shrink excess (leveled.map fun width => ⟨width ≠ 0, width, width⟩)

-----------------------------------------------------------------------------------------
-- Frame
-----------------------------------------------------------------------------------------

/-- A line of the frame. -/
def rule (left fill cross right : Char) (widths : List Nat) : List Char :=
  left :: [cross].intercalate (widths.map fun width => List.replicate width fill) ++ [right]

/-- A line of cells. -/
def cellLine (edge : Char) (cells : List (List Char)) : List Char :=
  edge :: [edge].intercalate cells ++ [edge]

-----------------------------------------------------------------------------------------
-- Rows
-----------------------------------------------------------------------------------------

/-- The lines of a cell of a width. -/
def cellLines (justify : Justify) (cellWidth : Nat) (text : List Char) : List (List Char) :=
  (wrap (cellWidth - padding) true justify text).map fun line =>
    ' ' :: padRight (cellWidth - padding) line ++ [' ']

/-- Blank lines bring a cell to a height; they stand above the text of a header. -/
def fillHeight (isHeader : Bool) (height cellWidth : Nat) (lines : List (List Char))
    : List (List Char) :=
  let blanks := List.replicate (height - lines.length) (List.replicate cellWidth ' ')
  if isHeader then blanks ++ lines else lines ++ blanks

/-- The lines at the same height of each cell. -/
def sideBySide : Nat → List (List (List Char)) → List (List (List Char))
  | 0, _ => []
  | height + 1, cells =>
      cells.map (·.headD []) :: sideBySide height (cells.map (·.tail))

/-- The lines of a row. -/
def rowLines (edge : Char) (isHeader : Bool) (widths : List Nat) (justifies : List Justify)
    (texts : List (List Char)) : List (List Char) :=
  let cells := (widths.zip (justifies.zip texts)).map fun (cellWidth, justify, text) =>
    (cellWidth, cellLines justify cellWidth text)
  let height := (cells.map (·.2.length)).foldl max 1
  let filled := cells.map fun (cellWidth, lines) => fillHeight isHeader height cellWidth lines
  (sideBySide height filled).map (cellLine edge)

-----------------------------------------------------------------------------------------
-- Whole table
-----------------------------------------------------------------------------------------

/-- The texts of each column, the header first. -/
def columnTexts (table : Table) : List (List (List Char)) :=
  table.columns.zipIdx.map fun (column, index) =>
    column.header :: table.rows.map fun row => (row[index]?).getD []

def widths (table : Table) : List Nat :=
  let limit := terminalWidth - (table.columns.length + 1)
  let wished := table.columnTexts.map (wishedWidth limit)
  if total wished ≤ limit then wished else fitWidths limit wished

def lines (table : Table) : List (List Char) :=
  let widths := table.widths
  let justifies := table.columns.map (·.justify)
  wrap (total widths + table.columns.length + 1) false .center table.title
    ++ [rule '┏' '━' '┳' '┓' widths]
    ++ rowLines '┃' true widths justifies (table.columns.map (·.header))
    ++ [rule '┡' '━' '╇' '┩' widths]
    ++ table.rows.flatMap (rowLines '│' false widths justifies)
    ++ [rule '└' '─' '┴' '┘' widths]

/-- The table as it is printed. -/
def text (table : Table) : String :=
  String.ofList (table.lines.flatMap (· ++ ['\n']))

end Table

end LiteralEnum.Console
