import LiteralEnum.Declaration
import LiteralEnum.Text.Name
import LiteralEnum.Proofs.Token.Decomposition

/-! The printed form of a declaration. A sheet writes the marks of a declaration one after
the other, each in one of its spellings, with a filling of any length behind it. The line
of a name, a field or an import is the line on which the sheet writes it.
-/

namespace LiteralEnum

open LiteralEnum.Lexer

namespace Printing

-----------------------------------------------------------------------------------------
-- Marks
-----------------------------------------------------------------------------------------

/-- What is written as one lexeme. -/
inductive Mark where
  | importWord
  | literal (value : String)
  | docLine (line : List Char)
  | name (word : String)
  | field (word typeText : String)
  | equals
  | data (expression : String)

/-- The text is a spelling of the mark. A literal may be escaped wherever an escape exists;
every other mark has one spelling.
-/
def Mark.Writes (written : List Char) : Mark → Prop
  | .importWord => written = "import".toList
  | .literal value =>
      ∃ items : List StringItem,
        items.map StringItem.value = value.toList
        ∧ written = '"' :: (items.flatMap StringItem.text ++ ['"'])
  | .docLine line => written = '#' :: ':' :: ' ' :: line
  | .name word => written = word.toList
  | .field word typeText =>
      written
        = '\x7b' :: ' ' :: (word.toList ++ ':' :: ' ' :: typeText.toList ++ [' ', '\x7d'])
  | .equals => written = ['=']
  | .data expression => written = '\x7b' :: ' ' :: (expression.toList ++ [' ', '\x7d'])

/-- The line of the mark is kept in the declaration. -/
def Mark.isPlaced : Mark → Bool
  | .importWord | .name _ | .field _ _ => true
  | _ => false

/-- One mark for each line of a doc text. -/
def docMarks (doc : Option String) : List Mark :=
  match doc with
  | none => []
  | some text => (text.toList.splitOn '\n').map .docLine

def importMarks (directive : ImportDirective) : List Mark :=
  [.importWord, .literal directive.statement]

def fieldMark (field : DataField) : Mark :=
  .field field.name field.typeText

def variantMarks (variant : VariantDeclaration) : List Mark :=
  docMarks variant.doc ++ .name variant.name :: variant.literals.map .literal
    ++ variant.data.toList.map .data

/-- What is written of a declaration, in order. -/
def declarationMarks (declaration : Declaration) : List Mark :=
  declaration.imports.flatMap importMarks
    ++ docMarks declaration.doc
    ++ .name declaration.name :: declaration.field.toList.map fieldMark
    ++ .equals :: declaration.variants.flatMap variantMarks

-----------------------------------------------------------------------------------------
-- Sheets
-----------------------------------------------------------------------------------------

/-- What may stand between two lexemes: a gap character, a line break, or a plain comment
with the line break that ends it.
-/
inductive Filler where
  | blank (c : Char) (isGap : c = ' ' ∨ c = '\t' ∨ c = '\r')
  | lineBreak
  | comment (text : List Char) (isPlain : text.head? ≠ some ':') (oneLine : '\n' ∉ text)

def Filler.text : Filler → List Char
  | .blank c _ => [c]
  | .lineBreak => ['\n']
  | .comment text _ _ => '#' :: (text ++ ['\n'])

/-- A mark, one of its spellings, and the filling behind it. A line break follows a doc
comment at once, for it would go on otherwise.
-/
structure Entry where
  mark : Mark
  written : List Char
  writes : mark.Writes written
  filling : List Filler
  endsDoc : ∀ line, mark = .docLine line → filling.head? = some .lineBreak

def Entry.text (entry : Entry) : List Char :=
  entry.written ++ entry.filling.flatMap Filler.text

/-- Entries with a filling in front. No two marks touch each other. -/
structure Sheet where
  filling : List Filler
  entries : List Entry
  separated : ∀ entry ∈ entries.dropLast, entry.filling ≠ []

def Sheet.text (sheet : Sheet) : List Char :=
  sheet.filling.flatMap Filler.text ++ sheet.entries.flatMap Entry.text

def Sheet.marks (sheet : Sheet) : List Mark :=
  sheet.entries.map Entry.mark

/-- The lines of the placed marks, where the first entry starts on `line`. -/
def linesFrom (line : Int) : List Entry → List Int
  | [] => []
  | entry :: rest =>
      (if entry.mark.isPlaced then [line] else [])
        ++ linesFrom (line + entry.text.count '\n') rest

/-- The lines of the placed marks. -/
def Sheet.lines (sheet : Sheet) : List Int :=
  linesFrom (1 + (sheet.filling.flatMap Filler.text).count '\n') sheet.entries

/-- Every text is what some items stand for: the three characters that cannot stand in a
string as they are have an escape.
-/
theorem exists_items (text : List Char)
    : ∃ items : List StringItem, items.map StringItem.value = text := by
  induction text with
  | nil => exact ⟨[], rfl⟩
  | cons c rest ih =>
      obtain ⟨items, values⟩ := ih
      obtain ⟨item, value⟩ : ∃ item : StringItem, item.value = c := by
        by_cases free : c ≠ '"' ∧ c ≠ '\\' ∧ c ≠ '\n'
        · exact ⟨.plain c free, rfl⟩
        · have special : c = '"' ∨ c = '\\' ∨ c = '\n' := by tauto
          rcases special with rfl | rfl | rfl
          · exact ⟨.escape '"' '"' (by decide), rfl⟩
          · exact ⟨.escape '\\' '\\' (by decide), rfl⟩
          · exact ⟨.escape 'n' '\n' (by decide), rfl⟩
      exact ⟨item :: items, by rw [List.map_cons, value, values]⟩

/-- Every mark can be written. -/
theorem Mark.exists_writes (mark : Mark) : ∃ written, mark.Writes written := by
  cases mark with
  | literal value =>
      obtain ⟨items, values⟩ := exists_items value.toList
      exact ⟨_, items, values, rfl⟩
  | _ => exact ⟨_, rfl⟩

/-- Every list of marks has a sheet: one mark a line will do. -/
theorem exists_sheet (marks : List Mark) : ∃ sheet : Sheet, sheet.marks = marks := by
  obtain ⟨entries, same, filled⟩ : ∃ entries : List Entry,
      entries.map Entry.mark = marks ∧ ∀ entry ∈ entries, entry.filling ≠ [] := by
    induction marks with
    | nil => exact ⟨[], rfl, fun entry member => by cases member⟩
    | cons mark rest ih =>
        obtain ⟨entries, same, filled⟩ := ih
        obtain ⟨written, writes⟩ := mark.exists_writes
        refine ⟨⟨mark, written, writes, [.lineBreak], fun _ _ => rfl⟩ :: entries, ?_, ?_⟩
        · rw [List.map_cons, same]
        · simpa using filled
  exact ⟨⟨[], entries, fun entry member => filled entry (List.dropLast_subset _ member)⟩,
    same⟩

-----------------------------------------------------------------------------------------
-- What can be printed
-----------------------------------------------------------------------------------------

/-- A word that is not the keyword. -/
def IsIdentifier (name : String) : Prop :=
  (∃ first rest, name.toList = first :: rest
    ∧ isWordStart first = true ∧ ∀ c ∈ rest, isWordPart c = true)
  ∧ name ≠ "import"

/-- A text that comes back out of a block: not empty, without a blank at an end, and with
braces and quotes that match.
-/
structure IsBlockText (text : String) : Prop where
  ne_empty : text ≠ ""
  stripped : Text.strip text.toList = text.toList
  balanced : ∃ body : Body, body.text = text.toList

/-- No line of a doc text ends with a carriage return. -/
def IsDocText (text : String) : Prop :=
  ∀ line ∈ text.toList.splitOn '\n', line.getLast? ≠ some '\r'

structure IsPrintableVariant (variant : VariantDeclaration) : Prop where
  name : IsIdentifier variant.name
  doc : ∀ text ∈ variant.doc, IsDocText text
  data : ∀ expression ∈ variant.data, IsBlockText expression

/-- A declaration that has a printed form. Imports and literals are arbitrary. -/
structure IsPrintable (declaration : Declaration) : Prop where
  name : IsIdentifier declaration.name
  doc : ∀ text ∈ declaration.doc, IsDocText text
  fieldName : ∀ field ∈ declaration.field, Text.isName field.name.toList = true
  fieldType : ∀ field ∈ declaration.field, IsBlockText field.typeText
  variants_ne_nil : declaration.variants ≠ []
  variants : ∀ variant ∈ declaration.variants, IsPrintableVariant variant

end Printing

-----------------------------------------------------------------------------------------
-- Declarations without their lines
-----------------------------------------------------------------------------------------

def ImportDirective.unplaced (directive : ImportDirective) : ImportDirective :=
  { directive with line := 0 }

def DataField.unplaced (field : DataField) : DataField :=
  { field with line := 0 }

def VariantDeclaration.unplaced (variant : VariantDeclaration) : VariantDeclaration :=
  { variant with line := 0 }

namespace Declaration

/-- The declaration with no line kept. -/
def unplaced (declaration : Declaration) : Declaration :=
  { declaration with
    field := declaration.field.map DataField.unplaced
    variants := declaration.variants.map VariantDeclaration.unplaced
    imports := declaration.imports.map ImportDirective.unplaced
    line := 0 }

/-- The lines that a declaration keeps, in the order of the source. -/
def lines (declaration : Declaration) : List Int :=
  declaration.imports.map ImportDirective.line
    ++ declaration.line :: declaration.field.toList.map DataField.line
    ++ declaration.variants.map VariantDeclaration.line

end Declaration

end LiteralEnum
