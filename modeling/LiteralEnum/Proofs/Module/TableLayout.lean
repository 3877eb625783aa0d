import LiteralEnum.Proofs.Module.ClassSuite
import LiteralEnum.Proofs.Module.DataTable
import LiteralEnum.Proofs.Target.TableRows

/-! The tables of a module are read alike at every width of indent: their rows stand in brackets.
What a declaration brings into them has to leave the reading where it found it.
-/

namespace LiteralEnum.Module

open Reading (spaces toList_spaces ownerName mapM_eq_ok)
open Target (ReadsTexts ReadsLines IsRow brokenLines startsStatement isPlain)

-----------------------------------------------------------------------------------------
-- Lines that are read alike
-----------------------------------------------------------------------------------------

/-- The lines are read outermost as these tokens at every width of indent, behind whatever blocks
are open.
-/
def ReadsAlike (lines : String → List String) (tokens : List Target.Token) : Prop :=
  ∀ width start, 0 < width →
    ∃ next, ReadsTexts width start next 0 ((lines (spaces width)).map String.toList) tokens

variable {lines more : String → List String} {tokens others : List Target.Token}

theorem ReadsAlike.nil : ReadsAlike (fun _ => []) [] :=
  fun width start _ => ⟨start, .nil width (Nat.zero_le start)⟩

theorem ReadsAlike.append (first : ReadsAlike lines tokens) (second : ReadsAlike more others)
    : ReadsAlike (fun indent => lines indent ++ more indent) (tokens ++ others) := by
  intro width start positive
  obtain ⟨middle, reads⟩ := first width start positive
  obtain ⟨next, readsMore⟩ := second width middle positive
  refine ⟨next, ?_⟩
  rw [List.map_append]
  exact reads.append readsMore

theorem ReadsAlike.blank (rest : ReadsAlike lines tokens)
    : ReadsAlike (fun indent => "" :: lines indent) tokens :=
  fun width start positive => (rest width start positive).imp fun _ reads => reads.blank

theorem ReadsAlike.comment (text : String) (noFeed : '\n' ∉ text.toList)
    (rest : ReadsAlike lines tokens)
    : ReadsAlike (fun indent => ("#" ++ text) :: lines indent) tokens := by
  intro width start positive
  rw [List.map_cons, String.toList_append]
  exact (rest width start positive).imp fun _ reads => reads.comment noFeed

/-- The line is read outermost, without what comes before or behind it. -/
def StandsAlone (line : String) : Prop :=
  ∃ tokens, ReadsLines {} (brokenLines line.toList) tokens {}

/-- A suite is read alike. -/
theorem readsAlike_suite {rows : List Target.Row} (suite : Target.Suite 0 rows tokens)
    (areRows : ∀ width, (lines (spaces width)).map String.toList = rows.map (Target.Row.line width))
    : ReadsAlike lines tokens := by
  intro width start positive
  rw [areRows]
  exact suite.readsTexts positive (.inl (Nat.zero_le start))

-----------------------------------------------------------------------------------------
-- Tables
-----------------------------------------------------------------------------------------

/-- The lines of a table: a heading, an entry for each part, and the closing bracket. -/
def tableLines {Part : Type} (heading : String) (entry : Part → String) (closing : String)
    (parts : List Part) (indent : String) : List String :=
  [heading] ++ parts.map (fun part => indent ++ entry part) ++ [closing]

/-- A table is read alike if its heading opens a bracket and its entries stay in it. -/
theorem exists_readsAlike_table {Part : Type} {heading : String} {entry : Part → String}
    {parts : List Part} (closing : String)
    (starts : startsStatement heading.toList = true)
    (opens
      : ∃ tokens, ReadsLines {} (brokenLines heading.toList) tokens { depth := 1 })
    (entries : ∀ part ∈ parts, ∃ tokens, IsRow (entry part).toList tokens)
    (closes : closing = ")" ∨ closing = "\x7d")
    : ∃ tokens, ReadsAlike (tableLines heading entry closing parts) tokens := by
  obtain ⟨opening, opens⟩ := opens
  obtain ⟨last, closed, isClosing⟩ : ∃ c, closing.toList = [c] ∧ (c = ')' ∨ c = '\x7d') := by
    rcases closes with rfl | rfl
    · exact ⟨')', by decide +kernel, .inl rfl⟩
    · exact ⟨'\x7d', by decide +kernel, .inr rfl⟩
  have areRows : ∀ row ∈ parts.map fun part => (entry part).toList, ∃ tokens, IsRow row tokens :=
    List.forall_mem_map.mpr entries
  obtain ⟨tokens, reads⟩ := Target.exists_table opens starts areRows isClosing
  refine ⟨tokens, fun width start positive => ⟨0, ?_⟩⟩
  have table := reads width start positive
  simpa [tableLines, closed, toList_spaces, Function.comp_def] using table

theorem startsStatement_around (before inner after : String)
    (starts : startsStatement before.toList = true)
    : startsStatement (before ++ inner ++ after).toList = true := by
  rw [String.toList_append, String.toList_append, List.append_assoc]
  exact Target.startsStatement_append starts _

/-- A heading with a name in it, which opens a bracket. -/
theorem exists_opening_around (before after : String) {inner : String}
    (isInert : IsInert inner.toList)
    (starts : startsStatement before.toList = true)
    (frame : isPlainWith 1 (before.toList ++ after.toList) = true)
    : startsStatement (before ++ inner ++ after).toList = true
      ∧ ∃ tokens, ReadsLines {} (brokenLines (before ++ inner ++ after).toList) tokens
          { depth := 1 } := by
  obtain ⟨plain, opens⟩ := isInert.between 1 _ _ frame
  have starts := startsStatement_around before inner after starts
  refine ⟨starts, ?_⟩
  rw [String.toList_append, String.toList_append] at starts ⊢
  exact Target.exists_opening_plain starts plain opens

/-- The name of a variant behind its type, with a comma. -/
def memberEntry (typeName name : String) : String := typeName ++ "." ++ name ++ ","

theorem isInert_memberEntry {typeName name : String} (isType : Text.isName typeName.toList = true)
    (isName : Text.isName name.toList = true) : IsInert (memberEntry typeName name).toList := by
  have type := (isInert_name isType).between 0 [] ['.'] (by decide)
  have member := (isInert_name isName).between 0 [] [','] (by decide)
  have whole : (memberEntry typeName name).toList
      = [] ++ typeName.toList ++ ['.'] ++ ([] ++ name.toList ++ [',']) := by
    rw [memberEntry, String.toList_append, String.toList_append, String.toList_append]
    simp
  rw [whole]
  exact IsInert.append ⟨type.1, type.2⟩ ⟨member.1, member.2⟩

-----------------------------------------------------------------------------------------
-- The tables of literals
-----------------------------------------------------------------------------------------

/-- The entry of a literal and its owner. -/
def lookupEntry (model : Model) (entry : String × Int) : String :=
  Text.quoted entry.1 ++ ": " ++ memberEntry model.name (ownerName model entry.2)

def lookupTable (model : Model) (indent : String) : List String :=
  "" :: "" :: tableLines s!"_LOOKUP: dict[str, {model.name}] = \x7b" (lookupEntry model) "\x7d"
    model.owners indent

section

variable {model : Model}

/-- The lookup table is written where every literal has an owner. -/
theorem lookupLines_eq_ok (writable : IsWritable model) (indent : String)
    : lookupLines indent model = .ok (lookupTable model indent) := by
  have written : ∀ entry ∈ model.owners,
      lookupLine indent model entry = .ok (indent ++ lookupEntry model entry) := by
    intro entry member
    obtain ⟨variant, -, found⟩ := writable.owned entry member
    simp only [lookupLine, found, lookupEntry, memberEntry, ownerName, Option.elim_some,
      ← String.append_assoc]
    rfl
  rw [lookupLines, mapM_eq_ok written]
  rfl

theorem exists_readsAlike_lookup (writable : IsWritable model)
    : ∃ tokens, ReadsAlike (lookupTable model) tokens := by
  obtain ⟨starts, opens⟩ := exists_opening_around "_LOOKUP: dict[str, " "] = \x7b"
    (isInert_name writable.type) (by decide +kernel) (by decide +kernel)
  have entries : ∀ entry ∈ model.owners,
      ∃ tokens, IsRow (lookupEntry model entry).toList tokens := by
    intro entry member
    obtain ⟨variant, isVariant, found⟩ := writable.owned entry member
    have isName : Text.isName (ownerName model entry.2).toList = true := by
      rw [ownerName, found]
      exact writable.variants variant isVariant
    have inert := (isInert_memberEntry writable.type isName).between 0 [':', ' '] []
      (by decide)
    obtain ⟨tokens, isRow⟩ := Target.exists_row_quoted entry.1.toList _ inert.1 inert.2
    refine ⟨tokens, ?_⟩
    simpa [lookupEntry, Text.quoted] using isRow
  obtain ⟨tokens, reads⟩ := exists_readsAlike_table "\x7d" starts opens entries (.inr rfl)
  exact ⟨tokens, reads.blank.blank⟩

theorem exists_readsAlike_canonical (variants : List Model.Variant)
    : ∃ tokens, ReadsAlike (canonicalLines · variants) tokens := by
  have plain : isPlainWith 1 "_CANONICAL: tuple[str, ...] = (".toList = true := by decide +kernel
  rw [isPlainWith, Bool.and_eq_true, List.all_eq_true, decide_eq_true_eq] at plain
  have starts : startsStatement "_CANONICAL: tuple[str, ...] = (".toList = true := by
    decide +kernel
  have entries : ∀ variant ∈ variants,
      ∃ tokens, IsRow (Text.quoted variant.primary ++ ",").toList tokens := by
    intro variant _
    obtain ⟨tokens, isRow⟩ := Target.exists_row_quoted variant.primary.toList [',']
      (List.all_eq_true.mp (by decide)) (by decide)
    exact ⟨tokens, by simpa [Text.quoted] using isRow⟩
  obtain ⟨tokens, reads⟩ := exists_readsAlike_table ")" starts
    (Target.exists_opening_plain starts plain.1 plain.2) entries (.inl rfl)
  have table := reads.blank
  simp only [tableLines, ← String.append_assoc] at table
  exact ⟨tokens, table⟩

-----------------------------------------------------------------------------------------
-- The variants
-----------------------------------------------------------------------------------------

/-- The name of the type starts like a word, which not every start of a name does. -/
def StartsWithWord (model : Model) : Prop :=
  ∀ c ∈ model.name.toList.head?, Lexer.isWordPart c = true

theorem exists_row_member (writable : IsWritable model) (word : StartsWithWord model)
    {variant : Model.Variant} (isVariant : variant ∈ model.variants)
    : ∃ tokens, IsRow (memberEntry model.name variant.name).toList tokens := by
  have inert := isInert_memberEntry writable.type (writable.variants variant isVariant)
  obtain ⟨c, rest, chars⟩ := List.exists_cons_of_ne_nil (l := model.name.toList) (by
    intro empty
    have isType := writable.type
    rw [empty] at isType
    cases isType)
  have isPart : Lexer.isWordPart c = true := word c (by rw [chars]; rfl)
  rw [memberEntry, String.toList_append, String.toList_append, String.toList_append, chars]
    at inert ⊢
  exact Target.exists_row_plain isPart inert.plain inert.flat

theorem exists_readsAlike_variants (writable : IsWritable model) (word : StartsWithWord model)
    : ∃ tokens, ReadsAlike (variantLines · model) tokens := by
  obtain ⟨starts, opens⟩ := exists_opening_around "VARIANTS: typing.Final[tuple[" ", ...]] = ("
    (isInert_name writable.type) (by decide +kernel) (by decide +kernel)
  obtain ⟨tokens, reads⟩ := exists_readsAlike_table ")" starts opens
    (fun variant isVariant => exists_row_member writable word isVariant) (.inl rfl)
  have comments := ((reads.comment
      " tuple's IndexError and negative indices wrap. Callers own range checks."
      (by decide +kernel)).comment
      " Indexing is not bounds-checked here: an out-of-range index raises the"
      (by decide +kernel)).comment
      " Every variant in declaration order; VARIANTS[i].index() == i." (by decide +kernel)
  have table := comments.blank
  simp only [tableLines, memberEntry, ← String.append_assoc] at table
  exact ⟨tokens, table⟩

-----------------------------------------------------------------------------------------
-- The data
-----------------------------------------------------------------------------------------

def dataHeading (field : Model.Field) : String :=
  s!"_DATA: tuple[{field.typeText} | None, ...] = ("

/-- Data whose tokens can be read where it is checked, and in which no return stands alone. -/
structure IsReadable (expression : String) : Prop where
  noLone : Target.hasLoneReturn expression.toList = false
  sample : (Target.tokens (Target.Compiler.dataSample expression.toList)).failure = none

/-- The texts that a declaration brings into the module leave the reading where they found it:
imports between statements, the type behind the signature of the accessor and in the bracket of
the data table, and data expressions in that bracket.
-/
structure KeepsPlaces (model : Model) : Prop where
  imports : ∀ text ∈ model.imports, StandsAlone text
  signature : ∀ field ∈ model.field, IsStatement (accessor field).signature
  heading
    : ∀ field ∈ model.field,
        ∃ tokens, ReadsLines {} (brokenLines (dataHeading field).toList) tokens { depth := 1 }
  data : ∀ variant ∈ model.variants, ∀ expression ∈ variant.data, IsReadable expression

theorem exists_row_dataElement {data : Option String}
    (stays : ∀ expression ∈ data, Target.escapesParentheses expression.toList = false)
    (readable : ∀ expression ∈ data, IsReadable expression)
    : ∃ tokens, IsRow (dataElement data ++ ",").toList tokens := by
  cases data with
  | none =>
      have row : (dataElement none ++ ",").toList = ['N', 'o', 'n', 'e', ','] := by decide +kernel
      rw [row]
      exact Target.exists_row_plain (by decide) (List.all_eq_true.mp (by decide)) (by decide)
  | some expression =>
      obtain ⟨noLone, sample⟩ := readable expression rfl
      obtain ⟨tokens, isRow⟩ := Target.exists_row_data noLone (stays expression rfl) sample
      refine ⟨tokens, ?_⟩
      rw [String.toList_append, toList_dataElement]
      simpa using isRow

theorem exists_readsAlike_data (places : KeepsPlaces model)
    (stays
      : ∀ variant ∈ model.variants, ∀ expression ∈ variant.data,
          Target.escapesParentheses expression.toList = false)
    : ∃ tokens, ReadsAlike (dataLines · model) tokens := by
  cases declared : model.field with
  | none =>
      simp only [dataLines, declared]
      exact ⟨[], .nil⟩
  | some field =>
      have starts : startsStatement (dataHeading field).toList = true :=
        startsStatement_around "_DATA: tuple[" _ _ (by decide +kernel)
      obtain ⟨tokens, reads⟩ := exists_readsAlike_table ")" starts
        (places.heading field declared)
        (fun variant isVariant =>
          exists_row_dataElement (stays variant isVariant) (places.data variant isVariant))
        (.inl rfl)
      have table := reads.blank
      simp only [tableLines, ← String.append_assoc] at table
      simp only [dataLines, declared]
      exact ⟨tokens, table⟩

end

end LiteralEnum.Module
