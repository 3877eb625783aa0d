import LiteralEnum.Proofs.Declaration.Acceptance
import LiteralEnum.Proofs.Declaration.SheetScanning

/-! Reading back what was printed. The marks of a declaration, each at some place, are the
tokens of a derivation of that declaration; so every sheet of the declaration is read as
the declaration, and only the lines depend on the sheet.
-/

namespace LiteralEnum

/-- A text moves its end down by one line for each line break in it. -/
theorem Position.line_advanceOver (position : Position) (text : List Char)
    : (position.advanceOver text).line = position.line + text.count '\n' := by
  induction text generalizing position with
  | nil => simp
  | cons c rest ih =>
      rw [Position.advanceOver_cons, ih]
      by_cases breaks : c = '\n'
      · subst breaks
        simp only [Position.advance, List.count_cons_self, if_true]
        omega
      · simp [Position.advance, breaks]

namespace Printing

open LiteralEnum.Declaration
open LiteralEnum.Lexer

-----------------------------------------------------------------------------------------
-- Lines
-----------------------------------------------------------------------------------------

/-- The lines of the marks whose line is kept. -/
def linesOf (placed : List (Mark × Position)) : List Int :=
  (placed.filter (·.1.isPlaced)).map (·.2.line)

@[simp]
theorem linesOf_nil : linesOf [] = [] := rfl

theorem linesOf_cons (mark : Mark) (position : Position) (rest : List (Mark × Position))
    : linesOf ((mark, position) :: rest)
      = (if mark.isPlaced then [position.line] else []) ++ linesOf rest := by
  cases kept : mark.isPlaced <;> simp [linesOf, kept]

@[simp]
theorem linesOf_append (left right : List (Mark × Position))
    : linesOf (left ++ right) = linesOf left ++ linesOf right := by
  simp [linesOf]

/-- The lines of a sheet are those of its marks, by induction on the entries. -/
theorem linesOf_placedFrom (position : Position) (entries : List Entry)
    : linesOf (placedFrom position entries) = linesFrom position.line entries := by
  induction entries generalizing position with
  | nil => rfl
  | cons entry rest ih =>
      rw [placedFrom, linesOf_cons, ih, Position.line_advanceOver, linesFrom]

theorem Sheet.linesOf_placed (sheet : Sheet) : linesOf sheet.placed = sheet.lines := by
  rw [Sheet.placed, linesOf_placedFrom, Position.line_advanceOver]
  rfl

-----------------------------------------------------------------------------------------
-- Phrases from marks
-----------------------------------------------------------------------------------------

/-- Marks of one kind are leaves of that kind, by induction on what the marks are of. -/
theorem exists_leaves {Item : Type} (mark : Item → Mark) (kind : Token.Kind)
    (hasKind : ∀ item, (mark item).kind = kind)
    (unplaced : ∀ item, (mark item).isPlaced = false)
    {items : List Item} {placed : List (Mark × Position)}
    (marks : placed.map Prod.fst = items.map mark)
    : ∃ found : List (Token.Of kind),
        leaves found = tokensOf placed
        ∧ found.map (·.val.value) = items.map (fun item => (mark item).value)
        ∧ linesOf placed = [] := by
  induction items generalizing placed with
  | nil =>
      obtain rfl : placed = [] := by simpa using marks
      exact ⟨[], rfl, rfl, rfl⟩
  | cons item rest ih =>
      obtain ⟨⟨first, position⟩, others, rfl, rfl, restMarks⟩ := List.map_eq_cons_iff.mp marks
      obtain ⟨found, tokens, values, noLines⟩ := ih restMarks
      refine ⟨⟨(mark item).token position, hasKind item⟩ :: found, ?_, ?_, ?_⟩
      · rw [leaves_cons, tokens, tokensOf_cons]
      · rw [List.map_cons, values, List.map_cons]
        rfl
      · simp [linesOf_cons, unplaced item, noLines]

/-- The lines of a doc text, put together again, are the text. -/
theorem exists_docs {doc : Option String} {placed : List (Mark × Position)}
    (marks : placed.map Prod.fst = docMarks doc)
    : ∃ docs : List (Token.Of .docComment),
        leaves docs = tokensOf placed ∧ docText? docs = doc ∧ linesOf placed = [] := by
  cases doc with
  | none =>
      obtain rfl : placed = [] := by simpa [docMarks] using marks
      exact ⟨[], rfl, rfl, rfl⟩
  | some text =>
      obtain ⟨docs, tokens, values, noLines⟩ :=
        exists_leaves Mark.docLine .docComment (fun _ => rfl) (fun _ => rfl) marks
      refine ⟨docs, tokens, ?_, noLines⟩
      have present : docs ≠ [] := by
        rintro rfl
        simp at values
      have joined : String.intercalate "\n" (docs.map (·.val.value)) = text := by
        rw [values, ← String.toList_inj, String.toList_intercalate, List.map_map]
        simp [Function.comp_def, Mark.value]
      rw [docText?, if_neg (by simpa using present), joined]

/-- The marks of imports derive them, by induction on the imports. -/
theorem exists_imports {imports : List ImportDirective} {placed : List (Mark × Position)}
    (marks : placed.map Prod.fst = imports.flatMap importMarks)
    : ∃ phrases : List ImportPhrase,
        phrases.flatMap ImportPhrase.tokens = tokensOf placed
        ∧ phrases.map (·.directive.unplaced) = imports.map ImportDirective.unplaced
        ∧ linesOf placed = phrases.map (·.directive.line) := by
  induction imports generalizing placed with
  | nil =>
      obtain rfl : placed = [] := by simpa using marks
      exact ⟨[], rfl, rfl, rfl⟩
  | cons directive rest ih =>
      rw [List.flatMap_cons, importMarks, List.cons_append, List.singleton_append] at marks
      obtain ⟨⟨_, keywordPlace⟩, _, rfl, rfl, textMarks⟩ := List.map_eq_cons_iff.mp marks
      obtain ⟨⟨_, place⟩, others, rfl, rfl, restMarks⟩ := List.map_eq_cons_iff.mp textMarks
      obtain ⟨phrases, tokens, same, lines⟩ := ih restMarks
      let phrase : ImportPhrase :=
        ⟨⟨Mark.importWord.token keywordPlace, rfl⟩,
          ⟨(Mark.literal directive.statement).token place, rfl⟩⟩
      refine ⟨phrase :: phrases, ?_, ?_, ?_⟩
      · rw [List.flatMap_cons, tokens]
        rfl
      · rw [List.map_cons, same]
        rfl
      · simp only [linesOf_cons, lines]
        rfl

/-- The mark of a data field derives it: its colon is the first one of the block. -/
theorem exists_field {field : Option DataField} {placed : List (Mark × Position)}
    (isName : ∀ found ∈ field, Text.isName found.name.toList = true)
    (isType : ∀ found ∈ field, IsBlockText found.typeText)
    (marks : placed.map Prod.fst = field.toList.map fieldMark)
    : ∃ phrase : Option FieldPhrase,
        phrase.toList.map (·.block.val) = tokensOf placed
        ∧ phrase.map (·.field.unplaced) = field.map DataField.unplaced
        ∧ linesOf placed = (phrase.map FieldPhrase.field).toList.map DataField.line := by
  cases field with
  | none =>
      obtain rfl : placed = [] := by simpa using marks
      exact ⟨none, rfl, rfl, rfl⟩
  | some field =>
      obtain ⟨⟨_, place⟩, others, rfl, rfl, noMarks⟩ := List.map_eq_cons_iff.mp marks
      obtain rfl : others = [] := by simpa using noMarks
      have isName := isName field rfl
      have isType := isType field rfl
      have name : Text.strip field.name.toList = field.name.toList := Text.strip_of_isName isName
      have typeText : Text.strip (' ' :: field.typeText.toList) = field.typeText.toList := by
        rw [Text.strip_cons (by decide), isType.stripped]
      let phrase : FieldPhrase :=
        { block := ⟨(fieldMark field).token place, rfl⟩
          name := field.name.toList
          typeText := ' ' :: field.typeText.toList
          text_eq := by simp [fieldMark, Mark.token, Mark.value]
          isName := by rw [name, isName]
          hasType := by simpa [typeText] using isType.ne_empty }
      have same : phrase.field.unplaced = field.unplaced := by
        simp [phrase, FieldPhrase.field, DataField.unplaced, name, typeText]
      exact ⟨some phrase, rfl, congrArg some same, rfl⟩

/-- The marks of a variant derive it. -/
theorem exists_variant {variant : VariantDeclaration} {placed : List (Mark × Position)}
    (printable : IsPrintableVariant variant)
    (marks : placed.map Prod.fst = variantMarks variant)
    : ∃ phrase : VariantPhrase,
        phrase.tokens = tokensOf placed
        ∧ phrase.variant.unplaced = variant.unplaced
        ∧ linesOf placed = [phrase.variant.line] := by
  obtain ⟨front, back, rfl, frontMarks, dataMarks⟩ := List.map_eq_append_iff.mp marks
  obtain ⟨docsPlaced, _, rfl, docsMarks, nameMarks⟩ := List.map_eq_append_iff.mp frontMarks
  obtain ⟨⟨_, place⟩, _, rfl, rfl, literalMarks⟩ := List.map_eq_cons_iff.mp nameMarks
  obtain ⟨⟨_, primaryPlace⟩, _, rfl, rfl, restMarks⟩ := List.map_eq_cons_iff.mp literalMarks
  obtain ⟨docs, docTokens, doc, noDocLines⟩ := exists_docs docsMarks
  obtain ⟨alternates, alternateTokens, values, noLines⟩ :=
    exists_leaves Mark.literal .string (fun _ => rfl) (fun _ => rfl) restMarks
  obtain ⟨data, dataTokens, dataText, noDataLines⟩ : ∃ data : Option DataPhrase,
      data.toList.map (·.val.val) = tokensOf back
      ∧ data.map (·.val.val.value) = variant.data
      ∧ linesOf back = [] := by
    cases expression : variant.data with
    | none =>
        obtain rfl : back = [] := by simpa [expression] using dataMarks
        exact ⟨none, rfl, rfl, rfl⟩
    | some text =>
        rw [expression] at dataMarks
        obtain ⟨⟨_, dataPlace⟩, others, rfl, rfl, noMarks⟩ := List.map_eq_cons_iff.mp dataMarks
        obtain rfl : others = [] := by simpa using noMarks
        exact ⟨some ⟨⟨(Mark.data text).token dataPlace, rfl⟩,
          (printable.data text expression).ne_empty⟩, rfl, rfl, rfl⟩
  let phrase : VariantPhrase :=
    { docs
      name := ⟨(Mark.name variant.name).token place, rfl⟩
      primary := ⟨(Mark.literal variant.primary).token primaryPlace, rfl⟩
      alternates
      data }
  have alternateValues : alternates.map (·.val.value) = variant.alternates := by
    simpa [Mark.value] using values
  refine ⟨phrase, ?_, ?_, ?_⟩
  · simp [phrase, VariantPhrase.tokens, docTokens, alternateTokens, dataTokens]
  · simp [phrase, VariantPhrase.variant, VariantDeclaration.unplaced, doc, dataText,
      alternateValues, Mark.token, Mark.value]
  · simp [phrase, VariantPhrase.variant, linesOf_cons, noDocLines, noLines, noDataLines,
      Mark.isPlaced, Mark.token]

/-- The marks of variants derive them, by induction on the variants. -/
theorem exists_variants {variants : List VariantDeclaration} {placed : List (Mark × Position)}
    (printable : ∀ variant ∈ variants, IsPrintableVariant variant)
    (marks : placed.map Prod.fst = variants.flatMap variantMarks)
    : ∃ phrases : List VariantPhrase,
        phrases.flatMap VariantPhrase.tokens = tokensOf placed
        ∧ phrases.map (·.variant.unplaced) = variants.map VariantDeclaration.unplaced
        ∧ linesOf placed = phrases.map (·.variant.line) := by
  induction variants generalizing placed with
  | nil =>
      obtain rfl : placed = [] := by simpa using marks
      exact ⟨[], rfl, rfl, rfl⟩
  | cons variant rest ih =>
      obtain ⟨front, back, rfl, frontMarks, backMarks⟩ := List.map_eq_append_iff.mp marks
      obtain ⟨phrase, tokens, same, line⟩ :=
        exists_variant (printable variant List.mem_cons_self) frontMarks
      obtain ⟨phrases, otherTokens, others, lines⟩ :=
        ih (fun other member => printable other (List.mem_cons_of_mem variant member)) backMarks
      refine ⟨phrase :: phrases, ?_, ?_, ?_⟩
      · rw [List.flatMap_cons, tokens, otherTokens, tokensOf_append]
      · rw [List.map_cons, same, others, List.map_cons]
      · rw [linesOf_append, line, lines, List.map_cons, List.singleton_append]

-----------------------------------------------------------------------------------------
-- Whole declarations
-----------------------------------------------------------------------------------------

/-- The marks of a declaration derive it, wherever they stand. -/
theorem exists_derivation {declaration : Declaration} {placed : List (Mark × Position)}
    (printable : IsPrintable declaration)
    (written : placed.map Prod.fst = declarationMarks declaration)
    : ∃ derivation : Derivation,
        derivation.tokens = tokensOf placed
        ∧ derivation.declaration.unplaced = declaration.unplaced
        ∧ derivation.declaration.lines = linesOf placed := by
  obtain ⟨_, _, rfl, openingMarks, restMarks⟩ := List.map_eq_append_iff.mp written
  obtain ⟨_, _, rfl, headMarks, nameMarks⟩ := List.map_eq_append_iff.mp openingMarks
  obtain ⟨_, _, rfl, importsMarks, docsMarks⟩ := List.map_eq_append_iff.mp headMarks
  obtain ⟨⟨_, place⟩, _, rfl, rfl, fieldMarks⟩ := List.map_eq_cons_iff.mp nameMarks
  obtain ⟨⟨_, equalsPlace⟩, _, rfl, rfl, variantsMarks⟩ := List.map_eq_cons_iff.mp restMarks
  obtain ⟨imports, importTokens, sameImports, importLines⟩ := exists_imports importsMarks
  obtain ⟨docs, docTokens, doc, noDocLines⟩ := exists_docs docsMarks
  obtain ⟨field, fieldTokens, sameField, fieldLines⟩ :=
    exists_field printable.fieldName printable.fieldType fieldMarks
  obtain ⟨variants, variantTokens, sameVariants, variantLines⟩ :=
    exists_variants printable.variants variantsMarks
  let heading : Heading :=
    { imports, docs, name := ⟨(Mark.name declaration.name).token place, rfl⟩ }
  have present : variants ≠ [] := by
    rintro rfl
    exact printable.variants_ne_nil (List.map_eq_nil_iff.mp sameVariants.symm)
  let derivation : Derivation :=
    { heading
      field
      equals := ⟨Mark.equals.token equalsPlace, rfl⟩
      variants
      variants_ne_nil := present }
  refine ⟨derivation, ?_, ?_, ?_⟩
  · simp [derivation, heading, Derivation.tokens, openingTokens, Heading.tokens, importTokens,
      docTokens, fieldTokens, variantTokens]
  · simp only [derivation, heading, Derivation.declaration, Heading.declaration,
      Declaration.unplaced, List.map_map, Option.map_map, Function.comp_def, sameImports,
      sameField, sameVariants, doc]
    rfl
  · simp [derivation, heading, Derivation.declaration, Heading.declaration, Declaration.lines,
      importLines, noDocLines, fieldLines, variantLines, linesOf_cons, Mark.isPlaced,
      Mark.token, Function.comp_def]

/-- What stands between separators holds no separator, by induction on the text. -/
theorem not_mem_of_mem_splitOn {c : Char} {text part : List Char}
    (member : part ∈ text.splitOn c)
    : c ∉ part := by
  induction text generalizing part with
  | nil =>
      obtain rfl : part = [] := by simpa using member
      exact List.not_mem_nil
  | cons first rest ih =>
      rw [List.splitOn_cons_eq_if_modifyHead] at member
      split at member
      next =>
        rcases List.mem_cons.mp member with rfl | later
        · exact List.not_mem_nil
        · exact ih later
      next other =>
        cases parts : rest.splitOn c with
        | nil => exact absurd parts (List.splitOn_ne_nil c rest)
        | cons front others =>
            rw [parts] at member ih
            rcases List.mem_cons.mp member with rfl | later
            · have different : c ≠ first := fun same => other (by simp [same])
              simpa [different] using ih List.mem_cons_self
            · exact ih (List.mem_cons_of_mem front later)

theorem isReadable_of_mem_docMarks {doc : Option String} (isDoc : ∀ text ∈ doc, IsDocText text)
    {mark : Mark} (member : mark ∈ docMarks doc)
    : mark.IsReadable := by
  cases doc with
  | none => cases member
  | some text =>
      obtain ⟨line, isLine, rfl⟩ := List.mem_map.mp member
      exact ⟨not_mem_of_mem_splitOn isLine, isDoc text rfl line isLine⟩

theorem isReadable_of_mem_variantMarks {variant : VariantDeclaration}
    (printable : IsPrintableVariant variant) {mark : Mark} (member : mark ∈ variantMarks variant)
    : mark.IsReadable := by
  simp only [variantMarks, List.mem_append, List.mem_cons, List.mem_map, Option.mem_toList]
    at member
  rcases member with (inDoc | rfl | ⟨literal, -, rfl⟩) | ⟨expression, isData, rfl⟩
  · exact isReadable_of_mem_docMarks printable.doc inDoc
  · exact printable.name
  · trivial
  · exact printable.data expression isData

/-- All marks of a printable declaration can be read back. -/
theorem isReadable_of_mem_marks {declaration : Declaration} (printable : IsPrintable declaration)
    {mark : Mark} (member : mark ∈ declarationMarks declaration)
    : mark.IsReadable := by
  simp only [declarationMarks, List.mem_append, List.mem_cons, List.mem_map, List.mem_flatMap,
    Option.mem_toList] at member
  rcases member with
    ((⟨directive, -, inImport⟩ | inDoc) | rfl | ⟨field, isField, rfl⟩)
    | rfl | ⟨variant, isVariant, inVariant⟩
  · have either : mark = .importWord ∨ mark = .literal directive.statement := by
      simpa [importMarks] using inImport
    rcases either with rfl | rfl <;> trivial
  · exact isReadable_of_mem_docMarks printable.doc inDoc
  · exact printable.name
  · exact ⟨printable.fieldName field isField, printable.fieldType field isField⟩
  · trivial
  · exact isReadable_of_mem_variantMarks (printable.variants variant isVariant) inVariant

/-- Every sheet of a printable declaration is read as the declaration: literals come out of
every mixture of escapes, docs, types and data come out unchanged, whatever stands between
the marks; the lines are those on which the sheet writes the marks.
-/
theorem Sheet.reads_back {declaration : Declaration} {sheet : Sheet}
    (printable : IsPrintable declaration) (prints : sheet.marks = declarationMarks declaration)
    : ∃ result,
        Declaration.ofSource (String.ofList sheet.text) = .ok result
        ∧ result.unplaced = declaration.unplaced
        ∧ result.lines = sheet.lines := by
  obtain ⟨tokens, lexed, significant⟩ := sheet.exists_tokens fun mark member =>
    isReadable_of_mem_marks printable (prints ▸ member)
  have written : sheet.placed.map Prod.fst = declarationMarks declaration := by
    rw [Sheet.placed, placedFrom_marks, ← prints, Sheet.marks]
  obtain ⟨derivation, derived, same, lines⟩ := exists_derivation printable written
  have parsed : Declaration.ofTokens tokens = .ok derivation.declaration :=
    (ofTokens_eq_ok_iff tokens _).mpr ⟨derivation, derived.trans significant.symm, rfl⟩
  refine ⟨derivation.declaration, ?_, same, by rw [lines, sheet.linesOf_placed]⟩
  rw [Declaration.ofSource, lexed]
  simp [Except.mapError, bind, Except.bind, parsed]

/-- A paint with a doc comment, a data field, an escape in a literal, and a closing brace in
quotes in the data.
-/
def paint : Declaration where
  name := "Paint"
  doc := some "Wall"
  field := some { name := "hex", typeText := "s" }
  variants := [{ name := "RED", primary := "r\"d", data := some "'\x7d'" }]

/-- The paint on three lines, with a comment on the second. -/
def paintSheet : Sheet where
  filling := []
  entries := [
    ⟨.docLine "Wall".toList, "#: Wall".toList, rfl, [.lineBreak], fun _ _ => rfl⟩,
    ⟨.name "Paint", "Paint".toList, rfl, [.blank '\t' (by decide)], nofun⟩,
    ⟨.field "hex" "s", "\x7b hex: s \x7d".toList, rfl, [.blank ' ' (by decide)], nofun⟩,
    ⟨.equals, ['='], rfl, [.comment " red".toList (by decide) (by decide)], nofun⟩,
    ⟨.name "RED", "RED".toList, rfl, [.blank ' ' (by decide)], nofun⟩,
    ⟨.literal "r\"d", "\"r\\\"d\"".toList,
      ⟨[.plain 'r' (by decide), .escape '"' '"' (by decide), .plain 'd' (by decide)], rfl, rfl⟩,
      [.blank ' ' (by decide)], nofun⟩,
    ⟨.data "'\x7d'", "\x7b '\x7d' \x7d".toList, rfl, [], nofun⟩]
  separated := by simp

theorem paint_reads_back
    : ∃ result,
        Declaration.ofSource (String.ofList paintSheet.text) = .ok result
        ∧ result.unplaced = paint.unplaced
        ∧ result.lines = [2, 2, 3] := by
  have paintWord : "aint".toList.all isWordPart = true := by decide +kernel
  have redWord : "ED".toList.all isWordPart = true := by decide +kernel
  have printable : IsPrintable paint :=
    { name := ⟨⟨'P', "aint".toList, rfl, by decide +kernel, List.all_eq_true.mp paintWord⟩,
        by decide⟩
      doc := by
        rintro text ⟨⟩
        have clean : ∀ line ∈ "Wall".toList.splitOn '\n', line.getLast? ≠ some '\r' := by decide
        exact clean
      fieldName := by
        rintro field ⟨⟩
        decide +kernel
      fieldType := by
        rintro field ⟨⟩
        exact ⟨by decide, by decide +kernel, .plain 's' (by decide) .empty, rfl⟩
      variants_ne_nil := by decide
      variants := by
        intro variant member
        obtain rfl := List.mem_singleton.mp member
        refine ⟨⟨⟨'R', "ED".toList, rfl, by decide +kernel, List.all_eq_true.mp redWord⟩,
          by decide⟩, ?_, ?_⟩
        · rintro text ⟨⟩
        · rintro text ⟨⟩
          exact ⟨by decide, by decide +kernel,
            .quoted '\'' (.inl rfl) [.plain '\x7d' (by decide)] .empty, rfl⟩ }
  exact Sheet.reads_back printable (rfl : paintSheet.marks = declarationMarks paint)

end Printing

end LiteralEnum
