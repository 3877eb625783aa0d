import LiteralEnum.Module
import LiteralEnum.Proofs.Model.Building
import LiteralEnum.Proofs.Target.EnclosedText

/-! The data table of a module. Its tokens are one element for each variant, and no data
expression takes in the parenthesis behind it or shifts the data of another variant. The one
exception are lone carriage returns: the check of an expression reads past them, and the
compiler ends a line there.
-/

namespace LiteralEnum.Module

open Target (IsBalanced HasTokens ReadsText elementTokens outerCommas hasLoneReturn)

-----------------------------------------------------------------------------------------
-- The text of the table
-----------------------------------------------------------------------------------------

/-- The lines of the table, one for each variant. -/
def dataRows (indent : String) (variants : List Model.Variant) : List String :=
  variants.map fun variant => s!"{indent}{dataElement variant.data},"

/-- The value of the data table, from its opening parenthesis to the line of its closing one.
-/
def dataValue (indent : String) (model : Model) : String :=
  unlines ("(" :: dataRows indent model.variants ++ [")"])

theorem toList_unlines (lines : List String)
    : (unlines lines).toList = lines.flatMap fun line => line.toList ++ ['\n'] := by
  rw [unlines, String.toList_join, List.flatMap_map]
  simp only [String.toList_append]
  rfl

/-- The data table is an assignment of its value. -/
theorem unlines_dataLines {model : Model} {field : Model.Field}
    (declared : model.field = some field) (indent : String)
    : unlines (dataLines indent model)
      = s!"\n_DATA: tuple[{field.typeText} | None, ...] = " ++ dataValue indent model := by
  have isOpen : s!"_DATA: tuple[{field.typeText} | None, ...] = ("
      = s!"_DATA: tuple[{field.typeText} | None, ...] = " ++ "(" := by
    have parts : " | None, ...] = (" = " | None, ...] = " ++ "(" := rfl
    change _ ++ " | None, ...] = (" = _ ++ " | None, ...] = " ++ "("
    simp only [parts, String.append_assoc]
  have start : s!"\n_DATA: tuple[{field.typeText} | None, ...] = "
      = "\n" ++ s!"_DATA: tuple[{field.typeText} | None, ...] = " := by
    have parts : "\n_DATA: tuple[" = "\n" ++ "_DATA: tuple[" := rfl
    change "\n_DATA: tuple[" ++ _ ++ _ = _ ++ ("_DATA: tuple[" ++ _ ++ _)
    simp only [parts, String.append_assoc]
  apply String.toList_inj.mp
  rw [dataValue, start, String.toList_append, String.toList_append, toList_unlines,
    toList_unlines, dataLines, declared]
  dsimp only
  rw [isOpen, dataRows]
  simp

theorem toList_row (indent element : String)
    : s!"{indent}{element},".toList ++ ['\n']
      = indent.toList ++ (element.toList ++ [',', '\n']) := by
  change (indent ++ element ++ ",").toList ++ ['\n'] = _
  rw [String.toList_append, String.toList_append, List.append_assoc, List.append_assoc]
  rfl

theorem toList_dataElement (expression : String)
    : (dataElement (some expression)).toList = '(' :: expression.toList ++ [')'] := by
  change ("(" ++ expression ++ ")").toList = _
  rw [String.toList_append, String.toList_append]
  rfl

theorem isSpacing_indent (settings : Settings)
    : ∀ c ∈ settings.indent.toList, Target.isSpacing c = true := by
  intro c member
  rw [Settings.indent, String.toList_ofList] at member
  rw [List.eq_of_mem_replicate member]
  rfl

-----------------------------------------------------------------------------------------
-- The tokens of the table
-----------------------------------------------------------------------------------------

/-- The tokens of the data of a variant: the name for no data, or the tokens of the expression
in parentheses, which close what they open and no more.
-/
inductive IsElement : Option String → List Target.Token → Prop where
  | none : IsElement none [⟨.name, ['N', 'o', 'n', 'e']⟩]
  | some {expression : String} {inside : List Target.Token} (balanced : IsBalanced inside)
    (tokens : HasTokens expression.toList inside)
    : IsElement (some expression) (elementTokens inside)

/-- Elements with a comma and a line break behind each. -/
def rowTokens (elements : List (List Target.Token)) : List Target.Token :=
  elements.flatMap (· ++ [.sign ',', .inner])

/-- The tokens of a table of data: between its parentheses one element for each, with a comma
behind it, and no other comma stands between no further brackets.
-/
structure IsTable (data : List (Option String)) (tokens : List Target.Token) : Prop where
  elements
    : ∃ elements, List.Forall₂ IsElement data elements
        ∧ tokens = .sign '(' :: .inner :: rowTokens elements
          ++ [.sign ')', ⟨.newline, ['\n']⟩, ⟨.endOfText, []⟩]
  commas : outerCommas 0 tokens = data.length

theorem IsElement.outerCommas {data : Option String} {element : List Target.Token}
    (isElement : IsElement data element) (others : List Target.Token)
    : outerCommas 1 (element ++ others) = outerCommas 1 others := by
  cases isElement with
  | none => exact Nat.zero_add _
  | some balanced tokens => exact balanced.outerCommas_elementTokens others

theorem outerCommas_rowTokens {data : List (Option String)} {elements : List (List Target.Token)}
    (areElements : List.Forall₂ IsElement data elements) (others : List Target.Token)
    : outerCommas 1 (rowTokens elements ++ others) = data.length + outerCommas 1 others := by
  induction areElements with
  | nil => exact (Nat.zero_add _).symm
  | @cons datum element data elements isElement _ ih =>
      have row : rowTokens (element :: elements) ++ others
          = element ++ (.sign ',' :: .inner :: (rowTokens elements ++ others)) := by
        simp [rowTokens]
      have comma : outerCommas 1 (.sign ',' :: .inner :: (rowTokens elements ++ others))
          = 1 + (0 + outerCommas 1 (rowTokens elements ++ others)) := rfl
      rw [row, isElement.outerCommas, comma, ih, List.length_cons]
      omega

theorem isTable_of_elements {data : List (Option String)} {elements : List (List Target.Token)}
    (areElements : List.Forall₂ IsElement data elements)
    : IsTable data (.sign '(' :: .inner :: rowTokens elements
        ++ [.sign ')', ⟨.newline, ['\n']⟩, ⟨.endOfText, []⟩]) where
  elements := ⟨elements, areElements, rfl⟩
  commas := by
    have start (rest : List Target.Token)
        : outerCommas 0 (.sign '(' :: .inner :: rest) = 0 + (0 + outerCommas 1 rest) := rfl
    have ending : outerCommas 1
        [.sign ')', ⟨.newline, ['\n']⟩, ⟨.endOfText, []⟩] = 0 := by decide
    rw [List.cons_append, List.cons_append, start, outerCommas_rowTokens areElements, ending]
    simp

-----------------------------------------------------------------------------------------
-- The data of a model
-----------------------------------------------------------------------------------------

theorem dataProblem?_eq_none_iff (compiler : Target.Compiler) (text : String)
    : compiler.dataProblem? text = none
      ↔ Target.escapesParentheses text.toList = false
        ∧ compiler.accepts (Target.Compiler.dataSample text.toList) = true := by
  rw [Target.Compiler.dataProblem?, Target.Compiler.sampleProblem?]
  cases Target.escapesParentheses text.toList <;>
    cases compiler.accepts (Target.Compiler.dataSample text.toList) <;> simp

section

variable {compiler : Target.Compiler} {indent : String}

/-- The row of a variant is one element, which leaves the table where it was. -/
theorem exists_element
    (reads : ∀ text, compiler.accepts text = true → (Target.tokens text).failure = none)
    (spacing : ∀ c ∈ indent.toList, Target.isSpacing c = true) {data : Option String}
    (fits : ∀ expression ∈ data, compiler.dataProblem? expression = none)
    (noLone : ∀ expression ∈ data, hasLoneReturn expression.toList = false)
    : ∃ element, IsElement data element
      ∧ ReadsText { depth := 1 } (s!"{indent}{dataElement data},".toList ++ ['\n'])
          (element ++ [.sign ',', .inner]) { depth := 1 } := by
  simp only [toList_row]
  cases data with
  | none => exact ⟨_, .none, Target.readsText_none spacing⟩
  | some expression =>
      obtain ⟨stays, accepted⟩ := (dataProblem?_eq_none_iff compiler _).mp (fits expression rfl)
      obtain ⟨inside, balanced, tokens, element⟩ :=
        Target.exists_tokens (noLone expression rfl) stays (reads _ accepted)
      refine ⟨_, .some balanced tokens, ?_⟩
      rw [toList_dataElement]
      simpa using element indent.toList spacing

/-- The rows of all variants, by induction on them. -/
theorem exists_elements
    (reads : ∀ text, compiler.accepts text = true → (Target.tokens text).failure = none)
    (spacing : ∀ c ∈ indent.toList, Target.isSpacing c = true) {variants : List Model.Variant}
    (fits
      : ∀ variant ∈ variants, ∀ expression ∈ variant.data,
          compiler.dataProblem? expression = none)
    (noLone
      : ∀ variant ∈ variants, ∀ expression ∈ variant.data,
          hasLoneReturn expression.toList = false)
    : ∃ elements, List.Forall₂ IsElement (variants.map (·.data)) elements
      ∧ ReadsText { depth := 1 } (unlines (dataRows indent variants)).toList
          (rowTokens elements) { depth := 1 } := by
  induction variants with
  | nil => exact ⟨[], .nil, [], nofun, rfl, .nil _⟩
  | cons variant rest ih =>
      obtain ⟨fitsFirst, fitsRest⟩ := List.forall_mem_cons.mp fits
      obtain ⟨noLoneFirst, noLoneRest⟩ := List.forall_mem_cons.mp noLone
      obtain ⟨element, isElement, first⟩ := exists_element reads spacing fitsFirst noLoneFirst
      obtain ⟨elements, areElements, others⟩ := ih fitsRest noLoneRest
      refine ⟨element :: elements, .cons isElement areElements, ?_⟩
      simpa [toList_unlines, dataRows, rowTokens] using first.append others

end

/-- The data of a built model has no problem. -/
theorem fits_of_ofDeclaration {compiler : Target.Compiler} {declaration : Declaration}
    {model : Model} (built : Model.ofDeclaration compiler declaration = .ok model)
    : ∀ variant ∈ model.variants, ∀ expression ∈ variant.data,
        compiler.dataProblem? expression = none := by
  obtain ⟨admissible, faithful⟩ := Model.sound_of_ok built
  intro variant member expression isData
  obtain ⟨i, found⟩ := List.mem_iff_getElem?.mp member
  rw [faithful.variants] at found
  obtain ⟨declared, foundDeclared, rfl⟩ := Option.map_eq_some_iff.mp found
  exact admissible.fit.data declared (List.mem_of_getElem? foundDeclared) expression isData

/-- The data table of a built model is aligned with its variants, if the compiler accepts only
texts whose tokens can all be read and no data expression has a lone carriage return.
-/
theorem data_aligned {compiler : Target.Compiler}
    (reads : ∀ text, compiler.accepts text = true → (Target.tokens text).failure = none)
    {declaration : Declaration} {model : Model}
    (built : Model.ofDeclaration compiler declaration = .ok model)
    {field : Model.Field} (declared : model.field = some field)
    (noLone
      : ∀ variant ∈ model.variants, ∀ expression ∈ variant.data,
          hasLoneReturn expression.toList = false)
    (settings : Settings)
    : unlines (dataLines settings.indent model)
        = s!"\n_DATA: tuple[{field.typeText} | None, ...] = " ++ dataValue settings.indent model
      ∧ (Target.tokens (dataValue settings.indent model).toList).failure = none
      ∧ IsTable (model.variants.map (·.data))
          (Target.tokens (dataValue settings.indent model).toList).tokens := by
  obtain ⟨elements, areElements, rows⟩ :=
    exists_elements reads (isSpacing_indent settings) (fits_of_ofDeclaration built) noLone
  have text : (dataValue settings.indent model).toList
      = '(' :: '\n' :: (unlines (dataRows settings.indent model.variants)).toList
          ++ [')', '\n'] := by
    simp [dataValue, toList_unlines]
  refine ⟨unlines_dataLines declared _, ?_⟩
  rw [text, Target.tokens_table rows]
  exact ⟨rfl, isTable_of_elements areElements⟩

/-- The verdicts of the language, on texts whose tokens can all be read. -/
def tokenizing : Target.Compiler where
  accepts text := Target.Compiler.standard.accepts text && (Target.tokens text).failure.isNone
  statements? := Target.Compiler.standard.statements?

theorem tokenizing_reads (text : List Char) (accepted : tokenizing.accepts text = true)
    : (Target.tokens text).failure = none :=
  Option.isNone_iff_eq_none.mp (Bool.and_eq_true_iff.mp accepted).2

/-- Data over two lines, with a parenthesis in a comment. -/
def commentedData : Declaration where
  name := "T"
  field := some { name := "f", typeText := "int" }
  variants := [
    { name := "A", primary := "a", data := some "[1, # )\n2]" },
    { name := "B", primary := "b" }]

def commentedModel : Model where
  name := "T"
  variants := [
    { index := 0, name := "A", primary := "a", alternates := [], data := some "[1, # )\n2]" },
    { index := 1, name := "B", primary := "b", alternates := [] }]
  owners := [("a", 0), ("b", 1)]
  field := some { name := "f", typeText := "int" }

/-- The data table of such data, with the usual indent. -/
theorem data_aligned_commented
    : Model.ofDeclaration tokenizing commentedData = .ok commentedModel
      ∧ unlines (dataLines "    " commentedModel)
        = "\n_DATA: tuple[int | None, ...] = " ++ dataValue "    " commentedModel
      ∧ (Target.tokens (dataValue "    " commentedModel).toList).failure = none
      ∧ IsTable [some "[1, # )\n2]", none]
          (Target.tokens (dataValue "    " commentedModel).toList).tokens :=
  have built : Model.ofDeclaration tokenizing commentedData = .ok commentedModel := by
    decide +kernel
  ⟨built, data_aligned tokenizing_reads built rfl (by decide) {}⟩

/-- Data that closes its parenthesis before a lone return, and opens another behind it. -/
def loneReturnData : Declaration where
  name := "T"
  field := some { name := "f", typeText := "int" }
  variants := [
    { name := "A", primary := "a", data := some "1)\n\r, (2" },
    { name := "B", primary := "b", data := some "3" }]

/-- Two variants with three elements of data. -/
theorem not_data_aligned_loneReturn
    : ∃ model, Model.ofDeclaration tokenizing loneReturnData = .ok model
        ∧ ¬IsTable (model.variants.map (·.data))
            (Target.tokens (dataValue "    " model).toList).tokens := by
  have counted : (Model.ofDeclaration tokenizing loneReturnData).map (fun model =>
      (model.variants.length,
        outerCommas 0 (Target.tokens (dataValue "    " model).toList).tokens))
      = .ok (2, 3) := by decide +kernel
  cases built : Model.ofDeclaration tokenizing loneReturnData with
  | error violation =>
      rw [built] at counted
      cases counted
  | ok model =>
      rw [built] at counted
      obtain ⟨variants, commas⟩ := Prod.mk.inj (Except.ok.inj counted)
      refine ⟨model, rfl, fun isTable => ?_⟩
      have aligned := isTable.commas
      rw [commas, List.length_map, variants] at aligned
      cases aligned

end LiteralEnum.Module
