import LiteralEnum.Proofs.Module.TableLayout

/-! What stands around the class and the tables of a module. Every line before the class stands
alone, and a header adds nothing that matters; the exported names are one statement.
-/

namespace LiteralEnum.Module

open Reading (spaces)
open Target (ReadsTexts ReadsLines brokenLines statement? startsStatement lineMarks pieceAt?
  essence)

-----------------------------------------------------------------------------------------
-- Before the class
-----------------------------------------------------------------------------------------

theorem standsAlone_blank : StandsAlone "" := ⟨_, .single rfl⟩

theorem IsStatement.standsAlone {line : String} (isStatement : IsStatement line)
    : StandsAlone line := by
  obtain ⟨tokens, isStatement⟩ := isStatement
  obtain ⟨read, -, reads⟩ :=
    Target.readsLines_statement isStatement Nat.zero_lt_one (Nat.zero_le (0 + 1))
  rw [Nat.zero_mul, List.replicate_zero, List.nil_append] at reads
  exact ⟨read, reads⟩

/-- Lines that stand alone are read one after the other, by induction on them. -/
theorem exists_readsTexts_alone {lines : List String} (alone : ∀ line ∈ lines, StandsAlone line)
    : ∃ tokens, ∀ width, ReadsTexts width 0 0 0 (lines.map String.toList) tokens := by
  induction lines with
  | nil => exact ⟨[], fun width => .nil width (Nat.le_refl 0)⟩
  | cons line lines ih =>
      obtain ⟨⟨read, reads⟩, alone⟩ := List.forall_mem_cons.mp alone
      obtain ⟨others, readsMore⟩ := ih alone
      refine ⟨essence read ++ others, fun width => ?_⟩
      have first : ReadsTexts width 0 0 0 [line.toList] (essence read) :=
        ⟨Nat.le_refl 0, read, List.append_nil _, by rwa [List.flatMap_singleton]⟩
      exact first.append (readsMore width)

/-- A header is read as comments, by induction on its lines. -/
theorem readsTexts_header (settings : Settings) {width start next : Nat}
    {texts : List (List Char)} {tokens : List Target.Token}
    (rest : ReadsTexts width start next 0 texts tokens)
    : ReadsTexts width start next 0 ((headerLines settings).map String.toList ++ texts) tokens := by
  rw [headerLines]
  split
  next =>
    have unbroken : ∀ line ∈ Text.splitLines settings.headerText.toList, '\n' ∉ line :=
      fun line isLine member =>
        absurd (Text.isLineBreak_of_mem_splitLines isLine _ member) (by decide)
    generalize Text.splitLines settings.headerText.toList = header at unbroken ⊢
    induction header with
    | nil => exact rest
    | cons line header ih =>
        obtain ⟨noFeed, unbroken⟩ := List.forall_mem_cons.mp unbroken
        have comment : ("# " ++ String.ofList line).toList = '#' :: ' ' :: line := by
          have number : "# ".toList = ['#', ' '] := by decide +kernel
          simp [number]
        rw [List.map_cons, List.map_cons, comment]
        exact (ih unbroken).comment (List.not_mem_cons_of_ne_of_not_mem (by decide) noFeed)
  next => exact rest

/-- What the docstring of a module says: the doc text of the type, or its name. -/
def moduleDoc (model : Model) : String :=
  (spoken? model.doc).getD s!"The {model.name} enumeration."

section

variable {model : Model}

theorem single_moduleDoc (isName : Text.isName model.name.toList = true)
    (single : ∀ text ∈ model.doc, '\n' ∉ text.toList) : '\n' ∉ (moduleDoc model).toList := by
  rw [moduleDoc]
  cases said : spoken? model.doc with
  | none => exact not_mem_of_name isName (by decide +kernel)
  | some text => exact single_spoken single text said

theorem isStatement_of_mem_docstring {text line : String} (single : '\n' ∉ text.toList)
    (isLine : line ∈ docstring "" text) : IsStatement line := by
  rw [docstring, Docstring.lines_of_single single, List.map_singleton, List.mem_singleton] at isLine
  obtain ⟨tokens, isStatement⟩ := Docstring.exists_statement_line single
  refine ⟨tokens, ?_⟩
  rw [isLine, String.toList_ofList]
  exact isStatement

theorem standsAlone_of_mem_preambleLines (isName : Text.isName model.name.toList = true)
    (single : ∀ text ∈ model.doc, '\n' ∉ text.toList)
    (imports : ∀ text ∈ model.imports, StandsAlone text)
    : ∀ line ∈ preambleLines model, StandsAlone line := by
  refine List.forall_mem_append.mpr ⟨List.forall_mem_append.mpr ⟨?_, ?_⟩, ?_⟩
  · exact fun line isLine =>
      (isStatement_of_mem_docstring (single_moduleDoc isName single) isLine).standsAlone
  · have plain {line : String} (checked : isPlainStatement line = true) : StandsAlone line :=
      (isStatement_of_plain checked).standsAlone
    simp only [List.forall_mem_cons, List.not_mem_nil, false_implies, implies_true, and_true]
    exact ⟨standsAlone_blank, plain (by decide +kernel), standsAlone_blank,
      plain (by decide +kernel), plain (by decide +kernel), plain (by decide +kernel)⟩
  · split
    next => exact nofun
    next => exact List.forall_mem_cons.mpr ⟨standsAlone_blank, imports⟩

end

-----------------------------------------------------------------------------------------
-- Exported names
-----------------------------------------------------------------------------------------

def exportLine (name : String) : String := s!"__all__ = [\"{name}\", \"VARIANTS\"]"

/-- The tokens of the list of exported names. -/
def exportTokens (name : String) : List Target.Token :=
  [⟨.name, "__all__".toList⟩, .sign '=', .sign '[', ⟨.string, '"' :: (name.toList ++ ['"'])⟩,
    .sign ',', ⟨.string, "\"VARIANTS\"".toList⟩, .sign ']', ⟨.newline, ['\n']⟩]

/-- The tokens of what stands behind the tables. -/
def exportsOf (settings : Settings) (name : String) : List Target.Token :=
  if settings.emitAll then exportTokens name else []

theorem toList_exportLine (name : String)
    : (exportLine name).toList
      = '_' :: '_' :: 'a' :: 'l' :: 'l' :: '_' :: '_' :: ' ' :: '=' :: ' ' :: '[' :: '"'
        :: (name.toList ++ '"' :: ", \"VARIANTS\"]".toList) := by
  have parts : exportLine name = "__all__ = [\"" ++ name ++ "\", \"VARIANTS\"]" := rfl
  rw [parts, String.toList_append, String.toList_append]
  simp

theorem lineMarks_token {text rest : List Char} {kind : Target.Token.Kind} {word : List Char}
    (nonempty : text ≠ [])
    (found : pieceAt? (text.dropWhile Target.isSpacing) = some (.token kind word rest))
    (inLine : kind ≠ .newline) : lineMarks text = .token ⟨kind, word⟩ :: lineMarks rest := by
  rw [Target.lineMarks_of_piece nonempty found]
  cases kind <;> first | rfl | exact absurd rfl inLine

/-- The name of the list is a word, although underscores start it. -/
theorem pieceAt?_exports (rest : List Char)
    : pieceAt? ('_' :: '_' :: 'a' :: 'l' :: 'l' :: '_' :: '_' :: ' ' :: rest)
      = some (.token .name "__all__".toList (' ' :: rest)) := by
  have chars : "__all__".toList = ['_', '_', 'a', 'l', 'l', '_', '_'] := by decide +kernel
  have parts : ∀ c ∈ ['_', 'a', 'l'], Lexer.isWordPart c = true :=
    List.all_eq_true.mp (by decide +kernel)
  have stops : Lexer.isWordPart ' ' = false := by decide +kernel
  have starts : Text.isNameStart '_' = true := by decide +kernel
  let text := '_' :: '_' :: 'a' :: 'l' :: 'l' :: '_' :: '_' :: ' ' :: rest
  have noEnd : Target.lineEndPiece? text = none := rfl
  have noTriple : Target.openTriple? text = none := rfl
  have noNumber : Target.spanNumber? text = none := rfl
  have noOperator : Target.operatorAt? text = none := rfl
  have noString : Target.stringPiece? text = none := rfl
  simp only [List.forall_mem_cons] at parts
  rw [Target.pieceAt?_of_ne (by decide), noEnd, noTriple, noNumber, noOperator, noString, chars]
  simp [Target.wordPiece?, parts, stops, starts]

/-- The exported names are a statement with these tokens. -/
theorem statement?_exportLine {name : String} (isName : Text.isName name.toList = true)
    : statement? (exportLine name).toList = some (exportTokens name) := by
  have inert : ∀ d ∈ name.toList, d ≠ '"' ∧ d ≠ '\\' ∧ d ≠ '\n' := by
    intro d member
    have plain := (isInert_name isName).plain d member
    refine ⟨?_, ?_, ?_⟩ <;> rintro rfl <;> exact absurd plain (by decide)
  have noFeed : '\n' ∉ (exportLine name).toList := not_mem_of_name isName (by decide +kernel)
  obtain ⟨c, chars, nonempty⟩ := List.exists_cons_of_ne_nil (l := name.toList) (by
    intro empty
    rw [empty] at isName
    cases isName)
  have named (rest : List Char) : pieceAt? ('"' :: (name.toList ++ '"' :: rest))
      = some (.token .string ('"' :: (name.toList ++ ['"'])) rest) := by
    rw [nonempty] at inert ⊢
    exact Target.pieceAt?_doubleQuoted inert
  have behind : lineMarks (", \"VARIANTS\"]".toList ++ ['\n'])
      = [.token (.sign ','), .token ⟨.string, "\"VARIANTS\"".toList⟩, .token (.sign ']'),
        .lineBreak ['\n']] := by decide +kernel
  have marks : lineMarks ((exportLine name).toList ++ ['\n'])
      = ((exportTokens name).dropLast.map .token) ++ [.lineBreak ['\n']] := by
    have exports (rest : List Char)
        : lineMarks ('_' :: '_' :: 'a' :: 'l' :: 'l' :: '_' :: '_' :: ' ' :: rest)
          = .token ⟨.name, "__all__".toList⟩ :: lineMarks (' ' :: rest) :=
      lineMarks_token (by simp) (pieceAt?_exports rest) (by decide)
    have equals (rest : List Char) : lineMarks (' ' :: '=' :: ' ' :: rest)
        = .token (.sign '=') :: lineMarks (' ' :: rest) :=
      lineMarks_token (by simp) rfl (by decide)
    have opening (rest : List Char) : lineMarks (' ' :: '[' :: rest)
        = .token (.sign '[') :: lineMarks rest :=
      lineMarks_token (by simp) rfl (by decide)
    have quoted (rest : List Char) : lineMarks ('"' :: (name.toList ++ '"' :: rest))
        = .token ⟨.string, '"' :: (name.toList ++ ['"'])⟩ :: lineMarks rest :=
      lineMarks_token (by simp) (named rest) (by decide)
    rw [toList_exportLine]
    simp only [List.cons_append, List.append_assoc, exports, equals, opening, quoted, behind]
    rfl
  have starts : startsStatement ((exportLine name).toList ++ ['\n']) = true := by
    rw [toList_exportLine]
    rfl
  exact Target.statement?_line noFeed starts marks rfl

theorem readsTexts_allLines (settings : Settings) {name : String}
    (isName : Text.isName name.toList = true) {width : Nat} (positive : 0 < width) (start : Nat)
    : ∃ next,
        ReadsTexts width start next 0 ((allLines settings name).map String.toList)
          (exportsOf settings name) := by
  rw [allLines, exportsOf]
  split
  next =>
    refine ⟨0, ReadsTexts.blank ?_⟩
    have exported := Target.readsTexts_statement (statement?_exportLine isName) positive
      (Nat.zero_le (start + 1))
    rw [Nat.zero_mul, List.replicate_zero, List.nil_append] at exported
    exact exported
  next => exact ⟨start, .nil width (Nat.zero_le start)⟩

end LiteralEnum.Module
