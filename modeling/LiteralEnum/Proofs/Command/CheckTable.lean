import LiteralEnum.Proofs.Command.EntryPoints
import LiteralEnum.Proofs.Console.PlainMarkup
import LiteralEnum.Proofs.Module.Layout

/-! The field of a model in the table of a check. The header of its column is a text with tags, so
a type is shown as it is written only where nothing in it stands for something else.
-/

namespace LiteralEnum.Command

open Console Files Files.Tree

/-- The name and the type of a field, as they are written in a source. -/
def headerText (field : Model.Field) : List Char := s!"{field.name}: {field.typeText}".toList

/-- The run ends well and prints one table, with a header above its last column. -/
def ShowsHeader (model : Model) (result : Result) (header : List Char) : Prop :=
  ∃ table,
    Check.table model = .ok table
    ∧ table.columns.getLast? = some { header }
    ∧ result.ending = .ok 0
    ∧ result.output.out = [table.text]

theorem ShowsHeader.unique {model : Model} {result other : Result} {header another : List Char}
    (shows : ShowsHeader model result header) (showsOther : ShowsHeader model other another)
    : header = another := by
  obtain ⟨table, made, last, -⟩ := shows
  obtain ⟨same, again, lastAgain, -⟩ := showsOther
  obtain rfl := Except.ok.inj (made.symm.trans again)
  simpa using last.symm.trans lastAgain

-----------------------------------------------------------------------------------------
-- Headers
-----------------------------------------------------------------------------------------

/-- The name of a field begins nothing that stands for something else. -/
theorem isBare_of_isName {name : List Char} (isName : Text.isName name = true) : IsBare name := by
  intro c member
  have continues := Text.isNameContinue_of_mem isName member
  constructor
  · intro begins
    have stops : ['[', '\\', ':'].all (!Text.isNameContinue ·) = true := by decide
    have stopped := List.all_eq_true.mp stops c begins
    rw [continues] at stopped
    cases stopped
  · rw [isHidden, Bool.eq_false_iff, ne_eq, List.contains_iff_mem]
    intro control
    have stops : [7, 8, 11, 12, 13].all (fun code => !Text.isNameContinue (Char.ofNat code))
        = true := by
      decide
    have stopped := List.all_eq_true.mp stops c.toNat control
    rw [Char.ofNat_toNat, continues] at stopped
    cases stopped

theorem headerText_eq (field : Model.Field)
    : headerText field = field.name.toList ++ ':' :: ' ' :: field.typeText.toList := by
  simp [headerText, toString]

/-- A type is as ordinary in its header as it is alone. -/
theorem isOrdinary_headerText_iff {field : Model.Field}
    (isName : Text.isName field.name.toList = true)
    : IsOrdinary (headerText field) ↔ IsOrdinary field.typeText.toList := by
  rw [headerText_eq]
  exact isOrdinary_header_iff (isBare_of_isName isName)

theorem not_hasTag_headerText {field : Model.Field} (isName : Text.isName field.name.toList = true)
    (noTag : ¬ Markup.HasTag field.typeText.toList)
    : ¬ Markup.HasTag (headerText field) := by
  rw [headerText_eq]
  exact fun hasTag => noTag ((isBare_of_isName isName).hasTag_of_header hasTag)

theorem count_headerText {field : Model.Field} (isName : Text.isName field.name.toList = true)
    (noColon : ':' ∉ field.typeText.toList)
    : (headerText field).count ':' = 1 := by
  have notName : ':' ∉ field.name.toList := (isBare_of_isName isName).not_mem (by simp)
  rw [headerText_eq, List.count_append, List.count_eq_zero_of_not_mem notName]
  simp [List.count_eq_zero_of_not_mem noColon]

-----------------------------------------------------------------------------------------
-- Runs
-----------------------------------------------------------------------------------------

/-- A source that can be read is read. -/
theorem on_readSource {environment : Environment} {settings : Settings} {path : Path}
    {text : String} {world : World}
    (settled : Settings.ofEnvironment environment = .ok settings)
    (holds : HoldsText world.tree path text)
    : (readSource disk environment path).on world = (.ok (some text), world) := by
  obtain ⟨bytes, isRead, -⟩ := id holds
  obtain ⟨source?, after, done⟩ := exists_readSource settled (kind?_of_read isRead)
  rw [done]
  cases reading done with
  | done found => rw [found.unique holds]
  | unread absent => exact absurd holds (absent text)

/-- Where a model is built, only stages are recorded. -/
theorem exists_on_buildSource {source : String} {model : Model}
    (built : Model.ofSource source = .ok model) (isVerbose : Bool) (path : Path) (world : World)
    : ∃ notices,
        (buildSource isVerbose path source).on world
          = (.ok (some model), world.notified notices) := by
  obtain ⟨declaration, parsed, checked⟩ := exists_declaration built
  rw [buildSource, parsed]
  dsimp only
  rw [Act.on_bind, Act.on_record, checked]
  dsimp only
  rw [Act.on_bind, Act.on_record]
  dsimp only
  rw [Act.on_pure, World.notified_notified]
  exact ⟨_, rfl⟩

/-- A check of a model prints the table, or breaks off where there is none. -/
theorem exists_on_check {environment : Environment} {settings : Settings} {name text : String}
    {tree : Tree} {model : Model} (settled : Settings.ofEnvironment environment = .ok settings)
    (holds : HoldsText tree (Path.ofText name) text) (built : Model.ofSource text = .ok model)
    (isVerbose : Bool)
    : ∃ notices,
        (Check.run disk environment isVerbose name false).on { tree }
          = match Check.table model with
            | .ok table => (.ok 0, ⟨⟨[table.text], notices⟩, tree⟩)
            | .error error => (.error (.markup error), ⟨⟨[], notices⟩, tree⟩) := by
  obtain ⟨notices, buildsModel⟩ := exists_on_buildSource built isVerbose (Path.ofText name) { tree }
  refine ⟨notices, ?_⟩
  have isThere : HoldsText ({ tree } : World).tree (Path.ofText name) text := holds
  have read := on_readSource settled isThere
  rw [Check.run, Act.on_bind, read]
  dsimp only
  rw [Act.on_bind, buildsModel]
  dsimp only
  rw [Act.on_bind, Check.showModel, if_neg Bool.false_ne_true]
  cases Check.table model <;> rfl

section

variable {environment : Environment} {settings : Settings} {arguments : List String}
  {name text : String} {isVerbose : Bool} {tree : Tree} {model : Model} {field : Model.Field}
  (settled : Settings.ofEnvironment environment = .ok settings)
  (asked : Request.ofArguments arguments = .ok ⟨.check name false, isVerbose⟩)
  (holds : HoldsText tree (Path.ofText name) text) (built : Model.ofSource text = .ok model)
  (declares : model.field = some field)
include settled asked holds built declares

/-- The table shows what is shown of the header. -/
theorem exists_run_of_shown {header : List Char}
    (shown : showMarkup (headerText field) = .ok header)
    : ∃ result,
        (run disk environment arguments).run tree = (result, tree)
        ∧ ShowsHeader model result header := by
  obtain ⟨notices, checked⟩ := exists_on_check settled holds built isVerbose
  have columns : Check.dataColumns model = .ok [{ header }] := by
    rw [Check.dataColumns, declares]
    dsimp only
    rw [← headerText, shown]
    rfl
  cases made : Check.table model with
  | error error =>
      rw [Check.table, columns] at made
      cases made
  | ok table =>
      rw [made] at checked
      refine ⟨_, run_of_perform asked checked, table, made, ?_, rfl, rfl⟩
      rw [Check.table, columns] at made
      obtain rfl := Except.ok.inj made
      rfl

/-- A header that cannot be shown ends the run. -/
theorem exists_run_of_not_shown {error : MarkupError}
    (failed : showMarkup (headerText field) = .error error)
    : ∃ output,
        (run disk environment arguments).run tree = (⟨.error (.markup error), output⟩, tree) := by
  obtain ⟨notices, checked⟩ := exists_on_check settled holds built isVerbose
  have noTable : Check.table model = .error error := by
    rw [Check.table, Check.dataColumns, declares]
    dsimp only
    rw [← headerText, failed]
    rfl
  rw [noTable] at checked
  exact ⟨_, run_of_perform asked checked⟩

-----------------------------------------------------------------------------------------
-- Types in tables
-----------------------------------------------------------------------------------------

end

/-- A source with a field of a type. -/
def fieldSource (type : String) : String := "T \x7b f: " ++ type ++ " \x7d = A \"a\""

/-- A file that holds a source with a field of a type. -/
def fieldTree (type : String) : Tree where
  nodes := [(["a.lenum"], .file (Text.Utf8.encode (fieldSource type).toList))]

/-- The field of a source can be computed. -/
theorem exists_model_of_field {source : String} {field : Model.Field}
    (declared : (Model.ofSource source).toOption.bind (·.field) = some field)
    : ∃ model, Model.ofSource source = .ok model ∧ model.field = some field := by
  obtain ⟨model, built, declares⟩ := Option.bind_eq_some_iff.mp declared
  cases ending : Model.ofSource source with
  | error error =>
      rw [ending] at built
      cases built
  | ok other =>
      rw [ending] at built
      obtain rfl := Option.some.inj built
      exact ⟨other, rfl, declares⟩

theorem ofArguments_check : Request.ofArguments ["check", "a.lenum"]
    = .ok ⟨.check "a.lenum" false, false⟩ := by
  decide +kernel

end LiteralEnum.Command
