import LiteralEnum.Module.File
import LiteralEnum.Proofs.Command.Failures
import LiteralEnum.Proofs.Command.Requests

/-! Three ways from one source file: the command that prints its module, the command that shows
its model, and the function that gives the module to a program. They agree on whether there is
one, and the two commands report the same where there is none.
-/

namespace LiteralEnum.Command

open Files Files.Tree

-----------------------------------------------------------------------------------------
-- Modules of files
-----------------------------------------------------------------------------------------

/-- No variable changes the encoding of sources. -/
theorem encoding_of_ofEnvironment {environment : Environment} {settings : Settings}
    (settled : Settings.ofEnvironment environment = .ok settings)
    : settings.encoding = "utf-8" := by
  unfold Settings.ofEnvironment at settled
  cases given : environment.value? "LITENUM_INDENT_WIDTH" with
  | none =>
      rw [given] at settled
      rw [← Except.ok.inj settled]
  | some text =>
      rw [given] at settled
      dsimp only at settled
      cases parsed : Text.parseInteger text with
      | error error =>
          rw [parsed] at settled
          cases settled
      | ok width =>
          rw [parsed] at settled
          rw [← Except.ok.inj settled]

theorem ofBytes_eq {settings : Settings} (isUtf8 : settings.encoding = "utf-8")
    (bytes : Text.Bytes)
    : Module.ofBytes settings bytes
      = ((Text.Encoding.utf8.readText bytes).mapError .decoding).bind
          (Module.ofSource settings) := by
  have named : Text.Encoding.named? "utf-8" = some .utf8 := by decide
  rw [Module.ofBytes, isUtf8, named]
  rfl

/-- The module of a file is that of its text. -/
theorem run_ofFile {settings : Settings} (isUtf8 : settings.encoding = "utf-8") {tree : Tree}
    {path : Path} {source : String} (holds : HoldsText tree path source)
    : (Module.ofFile disk settings path).run tree
      = ((Module.ofSource settings source).mapError .compile, tree) := by
  obtain ⟨bytes, isRead, decoded⟩ := holds
  have made : Module.ofBytes settings bytes = Module.ofSource settings source := by
    rw [ofBytes_eq isUtf8, decoded]
    rfl
  rw [Module.ofFile, StateT.run_bind, isRead, ← made]
  rfl

/-- A file without a text has no module. -/
theorem exists_run_ofFile_error {settings : Settings} (isUtf8 : settings.encoding = "utf-8")
    {tree : Tree} {path : Path} (absent : ∀ source, ¬ HoldsText tree path source)
    : ∃ error, (Module.ofFile disk settings path).run tree = (.error error, tree) := by
  obtain ⟨answer, isRead⟩ := exists_answer (relates_read path) tree
  rw [Module.ofFile, StateT.run_bind, isRead]
  cases answer with
  | error failure => exact ⟨.unread failure, rfl⟩
  | ok bytes =>
      cases decoded : Text.Encoding.utf8.readText bytes with
      | error error =>
          have failed : Module.ofBytes settings bytes = .error (.decoding error) := by
            rw [ofBytes_eq isUtf8, decoded]
            rfl
          refine ⟨.compile (.decoding error), ?_⟩
          change ((Module.ofBytes settings bytes).mapError _, tree) = _
          rw [failed]
          rfl
      | ok source => exact absurd ⟨bytes, isRead, decoded⟩ (absent source)

/-- A model that is built has a module, whatever the settings. -/
theorem exists_render {compiler : Target.Compiler} {declaration : Declaration} {model : Model}
    (built : Model.ofDeclaration compiler declaration = .ok model) (settings : Settings)
    : ∃ text, model.render settings = .ok text := by
  obtain ⟨admissible, faithful⟩ := Model.sound_of_ok built
  obtain ⟨definitions, written, -⟩ := Module.exists_tables admissible faithful settings
  exact ⟨_, by rw [Model.render, Module.lines_of_definitionLines written, Except.map]⟩

theorem exists_declaration {source : String} {model : Model}
    (built : Model.ofSource source = .ok model)
    : ∃ declaration,
        Declaration.ofSource source = .ok declaration
        ∧ Model.ofDeclaration .standard declaration = .ok model := by
  rw [Model.ofSource] at built
  cases parsed : Declaration.ofSource source with
  | error error =>
      rw [parsed] at built
      cases built
  | ok declaration =>
      rw [parsed] at built
      refine ⟨declaration, rfl, ?_⟩
      cases ending : Model.ofDeclaration .standard declaration with
      | error violation =>
          simp only [ending, Except.mapError, bind, Except.bind] at built
          cases built
      | ok other =>
          simp only [ending, Except.mapError, bind, Except.bind] at built
          rw [Except.ok.inj built]

-----------------------------------------------------------------------------------------
-- Parts of the commands
-----------------------------------------------------------------------------------------

/-- Where it can be told what is at a path, the reading of a source does not break off. -/
theorem exists_readSource {environment : Environment} {settings : Settings} {path : Path}
    {found : Option Kind} {world : World}
    (settled : Settings.ofEnvironment environment = .ok settings)
    (looked : (disk.kind? path).run world.tree = (.ok found, world.tree))
    : ∃ source? after, (readSource disk environment path).on world = (.ok source?, after) := by
  cases done : (readSource disk environment path).on world with
  | mk ending after =>
      rw [readSource, Act.on_bind, Act.on_mustFiles, looked] at done
      cases found with
      | none =>
          obtain ⟨rfl, rfl⟩ := Prod.mk.inj done
          exact ⟨none, _, rfl⟩
      | some kind =>
          have goesOn : (readSettings environment >>= fun _ => _).on world = (ending, after) := done
          have told := read_ne_nullCharacter looked
          obtain ⟨answer, isRead⟩ := exists_answer (relates_read path) world.tree
          rw [readSettings, settled] at goesOn
          dsimp only at goesOn
          rw [pure_bind, Act.on_bind, Act.on_onFiles, isRead] at goesOn
          rw [isRead] at told
          cases answer with
          | error failure =>
              cases failure with
              | nullCharacter => exact absurd rfl told
              | fault fault =>
                  obtain ⟨rfl, rfl⟩ := Prod.mk.inj goesOn
                  exact ⟨none, _, rfl⟩
          | ok bytes =>
              dsimp only at goesOn
              split at goesOn
              next text decoded =>
                obtain ⟨rfl, rfl⟩ := Prod.mk.inj goesOn
                exact ⟨some text, _, rfl⟩
              next error failed =>
                obtain ⟨rfl, rfl⟩ := Prod.mk.inj goesOn
                exact ⟨none, _, rfl⟩

/-- A quiet run says nothing of a model that is built, and one line of what is wrong. -/
theorem on_buildSource (path : Path) (source : String) (world : World)
    : (buildSource false path source).on world
      = match Model.ofSource source with
        | .ok model => (.ok (some model), world)
        | .error error =>
            (.ok none, world.notified [.line (Console.paragraph (describe path error).toList)])
    := by
  have quiet : ∀ source messages, Act.recorded false source messages = [] := fun _ _ => rfl
  rw [buildSource, Model.ofSource]
  cases parsed : Declaration.ofSource source with
  | error error => rfl
  | ok declaration =>
      dsimp only
      rw [Act.on_bind, Act.on_record, quiet, World.notified_nil]
      cases built : Model.ofDeclaration .standard declaration with
      | error violation =>
          simp only [Except.mapError, bind, Except.bind, built]
          rfl
      | ok model =>
          dsimp only
          rw [Act.on_bind, Act.on_record, quiet, World.notified_nil]
          simp only [Except.mapError, bind, Except.bind, built]
          rfl

-----------------------------------------------------------------------------------------
-- Outcomes
-----------------------------------------------------------------------------------------

/-- What comes of a source file: of the function that gives its module, of the command that prints
the module, and of the command that shows the model.
-/
inductive Outcome (settings : Settings) (path : Path) (tree : Tree)
    : Except Module.FileError String → Result → Result → Prop where
  | made {source module : String} {model : Model} (holds : HoldsText tree path source)
    (built : Model.ofSource source = .ok model) (rendered : model.render settings = .ok module)
    : Outcome settings path tree (.ok module) ⟨.ok 0, { out := [module] }⟩
        ⟨.ok 0, { out := [model.viewText 2 ++ "\n"] }⟩
  | reported (error : Module.FileError) (report : String)
    : Outcome settings path tree (.error error) ⟨.ok 1, { notices := [.line report] }⟩
        ⟨.ok 1, { notices := [.line report] }⟩
  | broken (error : Module.FileError) (escape : Escape) (tooLong : ¬ IsShort path)
    : Outcome settings path tree (.error error) ⟨.error escape, {}⟩ ⟨.error escape, {}⟩

/-- An input that is no directory is the one source of a run. -/
theorem on_generate_single {environment : Environment} {settings : Settings} {name : String}
    {found : Option Kind} {tree : Tree}
    (settled : Settings.ofEnvironment environment = .ok settings)
    (looked : (disk.kind? (Path.ofText name)).run tree = (.ok found, tree))
    (notDirectory : found ≠ some .directory)
    : (Generate.run disk environment false [name] .stdout).on { tree }
      = (((Generate.generateOne disk ⟨settings, environment, .stdout, false⟩ (Path.ofText name)).on
            { tree }).1.map (if · then 0 else 1),
          ((Generate.generateOne disk ⟨settings, environment, .stdout, false⟩ (Path.ofText name)).on
            { tree }).2) := by
  have expanded : (Generate.expandInputs disk settings.sourceSuffix [name]).on { tree }
      = (.ok (some [Path.ofText name]), { tree }) := by
    rw [Generate.expandInputs, Act.on_bind, Act.on_mustFiles, looked]
    simp only [Except.mapError, if_neg notDirectory]
    rfl
  rw [Generate.run, readSettings, settled]
  dsimp only
  rw [pure_bind, Act.on_bind, expanded]
  dsimp only
  rw [Act.on_map, Generate.generateAll, Act.on_bind]
  cases (Generate.generateOne disk ⟨settings, environment, .stdout, false⟩ (Path.ofText name)).on
      { tree } with
  | mk ending after =>
      cases ending with
      | error escape => rfl
      | ok succeeds => cases succeeds <;> rfl

/-- Where nothing can be told of the path, no command can go on. -/
theorem on_commands_of_failure {environment : Environment} {settings : Settings} {name : String}
    {failure : Failure} {tree : Tree}
    (settled : Settings.ofEnvironment environment = .ok settings)
    (looked : (disk.kind? (Path.ofText name)).run tree = (.error failure, tree))
    : (Generate.run disk environment false [name] .stdout).on { tree }
        = (.error (.files failure), { tree })
      ∧ (Check.run disk environment false name true).on { tree }
        = (.error (.files failure), { tree }) := by
  constructor
  · have expanded : (Generate.expandInputs disk settings.sourceSuffix [name]).on { tree }
        = (.error (.files failure), { tree }) := by
      rw [Generate.expandInputs, Act.on_bind, Act.on_mustFiles, looked]
      rfl
    rw [Generate.run, readSettings, settled]
    dsimp only
    rw [pure_bind, Act.on_bind, expanded]
  · rw [Check.run, readSource]
    simp only [bind_assoc]
    rw [Act.on_bind, Act.on_mustFiles, looked]
    rfl

/-- Where it can be told what is at the path, the unit of the one command and the whole of the other
end alike.
-/
theorem outcome_of_found {environment : Environment} {settings : Settings} {name : String}
    {found : Option Kind} {tree : Tree}
    (settled : Settings.ofEnvironment environment = .ok settings)
    (looked : (disk.kind? (Path.ofText name)).run tree = (.ok found, tree))
    : ∃ made succeeds output checked,
        (Module.ofFile disk settings (Path.ofText name)).run tree = (made, tree)
        ∧ (Generate.generateOne disk ⟨settings, environment, .stdout, false⟩ (Path.ofText name)).on
            { tree }
          = (.ok succeeds, ⟨output, tree⟩)
        ∧ (Check.run disk environment false name true).on { tree }
          = (checked.ending, ⟨checked.output, tree⟩)
        ∧ Outcome settings (Path.ofText name) tree made ⟨.ok (if succeeds then 0 else 1), output⟩
            checked := by
  have isUtf8 := encoding_of_ofEnvironment settled
  have looking : (disk.kind? (Path.ofText name)).run ({ tree } : World).tree = (.ok found, tree) :=
    looked
  obtain ⟨source?, after, read⟩ := exists_readSource settled looking
  rw [Generate.generateOne, Check.run, Act.on_bind, Act.on_bind, read]
  cases reading read with
  | @unread notice absent isUnread =>
      obtain ⟨error, failed⟩ := exists_run_ofFile_error isUtf8 absent
      obtain ⟨report, rfl⟩ : ∃ report, notice = .line report := by
        cases isUnread <;> exact ⟨_, rfl⟩
      exact ⟨_, false, _, ⟨.ok 1, { notices := [.line report] }⟩, failed, rfl, rfl,
        .reported error report⟩
  | @done source holds =>
      have made := run_ofFile isUtf8 holds
      dsimp only
      rw [Act.on_bind, Act.on_bind, on_buildSource]
      cases built : Model.ofSource source with
      | error error =>
          rw [Module.ofSource, built] at made
          exact ⟨_, false, _, ⟨.ok 1, _⟩, made, rfl, rfl, .reported _ _⟩
      | ok model =>
          obtain ⟨declaration, -, isBuilt⟩ := exists_declaration built
          obtain ⟨text, rendered⟩ := exists_render isBuilt settings
          obtain ⟨lines, written, rfl⟩ : ∃ lines,
              Module.lines settings model = .ok lines ∧ text = Module.unlines lines := by
            rw [Model.render] at rendered
            cases written : Module.lines settings model with
            | error error =>
                rw [written] at rendered
                cases rendered
            | ok lines =>
                rw [written] at rendered
                exact ⟨lines, rfl, (Except.ok.inj rendered).symm⟩
          have same : ∀ options : Generate.Options, options.settings = settings →
              Generate.moduleLines options model = lines := by
            rintro options rfl
            rw [Generate.moduleLines, written]
          have isMade : Module.ofSource settings source = .ok (Module.unlines lines) := by
            simp only [Module.ofSource, built, Except.mapError, bind, Except.bind, rendered]
          rw [isMade] at made
          dsimp only
          rw [same _ rfl]
          exact ⟨_, true, _, ⟨.ok 0, _⟩, made, rfl, rfl, .made holds built rendered⟩

/-- Every way in which the commands and the function end. -/
theorem outcome {environment : Environment} {settings : Settings} {name : String} {tree : Tree}
    (settled : Settings.ofEnvironment environment = .ok settings)
    (notDirectory : ¬ IsDirectoryAt tree (Path.ofText name))
    : ∃ made generated checked,
        (Module.ofFile disk settings (Path.ofText name)).run tree = (made, tree)
        ∧ (Generate.run disk environment false [name] .stdout).on { tree }
          = (generated.ending, ⟨generated.output, tree⟩)
        ∧ (Check.run disk environment false name true).on { tree }
          = (checked.ending, ⟨checked.output, tree⟩)
        ∧ Outcome settings (Path.ofText name) tree made generated checked := by
  obtain ⟨answer, looked⟩ := exists_answer (relates_kind? (Path.ofText name)) tree
  cases answer with
  | error failure =>
      have tooLong : ¬ IsShort (Path.ofText name) := by
        intro isShort
        obtain ⟨found, told⟩ := exists_kind? isShort tree
        rw [looked] at told
        cases told
      have absent : ∀ source, ¬ HoldsText tree (Path.ofText name) source := by
        rintro source ⟨bytes, isRead, -⟩
        rw [kind?_of_read isRead] at looked
        cases looked
      obtain ⟨error, failed⟩ := exists_run_ofFile_error (encoding_of_ofEnvironment settled) absent
      obtain ⟨generated, checked⟩ := on_commands_of_failure settled looked
      exact ⟨_, ⟨.error (.files failure), {}⟩, ⟨.error (.files failure), {}⟩, failed, generated,
        checked, .broken error _ tooLong⟩
  | ok found =>
      have isOther : found ≠ some .directory := by
        rintro rfl
        exact notDirectory looked
      obtain ⟨made, succeeds, output, checked, run, unit, shown, outcome⟩ :=
        outcome_of_found settled looked
      refine ⟨made, ⟨_, output⟩, checked, run, ?_, shown, outcome⟩
      rw [on_generate_single settled looked isOther, unit]
      rfl

-----------------------------------------------------------------------------------------
-- Agreement
-----------------------------------------------------------------------------------------

/-- A run does what it is asked for. -/
theorem run_of_perform {environment : Environment} {arguments : List String} {request : Request}
    {tree after : Tree} {ending : Except Escape Nat} {output : Output}
    (asked : Request.ofArguments arguments = .ok request)
    (performed : (perform disk environment request).on { tree } = (ending, ⟨output, after⟩))
    : (run disk environment arguments).run tree = (⟨ending, output⟩, after) := by
  rw [run_eq asked, performed]

/-- A source of one variant. -/
def singleTree : Tree where
  nodes := [(["a.lenum"], .file (Text.Utf8.encode "T = A \"a\"".toList))]

theorem splitAt_of_not_mem {separator : Char} {text : List Char} (free : separator ∉ text)
    : Text.splitAt separator text = [text] := by
  induction text with
  | nil => rfl
  | cons c rest ih =>
      have apart : c ≠ separator := Ne.symm (List.ne_of_not_mem_cons free)
      rw [Text.splitAt, ih (List.not_mem_of_not_mem_cons free), if_neg apart]
      rfl

/-- The name can be one in a path, but it has more bytes than a name may have. -/
structure IsLongName (text : List Char) : Prop where
  noSlash : '/' ∉ text
  noNull : '\x00' ∉ text
  tooLong : maxNameBytes < (Text.Utf8.encode text).length
  fits : (Text.Utf8.encode text).length ≤ maxPathBytes

theorem IsLongName.names {text : List Char} (isLong : IsLongName text)
    : Path.names text = [String.ofList text] := by
  have notEmpty : text ≠ [] := by
    rintro rfl
    exact absurd isLong.tooLong (by decide)
  have notDot : text ≠ ['.'] := by
    rintro rfl
    exact absurd isLong.tooLong (by decide)
  simp [Path.names, splitAt_of_not_mem isLong.noSlash, notEmpty, notDot]

theorem IsLongName.ofText {text : List Char} (isLong : IsLongName text)
    : Path.ofText (String.ofList text) = ⟨"", [String.ofList text]⟩ := by
  have relative : Path.rootOf text = "" := by
    cases text with
    | nil => rfl
    | cons c rest =>
        have apart : c ≠ '/' := Ne.symm (List.ne_of_not_mem_cons isLong.noSlash)
        have slashes : Path.slashes (c :: rest) = 0 := by simp [Path.slashes, apart]
        simp [Path.rootOf, slashes]
  rw [Path.ofText, String.toList_ofList, isLong.names, relative]

/-- It cannot be told what is at the path of a name that is too long. -/
theorem IsLongName.kind? {text : List Char} (isLong : IsLongName text)
    : (disk.kind? (Path.ofText (String.ofList text))).run {}
      = (.error (.fault ⟨.nameTooLong, ⟨"", [String.ofList text]⟩, none⟩), {}) := by
  have whole : Path.text ⟨"", [String.ofList text]⟩ = String.ofList text := by simp [Path.text]
  have fits : isTooLong maxPathBytes (String.ofList text) = false := by
    simpa [isTooLong] using isLong.fits
  have tooLong : isTooLong maxNameBytes (String.ofList text) = true := by
    simpa [isTooLong] using isLong.tooLong
  have steps : Path.steps ⟨"", [String.ofList text]⟩ = [String.ofList text] := by
    simp [Path.steps, isLong.names]
  have looked : ({} : Tree).look ⟨"", [String.ofList text]⟩ = .error .nameTooLong := by
    simp [look, locate, whole, fits, steps, origin, follow, node?, tooLong, bind, Except.bind]
  have clean : hasNull ⟨"", [String.ofList text]⟩ = false := by
    simpa [hasNull] using isLong.noNull
  rw [run_kind?, isLong.ofText, looked, clean]
  rfl

theorem isLongName_replicate {count : Nat} (tooLong : maxNameBytes < count)
    (fits : count ≤ maxPathBytes)
    : IsLongName (List.replicate count 'a') := by
  have bytes : (Text.Utf8.encode (List.replicate count 'a')).length = count := by
    have single : Char.utf8Size 'a' = 1 := by decide
    simp [Text.Utf8.encode, List.length_flatMap, single]
  exact ⟨by simp, by simp, bytes.symm ▸ tooLong, bytes.symm ▸ fits⟩

/-- Both commands break off at a name that is too long. -/
theorem IsLongName.breaks_off {text : List Char} (isLong : IsLongName text) {name : String}
    (isName : name = String.ofList text) (isPlain : IsPlain name)
    : ¬ IsDirectoryAt {} (Path.ofText name)
      ∧ ((run disk [] ["generate", name, "--stdout"]).run {}).1.ending
          = .error (.files (.fault ⟨.nameTooLong, ⟨"", [name]⟩, none⟩))
      ∧ ((run disk [] ["check", name, "--json"]).run {}).1.ending
          = .error (.files (.fault ⟨.nameTooLong, ⟨"", [name]⟩, none⟩)) := by
  have failed := isLong.kind?
  rw [← isName] at failed
  have settled : Settings.ofEnvironment [] = .ok {} := rfl
  obtain ⟨generates, checks⟩ := on_commands_of_failure settled failed
  rw [run_of_perform (Request.ofArguments_stdout isPlain) generates,
    run_of_perform (Request.ofArguments_json isPlain) checks]
  refine ⟨?_, rfl, rfl⟩
  intro isDirectory
  rw [IsDirectoryAt, failed] at isDirectory
  cases isDirectory

/-- The shortest name of one letter over and over that is too long. -/
def longName : String := String.ofList (List.replicate 256 'a')

end LiteralEnum.Command
