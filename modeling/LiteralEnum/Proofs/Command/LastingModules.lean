import LiteralEnum.Proofs.Command.Attempts
import LiteralEnum.Proofs.Text.Lines

/-! Modules that last. A module that is reported as generated is in its file at the end of the
run, unless the file is at a path of a later unit.
-/

namespace LiteralEnum.Command

open Files Files.Tree
open Text (head?_append)

/-- The character that a line starts with. -/
def Notice.initial? : Notice → Option Char
  | .line text => text.toList.head?
  | .stage _ _ => none

theorem initial?_generatedNotice (path : Path) : (generatedNotice path).initial? = some 'G' := by
  have isLetter : Console.IsLetter 'G' := by decide
  have starts : (s!"Generated {path.text}").toList.head? = some 'G' := head?_append rfl _
  rw [generatedNotice, Notice.initial?]
  exact Console.head?_paragraph isLetter starts

theorem initial?_complaint {text : String} (starts : text.toList.head? = some 'E')
    : (complaint text).initial? = some 'E' := by
  have isLetter : Console.IsLetter 'E' := by decide
  rw [complaint, Notice.initial?]
  exact Console.head?_paragraph isLetter (Console.head?_showPictures isLetter starts)

theorem IsUnread.initial? {path : Path} {notice : Notice} (isUnread : IsUnread path notice)
    : notice.initial? = some 'E' := by
  cases isUnread with
  | absent => exact initial?_complaint (head?_append rfl _)
  | refused reason => exact initial?_complaint (head?_append (head?_append (head?_append rfl _) _) _)

/-- A line about a source starts with what is wrong. -/
theorem head?_describe (path : Path) (error : BuildError)
    : ∃ c, Console.IsLetter c ∧ c ≠ 'G' ∧ (describe path error).toList.head? = some c := by
  cases error with
  | source error =>
      refine ⟨'s', by decide, by decide, ?_⟩
      unfold describe
      dsimp only
      iterate 7 refine head?_append ?_ _
      rfl
  | invalid violation =>
      refine ⟨'v', by decide, by decide, ?_⟩
      unfold describe
      dsimp only
      iterate 5 refine head?_append ?_ _
      rfl

theorem initial?_describe (path : Path) (error : BuildError)
    : (Notice.line (Console.paragraph (describe path error).toList)).initial? ≠ some 'G' := by
  obtain ⟨c, isLetter, apart, starts⟩ := head?_describe path error
  rw [Notice.initial?, Console.head?_paragraph isLetter starts]
  exact fun same => apart (Option.some.inj same)

theorem IsStage.initial? {notice : Notice} (isStage : IsStage notice)
    : notice.initial? ≠ some 'G' := by
  obtain ⟨source, message, rfl⟩ := isStage
  simp [Notice.initial?]

-----------------------------------------------------------------------------------------
-- Reported modules
-----------------------------------------------------------------------------------------

namespace Generate

/-- The unit reports that the module at the path is generated. -/
def Reports (options : Options) (source : Path) (before : World) (path : Path) : Prop :=
  ∃ notices,
    ((generateOne disk options source).on before).2.output.notices
      = before.output.notices ++ notices
    ∧ generatedNotice path ∈ notices

/-- What is reported is in its file at the end of the turn. No other report looks like it. -/
theorem stores_of_reports {options : Options} {source path : Path} {before : World}
    (output : outputPath? options.target options.settings.outputSuffix source = some path)
    (reports : Reports options source before path)
    : ∃ text module,
        HoldsText before.tree source text
        ∧ Module.ofSource options.settings text = .ok module
        ∧ ((generateOne disk options source).on before).2.tree.node?
              (path.place before.tree.home)
            = some (.file (Text.Utf8.encode module.toList)) := by
  obtain ⟨notices, added, member⟩ := reports
  -- Reports are told apart by their first characters, and stages have none.
  have notStage : ∀ {stages : List Notice} {last : Notice},
      (∀ notice ∈ stages, IsStage notice) → generatedNotice path ∈ stages ++ [last]
        → last.initial? = some 'G' := by
    intro stages last areStages member
    rcases List.mem_append.mp member with inStages | isLast
    · exact absurd (initial?_generatedNotice path) (areStages _ inStages).initial?
    · rw [← List.mem_singleton.mp isLast]
      exact initial?_generatedNotice path
  cases done : (generateOne disk options source).on before with
  | mk ending after =>
      rw [done] at added
      cases attempt done with
      | unread absent isUnread =>
          obtain rfl := List.append_cancel_left added
          have initial := initial?_generatedNotice path
          rw [List.mem_singleton.mp member, isUnread.initial?] at initial
          cases initial
      | refused holds areStages failed =>
          obtain rfl := List.append_cancel_left added
          exact absurd (notStage areStages member) (initial?_describe source _)
      | printed isPrinted makes areStages =>
          rw [isPrinted] at output
          cases output
      | written makes areStages isOutput stores =>
          obtain ⟨text, holds, made⟩ := makes
          obtain rfl := Option.some.inj (output.symm.trans isOutput)
          exact ⟨text, _, holds, made, stores⟩
      | unwritten fault makes areStages isOutput =>
          obtain rfl := List.append_cancel_left added
          have initial := notStage areStages member
          rw [initial?_complaint (head?_append (head?_append (head?_append rfl _) _) _)] at initial
          cases initial
      | broken areStages obstructed untouched =>
          obtain rfl := List.append_cancel_left added
          exact absurd (initial?_generatedNotice path) (areStages _ member).initial?

/-- In the run over some sources from a world, there is a module to be written to a path at the
place.
-/
def IsWrittenTo (options : Options) (sources : List Path) (start : World) (place : Place) : Prop :=
  ∃ source later before module,
    Turn options sources start source later before
    ∧ Makes options source before module
    ∧ ∃ path ∈ unitPaths options.target options.settings.outputSuffix source,
        place = path.place start.tree.home

/-- Only paths of the sources are written to. -/
theorem IsWrittenTo.exists_path {options : Options} {sources : List Path} {start : World}
    {place : Place} (isWritten : IsWrittenTo options sources start place)
    : ∃ path ∈ sources.flatMap (unitPaths options.target options.settings.outputSuffix),
        place = path.place start.tree.home := by
  obtain ⟨source, later, before, module, turn, -, path, member, same⟩ := isWritten
  exact ⟨path, List.mem_flatMap.mpr ⟨source, turn.mem, member⟩, same⟩

/-- A file at a place where no module is to be written stays as it is. By induction on the
sources.
-/
theorem files_generateAll {options : Options} {sources : List Path} {start : World} {place : Place}
    (apart : ¬ IsWrittenTo options sources start place) (content : Text.Bytes)
    : ((generateAll disk options sources).on start).2.tree.node? place = some (.file content)
      ↔ start.tree.node? place = some (.file content) := by
  induction sources generalizing start with
  | nil => exact Iff.rfl
  | cons source rest ih =>
      have keeps := (keepsFiles_generateOne options source start).tree
      have unit : ((generateOne disk options source).on start).2.tree.node? place
            = some (.file content)
          ↔ start.tree.node? place = some (.file content) := by
        -- Without a module the unit does not come to the writing, whatever its paths are.
        by_cases hasModule : ∃ module, Makes options source start module
        · obtain ⟨module, makes⟩ := hasModule
          refine keeps.files place ?_ content
          intro path member same
          exact apart ⟨source, rest, start, module, .now source rest start, makes, path, member, same⟩
        · have outcome : Attempt options source start
              ((generateOne disk options source).on start).1
              ((generateOne disk options source).on start).2 := attempt rfl
          rw [outcome.tree_eq fun module makes => hasModule ⟨module, makes⟩]
      cases done : (generateOne disk options source).on start with
      | mk ending middle =>
          rw [done] at keeps unit
          cases ending with
          | error escape =>
              rw [generateAll, Act.on_bind, done]
              exact unit
          | ok succeeds =>
              have laterApart : ¬ IsWrittenTo options rest middle place := by
                rintro ⟨other, later, before, module, turn, makes, path, member, same⟩
                rw [keeps.home] at same
                exact apart ⟨other, later, before, module, .next done turn, makes, path, member, same⟩
              rw [on_generateAll_cons done, Act.on_map]
              exact (ih laterApart).trans unit

/-- A file where no later module is to be written stays as its turn leaves it. -/
theorem Turn.keeps {options : Options} {sources later : List Path} {start before : World}
    {source : Path} (turn : Turn options sources start source later before) {place : Place}
    (apart : ¬ IsWrittenTo options later ((generateOne disk options source).on before).2 place)
    (content : Text.Bytes)
    : ((generateAll disk options sources).on start).2.tree.node? place = some (.file content)
      ↔ ((generateOne disk options source).on before).2.tree.node? place
        = some (.file content) := by
  rcases turn.final_cases with last | goesOn
  · rw [last]
  · rw [goesOn]
    exact files_generateAll apart content

/-- What a turn reports is in its file at the end of the run. -/
theorem Turn.lasts {environment : Environment} {settings : Settings} {inputs : List String}
    {target : Target} {isVerbose : Bool} {tree : Tree} {source path : Path} {later : List Path}
    {before : World} (settled : Settings.ofEnvironment environment = .ok settings)
    (turn
      : Turn ⟨settings, environment, target, isVerbose⟩ (sources settings inputs target tree)
          { tree } source later before)
    (output : outputPath? target settings.outputSuffix source = some path)
    (reports : Reports ⟨settings, environment, target, isVerbose⟩ source before path)
    (apart
      : ¬ IsWrittenTo ⟨settings, environment, target, isVerbose⟩ later
          ((generateOne disk ⟨settings, environment, target, isVerbose⟩ source).on before).2
          (path.place tree.home))
    : ∃ text module,
        HoldsText before.tree source text
        ∧ Module.ofSource settings text = .ok module
        ∧ ((run disk environment isVerbose inputs target).on { tree }).2.tree.node?
              (path.place tree.home)
            = some (.file (Text.Utf8.encode module.toList)) := by
  obtain ⟨text, module, holds, made, stores⟩ := stores_of_reports output reports
  refine ⟨text, module, holds, made, ?_⟩
  rw [turn.home] at stores
  rw [turn.run_on settled]
  exact (turn.keeps apart _).mpr stores

end Generate

/-- A module that is reported as generated is in its file at the end of the run, whatever comes
later, if no later module is to be written to a path at the same place.
-/
theorem generated_module_lasts {environment : Environment} {settings : Settings}
    {arguments inputs : List String} {target : Target} {isVerbose : Bool} {tree : Tree}
    {source path : Path} {later : List Path} {before : World}
    (asked : Request.ofArguments arguments = .ok ⟨.generate inputs target, isVerbose⟩)
    (settled : Settings.ofEnvironment environment = .ok settings)
    (turn
      : Generate.Turn ⟨settings, environment, target, isVerbose⟩
          (Generate.sources settings inputs target tree) { tree } source later before)
    (output : Generate.outputPath? target settings.outputSuffix source = some path)
    (reports
      : Generate.Reports ⟨settings, environment, target, isVerbose⟩ source before path)
    (apart
      : ¬ Generate.IsWrittenTo ⟨settings, environment, target, isVerbose⟩ later
          ((Generate.generateOne disk ⟨settings, environment, target, isVerbose⟩ source).on
            before).2
          (path.place tree.home))
    : ∃ text module,
        HoldsText before.tree source text
        ∧ Module.ofSource settings text = .ok module
        ∧ ((run disk environment arguments).run tree).2.node? (path.place tree.home)
            = some (.file (Text.Utf8.encode module.toList)) := by
  rw [run_eq asked]
  exact turn.lasts settled output reports apart

-----------------------------------------------------------------------------------------
-- Two sources of one name
-----------------------------------------------------------------------------------------

/-- Texts with the same bytes are the same. -/
theorem encode_injective {text other : String}
    (same : Text.Utf8.encode text.toList = Text.Utf8.encode other.toList)
    : text = other := by
  have bytes : text.toList.utf8Encode = other.toList.utf8Encode := congrArg List.toByteArray same
  have texts : String.ofList text.toList = String.ofList other.toList :=
    String.toByteArray_inj.mp bytes
  rwa [String.ofList_toList, String.ofList_toList] at texts

/-- Two sources of the same name in two directories, and a third one. -/
def twinTree : Tree where
  nodes := [(["a"], .directory), (["b"], .directory),
    (["a", "x.lenum"], .file (Text.Utf8.encode "T = A \"a\"".toList)),
    (["b", "x.lenum"], .file (Text.Utf8.encode "U = B \"b\"".toList)),
    (["b", "y.lenum"], .file (Text.Utf8.encode "U = B \"b\"".toList))]

/-- The options of a run that writes into the directory `out`. -/
def outOptions : Generate.Options := ⟨{}, [], .directory "out", false⟩

def outPath : Path := ⟨"", ["out", "x.py"]⟩

theorem reports_twin
    : Generate.Reports outOptions ⟨"", ["a", "x.lenum"]⟩ { tree := twinTree } outPath :=
  ⟨[generatedNotice outPath], by decide +kernel, List.mem_singleton_self _⟩

/-- The module of a source lasts when the next source has another name. -/
theorem generated_module_lasts_twin
    : ∃ text module,
        HoldsText twinTree ⟨"", ["a", "x.lenum"]⟩ text
        ∧ Module.ofSource {} text = .ok module
        ∧ ((run disk [] ["generate", "a/x.lenum", "b/y.lenum", "--out-dir", "out"]).run
              twinTree).2.node? ["out", "x.py"]
            = some (.file (Text.Utf8.encode module.toList)) := by
  have asked : Request.ofArguments ["generate", "a/x.lenum", "b/y.lenum", "--out-dir", "out"]
      = .ok ⟨.generate ["a/x.lenum", "b/y.lenum"] (.directory "out"), false⟩ := by decide +kernel
  have found : Generate.sources {} ["a/x.lenum", "b/y.lenum"] (.directory "out") twinTree
      = [⟨"", ["a", "x.lenum"]⟩, ⟨"", ["b", "y.lenum"]⟩] := by decide +kernel
  have turn : Generate.Turn outOptions
      (Generate.sources {} ["a/x.lenum", "b/y.lenum"] (.directory "out") twinTree)
      { tree := twinTree } ⟨"", ["a", "x.lenum"]⟩ [⟨"", ["b", "y.lenum"]⟩]
      { tree := twinTree } := by
    rw [found]
    exact .now _ _ _
  have paths : ∀ path ∈ [(⟨"", ["b", "y.lenum"]⟩ : Path)].flatMap
      (Generate.unitPaths (.directory "out") ".py"),
      outPath.place twinTree.home ≠ path.place twinTree.home := by decide +kernel
  have apart : ¬ Generate.IsWrittenTo outOptions [⟨"", ["b", "y.lenum"]⟩]
      ((Generate.generateOne disk outOptions ⟨"", ["a", "x.lenum"]⟩).on { tree := twinTree }).2
      (outPath.place twinTree.home) := by
    intro isWritten
    obtain ⟨path, member, same⟩ := isWritten.exists_path
    rw [(Generate.keepsFiles_generateOne outOptions _ _).tree.home] at same
    exact paths path member same
  exact generated_module_lasts asked rfl turn rfl reports_twin apart

theorem sources_twin
    : Generate.sources {} ["a/x.lenum", "b/x.lenum"] (.directory "out") twinTree
      = [⟨"", ["a", "x.lenum"]⟩, ⟨"", ["b", "x.lenum"]⟩] := by
  decide +kernel

/-- It does not last when the next source has the same name: the module of the first source is
reported, and its file ends with that of the second.
-/
theorem not_generated_module_lasts_twin
    : Generate.Turn outOptions
          (Generate.sources {} ["a/x.lenum", "b/x.lenum"] (.directory "out") twinTree)
          { tree := twinTree } ⟨"", ["a", "x.lenum"]⟩ [⟨"", ["b", "x.lenum"]⟩]
          { tree := twinTree }
      ∧ Generate.Reports outOptions ⟨"", ["a", "x.lenum"]⟩ { tree := twinTree } outPath
      ∧ HoldsText twinTree ⟨"", ["a", "x.lenum"]⟩ "T = A \"a\""
      ∧ ∀ module,
          Module.ofSource {} "T = A \"a\"" = .ok module
          → ((run disk [] ["generate", "a/x.lenum", "b/x.lenum", "--out-dir", "out"]).run
                twinTree).2.node? ["out", "x.py"]
              ≠ some (.file (Text.Utf8.encode module.toList)) := by
  have asked : Request.ofArguments ["generate", "a/x.lenum", "b/x.lenum", "--out-dir", "out"]
      = .ok ⟨.generate ["a/x.lenum", "b/x.lenum"] (.directory "out"), false⟩ := by decide +kernel
  have succeeds : ((Generate.generateOne disk outOptions ⟨"", ["a", "x.lenum"]⟩).on
      { tree := twinTree }).1 = .ok true := by decide +kernel
  have turn : Generate.Turn outOptions
      (Generate.sources {} ["a/x.lenum", "b/x.lenum"] (.directory "out") twinTree)
      { tree := twinTree } ⟨"", ["b", "x.lenum"]⟩ []
      ((Generate.generateOne disk outOptions ⟨"", ["a", "x.lenum"]⟩).on
        { tree := twinTree }).2 := by
    rw [sources_twin]
    exact .next (Prod.ext succeeds rfl) (.now _ _ _)
  have second : Generate.Reports outOptions ⟨"", ["b", "x.lenum"]⟩
      ((Generate.generateOne disk outOptions ⟨"", ["a", "x.lenum"]⟩).on
        { tree := twinTree }).2 outPath :=
    ⟨[generatedNotice outPath], by decide +kernel, List.mem_singleton_self _⟩
  refine ⟨sources_twin ▸ .now _ _ _, reports_twin, by decide +kernel, ?_⟩
  intro module made stores
  -- The module of the second source lasts, because no unit follows it.
  obtain ⟨text, last, holds, lastMade, lastStores⟩ :=
    turn.lasts rfl rfl second fun isWritten => by simpa using isWritten.exists_path
  obtain rfl : "U = B \"b\"" = text := HoldsText.unique (by decide +kernel) holds
  rw [run_eq asked] at stores
  obtain rfl : module = last := by
    have same := Option.some.inj (stores.symm.trans lastStores)
    exact encode_injective (Node.file.inj same)
  have apart : (Module.ofSource {} "T = A \"a\"").toOption
      ≠ (Module.ofSource {} "U = B \"b\"").toOption := by decide +kernel
  have lastMade : Module.ofSource {} "U = B \"b\"" = .ok module := lastMade
  rw [made, lastMade] at apart
  exact apart rfl

end LiteralEnum.Command
