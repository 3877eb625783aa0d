import LiteralEnum.Module.Compile
import LiteralEnum.Proofs.Command.Units
import LiteralEnum.Proofs.Console.FirstCharacter
import LiteralEnum.Proofs.Module.TableMeaning

/-! What comes of a unit: its source is read or not, the module is built or not, and it is
written or not. Each way has its report.
-/

namespace LiteralEnum.Command

open Files Files.Tree

/-- A line in which names of pictures are pictures. -/
def complaint (text : String) : Notice :=
  .line (Console.paragraph (Console.showPictures text.toList))

/-- The report that the module at a path is written. -/
def generatedNotice (path : Path) : Notice :=
  .line (Console.paragraph s!"Generated {path.text}".toList)

/-- A report that the source at a path cannot be read. -/
inductive IsUnread (path : Path) : Notice → Prop where
  | absent : IsUnread path (complaint s!"Error: File not found: {path.text}")
  | refused (reason : String)
    : IsUnread path (complaint s!"Error: Cannot read {path.text}: {reason}")

/-- The record of a stage. -/
def IsStage (notice : Notice) : Prop := ∃ source message, notice = .stage source message

-----------------------------------------------------------------------------------------
-- Sources
-----------------------------------------------------------------------------------------

/-- The file at the path can be read as the text. -/
def HoldsText (tree : Tree) (path : Path) (text : String) : Prop :=
  ∃ bytes,
    (disk.read path).run tree = (.ok bytes, tree) ∧ Text.Encoding.utf8.readText bytes = .ok text

/-- The text of a source can be computed. -/
theorem holdsText_iff (tree : Tree) (path : Path) (text : String)
    : HoldsText tree path text
      ↔ ((disk.read path).run tree).1.toOption.bind
          (fun bytes => (Text.Encoding.utf8.readText bytes).toOption) = some text := by
  have isText : ∀ {bytes : Text.Bytes},
      (Text.Encoding.utf8.readText bytes).toOption = some text
        ↔ Text.Encoding.utf8.readText bytes = .ok text := by
    intro bytes
    cases Text.Encoding.utf8.readText bytes <;> simp [Except.toOption]
  rw [Option.bind_eq_some_iff]
  constructor
  · rintro ⟨bytes, isRead, decoded⟩
    rw [isRead]
    exact ⟨bytes, rfl, isText.mpr decoded⟩
  · rintro ⟨bytes, isRead, decoded⟩
    obtain ⟨answer, again⟩ := exists_answer (relates_read path) tree
    rw [again] at isRead
    cases answer with
    | error failure => cases isRead
    | ok other =>
        obtain rfl := Option.some.inj isRead
        exact ⟨other, again, isText.mp decoded⟩

instance (tree : Tree) (path : Path) (text : String) : Decidable (HoldsText tree path text) :=
  decidable_of_iff _ (holdsText_iff tree path text).symm

/-- A source has one text. -/
theorem HoldsText.unique {tree : Tree} {path : Path} {text other : String}
    (holds : HoldsText tree path text) (holdsOther : HoldsText tree path other)
    : text = other := by
  rw [holdsText_iff] at holds holdsOther
  exact Option.some.inj (holds.symm.trans holdsOther)

/-- How the reading of a source ends. -/
inductive Reading (environment : Environment) (path : Path) (before : World)
    : Except Escape (Option String) → World → Prop where
  | done {text : String} (holds : HoldsText before.tree path text)
    : Reading environment path before (.ok (some text)) before
  | unread {notice : Notice} (absent : ∀ text, ¬ HoldsText before.tree path text)
    (isUnread : IsUnread path notice)
    : Reading environment path before (.ok none) (before.notified [notice])
  | unsettled {escape : Escape} {error : Text.IntegerError}
    (failed : Settings.ofEnvironment environment = .error error)
    : Reading environment path before (.error escape) before
  | tooLong {escape : Escape} (tooLong : ¬ IsShort path)
    : Reading environment path before (.error escape) before

/-- What cannot be found cannot be read. -/
theorem not_holdsText_of_kind? {tree : Tree} {path : Path}
    (looked : (disk.kind? path).run tree = (.ok none, tree)) (text : String)
    : ¬ HoldsText tree path text := by
  rintro ⟨bytes, isRead, -⟩
  rw [kind?_of_read isRead] at looked
  cases looked

theorem not_holdsText_of_refused {tree : Tree} {path : Path} {failure : Failure}
    (refused : (disk.read path).run tree = (.error failure, tree)) (text : String)
    : ¬ HoldsText tree path text := by
  rintro ⟨bytes, isRead, -⟩
  rw [refused] at isRead
  cases isRead

theorem not_holdsText_of_undecoded {tree : Tree} {path : Path} {bytes : Text.Bytes}
    {error : Text.DecodeError} (isRead : (disk.read path).run tree = (.ok bytes, tree))
    (failed : Text.Encoding.utf8.readText bytes = .error error) (text : String)
    : ¬ HoldsText tree path text := by
  rintro ⟨other, again, decoded⟩
  rw [isRead] at again
  obtain rfl := Except.ok.inj (Prod.mk.inj again).1
  rw [failed] at decoded
  cases decoded

/-- Every way in which the reading of a source ends. -/
theorem reading {environment : Environment} {path : Path} {before after : World}
    {ending : Except Escape (Option String)}
    (done : (readSource disk environment path).on before = (ending, after))
    : Reading environment path before ending after := by
  obtain ⟨answer, looked⟩ := exists_answer (relates_kind? path) before.tree
  rw [readSource, Act.on_bind, Act.on_mustFiles, looked] at done
  cases answer with
  | error failure =>
      -- Only a path that is too long keeps the system from telling what is there.
      obtain ⟨rfl, rfl⟩ := Prod.mk.inj done
      refine .tooLong ?_
      intro isShort
      obtain ⟨found, told⟩ := exists_kind? isShort before.tree
      rw [looked] at told
      cases told
  | ok found =>
      cases found with
      | none =>
          obtain ⟨rfl, rfl⟩ := Prod.mk.inj done
          exact .unread (not_holdsText_of_kind? looked) .absent
      | some kind =>
          have goesOn : (readSettings environment >>= fun _ => _).on before = (ending, after) := done
          rw [readSettings] at goesOn
          cases settled : Settings.ofEnvironment environment with
          | error error =>
              rw [settled] at goesOn
              obtain ⟨rfl, rfl⟩ := Prod.mk.inj goesOn
              exact .unsettled settled
          | ok settings =>
              have told := read_ne_nullCharacter looked
              obtain ⟨answer, isRead⟩ := exists_answer (relates_read path) before.tree
              rw [settled] at goesOn
              dsimp only at goesOn
              rw [pure_bind, Act.on_bind, Act.on_onFiles, isRead] at goesOn
              rw [isRead] at told
              cases answer with
              | error failure =>
                  cases failure with
                  | nullCharacter => exact absurd rfl told
                  | fault fault =>
                      obtain ⟨rfl, rfl⟩ := Prod.mk.inj goesOn
                      exact .unread (not_holdsText_of_refused isRead) (.refused fault.message)
              | ok bytes =>
                  dsimp only at goesOn
                  split at goesOn
                  next text decoded =>
                    obtain ⟨rfl, rfl⟩ := Prod.mk.inj goesOn
                    exact .done ⟨bytes, isRead, decoded⟩
                  next error failed =>
                    obtain ⟨rfl, rfl⟩ := Prod.mk.inj goesOn
                    exact .unread (not_holdsText_of_undecoded isRead failed) (.refused error.message)

-----------------------------------------------------------------------------------------
-- Modules
-----------------------------------------------------------------------------------------

/-- A model that is built has a module. -/
theorem exists_lines (settings : Settings) {source : String} {declaration : Declaration}
    {model : Model} (parsed : Declaration.ofSource source = .ok declaration)
    (built : Model.ofDeclaration .standard declaration = .ok model)
    : ∃ lines,
        Module.lines settings model = .ok lines
        ∧ Module.ofSource settings source = .ok (Module.unlines lines) := by
  obtain ⟨admissible, faithful⟩ := Model.sound_of_ok built
  obtain ⟨definitions, written, -⟩ := Module.exists_tables admissible faithful settings
  have written := Module.lines_of_definitionLines written
  refine ⟨_, written, ?_⟩
  simp only [Module.ofSource, Model.ofSource, parsed, Except.mapError, bind, Except.bind, built,
    Model.render, written, Except.map]

/-- How the building of a model ends. -/
inductive Building (settings : Settings) (path : Path) (source : String) (before : World)
    : Option Model → World → Prop where
  | done {model : Model} {lines : List String} {stages : List Notice}
    (areStages : ∀ notice ∈ stages, IsStage notice)
    (written : Module.lines settings model = .ok lines)
    (made : Module.ofSource settings source = .ok (Module.unlines lines))
    : Building settings path source before (some model) (before.notified stages)
  | refused {error : BuildError} {stages : List Notice}
    (areStages : ∀ notice ∈ stages, IsStage notice)
    (failed : Model.ofSource source = .error error)
    : Building settings path source before none
        (before.notified (stages ++ [.line (Console.paragraph (describe path error).toList)]))

theorem isStage_of_mem_recorded (isVerbose : Bool) (source : String) (messages : List String)
    : ∀ notice ∈ Act.recorded isVerbose source messages, IsStage notice := by
  intro notice member
  rw [Act.recorded] at member
  split at member
  next =>
    obtain ⟨message, -, rfl⟩ := List.mem_map.mp member
    exact ⟨source, message, rfl⟩
  next => cases member

/-- Every way in which the building of a model ends. -/
theorem building (settings : Settings) (isVerbose : Bool) (path : Path) (source : String)
    (before : World)
    : ∃ model? after,
        (buildSource isVerbose path source).on before = (.ok model?, after)
        ∧ Building settings path source before model? after := by
  rw [buildSource]
  cases parsed : Declaration.ofSource source with
  | error error =>
      have failed : Model.ofSource source = .error (.source error) := by
        rw [Model.ofSource, parsed]
        rfl
      have noStages : ∀ notice ∈ [], IsStage notice := List.forall_mem_nil _
      exact ⟨none, _, rfl, .refused noStages failed⟩
  | ok declaration =>
      dsimp only
      rw [Act.on_bind, Act.on_record]
      cases built : Model.ofDeclaration .standard declaration with
      | error violation =>
          have failed : Model.ofSource source = .error (.invalid violation) := by
            simp only [Model.ofSource, parsed, built, Except.mapError, bind, Except.bind]
          have areStages :=
            isStage_of_mem_recorded isVerbose "litenum.compiler.compiler" [parseStage declaration]
          have refused : Building settings path source before none _ := .refused areStages failed
          rw [← World.notified_notified] at refused
          exact ⟨none, _, rfl, refused⟩
      | ok model =>
          obtain ⟨lines, written, made⟩ := exists_lines settings parsed built
          dsimp only
          rw [Act.on_bind, Act.on_record]
          refine ⟨some model, _, rfl, ?_⟩
          rw [World.notified_notified]
          exact .done (List.forall_mem_append.mpr
            ⟨isStage_of_mem_recorded _ _ _, isStage_of_mem_recorded _ _ _⟩) written made

-----------------------------------------------------------------------------------------
-- Files
-----------------------------------------------------------------------------------------

namespace Generate

/-- How the writing of a file ends. -/
inductive Writing (path : Path) (text : String) (before : World)
    : Except Escape (Except Failure Unit) → World → Prop where
  | done {tree : Tree}
    (stores
      : tree.node? (path.place before.tree.home) = some (.file (Text.Utf8.encode text.toList)))
    : Writing path text before (.ok (.ok ())) (before.withTree tree)
  | refused (fault : Fault) (tree : Tree)
    : Writing path text before (.ok (.error (.fault fault))) (before.withTree tree)
  | null {tree : Tree} (hasNull : hasNull path = true)
    : Writing path text before (.ok (.error .nullCharacter)) (before.withTree tree)
  | nameless {escape : Escape} {tree : Tree} (nameless : secondPath? path = none)
    : Writing path text before (.error escape) (before.withTree tree)

theorem contains_null_name {path : Path} (clean : hasNull path = false)
    : path.name.toList.contains '\x00' = false := by
  rw [Path.name, List.getLastD_eq_getLast?]
  cases last : path.parts.getLast? with
  | none => rfl
  | some name =>
      rw [hasNull, List.any_eq_false] at clean
      exact Bool.eq_false_iff.mpr (clean name (List.mem_of_getLast? last))

theorem hasNull_secondPath? {path second : Path} (named : secondPath? path = some second)
    (clean : hasNull path = false)
    : hasNull second = false := by
  have nameClean := contains_null_name clean
  have parentClean := hasNull_parent clean
  rw [secondPath?, Path.withName?] at named
  split at named
  next => cases named
  next =>
    obtain rfl := Option.some.inj named
    rw [hasNull] at parentClean ⊢
    simp only [Path.child, List.any_append, parentClean, Bool.false_or]
    simpa using nameClean

/-- Every way in which the writing of a file ends. -/
theorem writing {path : Path} {text : String} {before after : World}
    {ending : Except Escape (Except Failure Unit)}
    (done : (writeFile disk path text).on before = (ending, after))
    : Writing path text before ending after := by
  rw [writeFile, Act.on_bind, Act.on_onFiles] at done
  have around := keepsFiles_makeDirectories path.parent.parts.length path.parent before.tree
  cases made : (disk.makeDirectories path.parent.parts.length path.parent).run before.tree with
  | mk answer tree =>
      rw [made] at done around
      cases answer with
      | error failure =>
          obtain ⟨rfl, rfl⟩ := Prod.mk.inj done
          cases failure with
          | fault fault => exact .refused fault tree
          | nullCharacter =>
              refine .null (hasNull_of_run ?_ made)
              intro clean
              exact isAnswered_makeDirectories _ (hasNull_parent clean)
      | ok value =>
          dsimp only at done
          rw [rename] at done
          cases named : secondPath? path with
          | none =>
              rw [show path.withName? (path.name ++ ".tmp") = none from named] at done
              obtain ⟨rfl, rfl⟩ := Prod.mk.inj done
              exact .nameless named
          | some second =>
              rw [show path.withName? (path.name ++ ".tmp") = some second from named] at done
              dsimp only at done
              rw [pure_bind, Act.on_onFiles] at done
              cases written : (disk.writeThrough path second (Text.Utf8.encode text.toList)).run
                  tree with
              | mk answer last =>
                  have same : ((before.withTree tree).tree) = tree := rfl
                  rw [same, written] at done
                  obtain ⟨rfl, rfl⟩ := Prod.mk.inj done
                  cases answer with
                  | ok value =>
                      have stores := writeThrough_stores written
                      rw [around.home] at stores
                      exact .done stores
                  | error failure =>
                      cases failure with
                      | fault fault => exact .refused fault last
                      | nullCharacter =>
                          refine .null (hasNull_of_run ?_ written)
                          intro clean
                          exact isAnswered_writeThrough clean (hasNull_secondPath? named clean) _

-----------------------------------------------------------------------------------------
-- Units
-----------------------------------------------------------------------------------------

/-- The source can be read, and its text has the module. -/
def Makes (options : Options) (source : Path) (before : World) (module : String) : Prop :=
  ∃ text, HoldsText before.tree source text ∧ Module.ofSource options.settings text = .ok module

/-- A source has one module. -/
theorem Makes.unique {options : Options} {source : Path} {before : World} {module other : String}
    (makes : Makes options source before module) (makesOther : Makes options source before other)
    : module = other := by
  obtain ⟨text, holds, made⟩ := makes
  obtain ⟨otherText, otherHolds, otherMade⟩ := makesOther
  obtain rfl := holds.unique otherHolds
  exact Except.ok.inj (made.symm.trans otherMade)

/-- Something about a unit that a run does not deal with. Paths of outputs are looked at only
where there is a module to write.
-/
inductive IsObstructed (options : Options) (source : Path) (before : World) : Prop where
  | unsettled {error : Text.IntegerError}
    (failed : Settings.ofEnvironment options.environment = .error error)
  | tooLong (tooLong : ¬ IsShort source)
  | nameless {module : String} (isFile : options.target ≠ .stdout)
    (makes : Makes options source before module)
    (nameless : outputPath? options.target options.settings.outputSuffix source = none)
  | secondNameless {module : String} {path : Path} (makes : Makes options source before module)
    (output : outputPath? options.target options.settings.outputSuffix source = some path)
    (nameless : secondPath? path = none)
  | null {module : String} {path : Path} (makes : Makes options source before module)
    (output : outputPath? options.target options.settings.outputSuffix source = some path)
    (hasNull : hasNull path = true)

/-- What comes of a unit. A unit that breaks off before there is a module has changed nothing. -/
inductive Attempt (options : Options) (source : Path) (before : World)
    : Except Escape Bool → World → Prop where
  | unread {notice : Notice} (absent : ∀ text, ¬ HoldsText before.tree source text)
    (isUnread : IsUnread source notice)
    : Attempt options source before (.ok false) (before.notified [notice])
  | refused {text : String} {error : BuildError} {stages : List Notice}
    (holds : HoldsText before.tree source text) (areStages : ∀ notice ∈ stages, IsStage notice)
    (failed : Model.ofSource text = .error error)
    : Attempt options source before (.ok false)
        (before.notified (stages ++ [.line (Console.paragraph (describe source error).toList)]))
  | printed {module : String} {stages : List Notice} (isPrinted : options.target = .stdout)
    (makes : Makes options source before module) (areStages : ∀ notice ∈ stages, IsStage notice)
    : Attempt options source before (.ok true) ((before.notified stages).printed module)
  | written {module : String} {path : Path} {stages : List Notice} {tree : Tree}
    (makes : Makes options source before module) (areStages : ∀ notice ∈ stages, IsStage notice)
    (output : outputPath? options.target options.settings.outputSuffix source = some path)
    (stores
      : tree.node? (path.place before.tree.home) = some (.file (Text.Utf8.encode module.toList)))
    : Attempt options source before (.ok true)
        ((before.notified (stages ++ [generatedNotice path])).withTree tree)
  | unwritten {module : String} {path : Path} {stages : List Notice} {tree : Tree}
    (fault : Fault) (makes : Makes options source before module)
    (areStages : ∀ notice ∈ stages, IsStage notice)
    (output : outputPath? options.target options.settings.outputSuffix source = some path)
    : Attempt options source before (.ok false)
        ((before.notified
          (stages ++ [complaint s!"Error: Cannot write {path.text}: {fault.message}"])).withTree tree)
  | broken {escape : Escape} {stages : List Notice} {tree : Tree}
    (areStages : ∀ notice ∈ stages, IsStage notice) (obstructed : IsObstructed options source before)
    (untouched : (∀ module, ¬ Makes options source before module) → tree = before.tree)
    : Attempt options source before (.error escape) ((before.notified stages).withTree tree)

/-- A module that is written, or not, after some stages. -/
theorem attempt_of_writeModule {options : Options} {source : Path} {module : String}
    {before after : World} {stages : List Notice} {ending : Except Escape Bool}
    (isFile : options.target ≠ .stdout) (makes : Makes options source before module)
    (areStages : ∀ notice ∈ stages, IsStage notice)
    (done : (writeModule disk options source module).on (before.notified stages) = (ending, after))
    : Attempt options source before ending after := by
  rw [writeModule, outputPath_eq isFile] at done
  cases output : outputPath? options.target options.settings.outputSuffix source with
  | none =>
      rw [output] at done
      obtain ⟨rfl, rfl⟩ := Prod.mk.inj done
      exact .broken areStages (.nameless isFile makes output) fun _ => rfl
  | some path =>
      rw [output] at done
      dsimp only at done
      rw [pure_bind, Act.on_bind] at done
      cases wrote : (writeFile disk path module).on (before.notified stages) with
      | mk answer middle =>
          rw [wrote] at done
          cases writing wrote with
          | done stores =>
              obtain ⟨rfl, rfl⟩ := Prod.mk.inj done
              have written := Attempt.written makes areStages output stores
              rw [← World.notified_notified] at written
              exact written
          | @refused fault tree =>
              obtain ⟨rfl, rfl⟩ := Prod.mk.inj done
              have unwritten : Attempt options source before (.ok false) (World.withTree _ tree) :=
                .unwritten fault makes areStages output
              rw [← World.notified_notified] at unwritten
              exact unwritten
          | null hasNull =>
              obtain ⟨rfl, rfl⟩ := Prod.mk.inj done
              exact .broken areStages (.null makes output hasNull) fun none => absurd makes (none module)
          | nameless nameless =>
              obtain ⟨rfl, rfl⟩ := Prod.mk.inj done
              exact .broken areStages (.secondNameless makes output nameless) fun none =>
                absurd makes (none module)

/-- A unit that breaks off before it has done anything. -/
theorem Attempt.broken_at_once {options : Options} {source : Path} {before : World}
    {escape : Escape} (obstructed : IsObstructed options source before)
    : Attempt options source before (.error escape) before := by
  have noStages : ∀ notice ∈ [], IsStage notice := List.forall_mem_nil _
  have broken : Attempt options source before (.error escape)
      ((before.notified []).withTree before.tree) := .broken noStages obstructed fun _ => rfl
  rw [World.notified_nil] at broken
  exact broken

/-- A unit without a module leaves the tree as it is. -/
theorem Attempt.tree_eq {options : Options} {source : Path} {before after : World}
    {ending : Except Escape Bool} (attempt : Attempt options source before ending after)
    (none : ∀ module, ¬ Makes options source before module)
    : after.tree = before.tree := by
  cases attempt with
  | unread absent isUnread => rfl
  | refused holds areStages failed => rfl
  | printed isPrinted makes areStages => rfl
  | written makes areStages output stores => exact absurd makes (none _)
  | unwritten fault makes areStages output => exact absurd makes (none _)
  | broken areStages obstructed untouched => exact untouched none

/-- Every way in which a unit ends. -/
theorem attempt {options : Options} {source : Path} {before after : World}
    {ending : Except Escape Bool}
    (done : (generateOne disk options source).on before = (ending, after))
    : Attempt options source before ending after := by
  rw [generateOne, Act.on_bind] at done
  cases read : (readSource disk options.environment source).on before with
  | mk answer middle =>
      rw [read] at done
      cases reading read with
      | unsettled failed =>
          obtain ⟨rfl, rfl⟩ := Prod.mk.inj done
          exact .broken_at_once (.unsettled failed)
      | tooLong tooLong =>
          obtain ⟨rfl, rfl⟩ := Prod.mk.inj done
          exact .broken_at_once (.tooLong tooLong)
      | unread absent isUnread =>
          obtain ⟨rfl, rfl⟩ := Prod.mk.inj done
          exact .unread absent isUnread
      | @done text holds =>
          dsimp only at done
          rw [Act.on_bind] at done
          obtain ⟨model?, built, build, building⟩ :=
            building options.settings options.isVerbose source text before
          rw [build] at done
          cases building with
          | refused areStages failed =>
              obtain ⟨rfl, rfl⟩ := Prod.mk.inj done
              exact .refused holds areStages failed
          | @done model lines stages areStages written made =>
              -- The model has lines, so that the default of `moduleLines` never comes up.
              have same : moduleLines options model = lines := by rw [moduleLines, written]
              have goesOn : (Act.record options.isVerbose "litenum.compiler.compiler"
                    [emitStage (moduleLines options model) model]
                  >>= fun _ => deliver options source (Module.unlines (moduleLines options model))).on
                    (before.notified stages) = (ending, after) := done
              rw [same, Act.on_bind, Act.on_record] at goesOn
              dsimp only at goesOn
              rw [World.notified_notified, deliver] at goesOn
              have areStages := List.forall_mem_append.mpr ⟨areStages, isStage_of_mem_recorded
                options.isVerbose "litenum.compiler.compiler" [emitStage lines model]⟩
              split at goesOn
              next isPrinted =>
                obtain ⟨rfl, rfl⟩ := Prod.mk.inj goesOn
                exact .printed isPrinted ⟨text, holds, made⟩ areStages
              next isFile => exact attempt_of_writeModule isFile ⟨text, holds, made⟩ areStages goesOn

end Generate

end LiteralEnum.Command
