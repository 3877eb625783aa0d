import LiteralEnum.Proofs.Command.Attempts

/-! Failures of a run that generates modules. Where every path that comes up can be used, the run
does not break off: what cannot be read and what cannot be written is reported, and the exit code
tells of it.
-/

namespace LiteralEnum.Command

open Files Files.Tree

namespace Generate

/-- The inputs have short paths. The pattern for sources can be searched for in those that are
directories, and the search looks at short paths.
-/
structure AreSearchable (suffix : String) (tree : Tree) (inputs : List String) : Prop where
  areShort : ∀ name ∈ inputs, IsShort (Path.ofText name)
  directories
    : ∀ name ∈ inputs, IsDirectoryAt tree (Path.ofText name)
        → isSearchable ("*" ++ suffix) = true
          ∧ ∀ other, Visits tree (Path.ofText name) (searchSteps ("*" ++ suffix)) other
            → IsShort other

theorem exists_sourcesIn {suffix : String} {path : Path} {world : World}
    (searchable : isSearchable ("*" ++ suffix) = true)
    (isDirectory : IsDirectoryAt world.tree path)
    (areShort
      : ∀ other, Visits world.tree path (searchSteps ("*" ++ suffix)) other → IsShort other)
    : ∃ found,
        (sourcesIn disk suffix path).on world = (.ok found, world)
        ∧ ∀ source ∈ found, IsShort source := by
  obtain ⟨found, search, foundShort⟩ := finds_search isDirectory areShort
  refine ⟨found, ?_, foundShort⟩
  have searched : (disk.search path ("*" ++ suffix)).run.run world.tree = (.ok found, world.tree) :=
    search
  rw [sourcesIn, if_pos searchable, Act.on_mustFiles, searched]
  rfl

/-- Inputs that can be looked at are looked at, one by one. By induction on them. -/
theorem exists_expandInputs {suffix : String} {inputs : List String} {world : World}
    (searchable : AreSearchable suffix world.tree inputs)
    : ∃ found? after,
        (expandInputs disk suffix inputs).on world = (.ok found?, after)
        ∧ ∀ found ∈ found?, ∀ source ∈ found, IsShort source := by
  induction inputs with
  | nil => exact ⟨some [], world, rfl, by simp⟩
  | cons name rest ih =>
      obtain ⟨nameShort, areShort⟩ := List.forall_mem_cons.mp searchable.areShort
      obtain ⟨here, directories⟩ := List.forall_mem_cons.mp searchable.directories
      obtain ⟨others?, last, expanded, othersShort⟩ := ih ⟨areShort, directories⟩
      have joined : ∀ first : List Path, (∀ source ∈ first, IsShort source) →
          ∃ found? after,
            (do return (← expandInputs disk suffix rest).map (first ++ ·)
              : Act (StateM Tree) (Option (List Path))).on world = (.ok found?, after)
            ∧ ∀ found ∈ found?, ∀ source ∈ found, IsShort source := by
        intro first firstShort
        refine ⟨others?.map (first ++ ·), last, by rw [Act.on_map, expanded]; rfl, ?_⟩
        intro found member
        obtain ⟨others, isOthers, rfl⟩ := Option.map_eq_some_iff.mp member
        exact List.forall_mem_append.mpr ⟨firstShort, othersShort others isOthers⟩
      obtain ⟨kind?, looked⟩ := exists_kind? nameShort world.tree
      have nameLooked : (Act.mustFiles (disk.kind? (Path.ofText name))).on world
          = (.ok kind?, world) := by
        rw [Act.on_mustFiles, looked]
        rfl
      rw [expandInputs, Act.on_bind, nameLooked]
      dsimp only
      split
      next isDirectory =>
        subst isDirectory
        obtain ⟨searchable, visitsShort⟩ := here looked
        obtain ⟨sources, searched, sourcesShort⟩ := exists_sourcesIn searchable looked visitsShort
        rw [Act.on_bind, searched]
        dsimp only
        split
        next => exact ⟨none, _, rfl, by simp⟩
        next => exact joined sources sourcesShort
      next => exact joined [Path.ofText name] (List.forall_mem_singleton.mpr nameShort)

-----------------------------------------------------------------------------------------
-- Runs that do not break off
-----------------------------------------------------------------------------------------

/-- The sources of inputs that can be looked at have short paths. -/
theorem isShort_of_mem_sources {settings : Settings} {inputs : List String} {target : Target}
    {tree : Tree} (searchable : AreSearchable settings.sourceSuffix tree inputs)
    : ∀ source ∈ sources settings inputs target tree, IsShort source := by
  have expands : AreSearchable settings.sourceSuffix ({ tree } : World).tree inputs := searchable
  obtain ⟨found?, after, expanded, areShort⟩ := exists_expandInputs expands
  intro source member
  unfold sources at member
  rw [expanded] at member
  cases found? with
  | none => cases member
  | some found =>
      refine areShort found rfl source ?_
      dsimp only at member
      unfold accepted at member
      split at member
      next => cases member
      next => exact member

/-- Units that nothing is in the way of end one by one. By induction on the sources. -/
theorem exists_generateAll {options : Options} {sources : List Path} {start : World}
    (free
      : ∀ source later before, Turn options sources start source later before
          → ¬ IsObstructed options source before)
    : ∃ all final, (generateAll disk options sources).on start = (.ok all, final) := by
  induction sources generalizing start with
  | nil => exact ⟨true, start, rfl⟩
  | cons source rest ih =>
      have sourceFree := free source rest start (.now source rest start)
      cases done : (generateOne disk options source).on start with
      | mk ending middle =>
          cases ending with
          | error escape =>
              cases attempt done with
              | broken areStages obstructed untouched => exact absurd obstructed sourceFree
          | ok first =>
              have laterFree : ∀ other later before, Turn options rest middle other later before
                  → ¬ IsObstructed options other before :=
                fun other later before turn => free other later before (.next done turn)
              obtain ⟨others, final, rest⟩ := ih laterFree
              rw [on_generateAll_cons done, Act.on_map, rest]
              exact ⟨first && others, final, rfl⟩

/-- In a run that does not break off, no unit does, and all units succeed only if each does. By
induction on the units before the turn.
-/
theorem Turn.exists_of_ok {options : Options} {sources later : List Path} {start before : World}
    {source : Path} (turn : Turn options sources start source later before) {all : Bool}
    {final : World} (done : (generateAll disk options sources).on start = (.ok all, final))
    : ∃ succeeds after,
        (generateOne disk options source).on before = (.ok succeeds, after)
        ∧ (all = true → succeeds = true) := by
  induction turn generalizing all final with
  | now source rest start =>
      cases unit : (generateOne disk options source).on start with
      | mk ending middle =>
          cases ending with
          | error escape =>
              rw [generateAll, Act.on_bind, unit] at done
              cases done
          | ok succeeds =>
              refine ⟨succeeds, middle, rfl, ?_⟩
              rw [on_generateAll_cons unit] at done
              obtain ⟨others, last, -, same⟩ := Act.exists_of_on_bind done
              obtain rfl : (succeeds && others) = all := Except.ok.inj (Prod.mk.inj same).1
              intro both
              exact ((Bool.and_eq_true _ _).mp both).1
  | @next _ _ _ _ _ _ _ first unit turn ih =>
      rw [on_generateAll_cons unit] at done
      obtain ⟨others, last, rest, same⟩ := Act.exists_of_on_bind done
      obtain rfl : (first && others) = all := Except.ok.inj (Prod.mk.inj same).1
      obtain ⟨succeeds, after, ends, othersNeed⟩ := ih rest
      refine ⟨succeeds, after, ends, ?_⟩
      intro both
      exact othersNeed ((Bool.and_eq_true _ _).mp both).2

-----------------------------------------------------------------------------------------
-- What is reported
-----------------------------------------------------------------------------------------

/-- A report that the module at a path cannot be written. -/
def IsUnwritten (path : Path) (notice : Notice) : Prop :=
  ∃ fault : Fault, notice = complaint s!"Error: Cannot write {path.text}: {fault.message}"

/-- A failure of a unit, and what a report of it is: the source cannot be read, or its module is
not in its file after the turn.
-/
inductive Failing (options : Options) (source : Path) (before : World)
    : (Notice → Prop) → Prop where
  | unread (absent : ∀ text, ¬ HoldsText before.tree source text)
    : Failing options source before (IsUnread source)
  | unwritten {path : Path} {module : String} (makes : Makes options source before module)
    (output : outputPath? options.target options.settings.outputSuffix source = some path)
    (missing
      : ((generateOne disk options source).on before).2.tree.node? (path.place before.tree.home)
          ≠ some (.file (Text.Utf8.encode module.toList)))
    : Failing options source before (IsUnwritten path)

theorem ofSource_ne_ok {settings : Settings} {text module : String} {error : BuildError}
    (failed : Model.ofSource text = .error error)
    : Module.ofSource settings text ≠ .ok module := by
  rw [Module.ofSource, failed]
  simp [bind, Except.bind, Except.mapError]

/-- A unit that fails and does not break off says so. -/
theorem Failing.reports {options : Options} {source : Path} {before after : World}
    {isReport : Notice → Prop} {succeeds : Bool} (failing : Failing options source before isReport)
    (done : (generateOne disk options source).on before = (.ok succeeds, after))
    : succeeds = false ∧ ∃ notice ∈ after.output.notices, isReport notice := by
  cases failing with
  | unread absent =>
      have not_makes : ∀ module, ¬ Makes options source before module := by
        rintro module ⟨text, holds, -⟩
        exact absent text holds
      cases attempt done with
      | @unread notice _ isUnread => exact ⟨rfl, notice, by simp, isUnread⟩
      | refused holds => exact absurd holds (absent _)
      | printed _ makes => exact absurd makes (not_makes _)
      | written makes => exact absurd makes (not_makes _)
      | unwritten _ makes => exact absurd makes (not_makes _)
  | @unwritten path module makes output missing =>
      rw [done] at missing
      cases attempt done with
      | unread absent _ =>
          obtain ⟨text, holds, -⟩ := makes
          exact absurd holds (absent text)
      | refused isHeld _ failed =>
          obtain ⟨text, holds, made⟩ := makes
          obtain rfl := holds.unique isHeld
          exact absurd made (ofSource_ne_ok failed)
      | printed isPrinted =>
          rw [isPrinted] at output
          cases output
      | written isMade _ isOutput stores =>
          obtain rfl := makes.unique isMade
          obtain rfl := Option.some.inj (output.symm.trans isOutput)
          exact absurd stores missing
      | unwritten fault _ _ isOutput =>
          obtain rfl := Option.some.inj (output.symm.trans isOutput)
          exact ⟨rfl, _, by simp [World.withTree], fault, rfl⟩

/-- Every path that comes up in a run can be used: those of the inputs, and those that modules
are written to, where there is a module.
-/
structure IsServable (options : Options) (inputs : List String) (tree : Tree) : Prop where
  searchable : AreSearchable options.settings.sourceSuffix tree inputs
  named
    : options.target ≠ .stdout
      → ∀ source later before module,
          Turn options (sources options.settings inputs options.target tree) { tree } source later
            before
          → Makes options source before module
          → ∃ path second,
              outputPath? options.target options.settings.outputSuffix source = some path
              ∧ secondPath? path = some second
              ∧ hasNull path = false

/-- Nothing is in the way of a unit whose paths can be used. -/
theorem IsServable.free {options : Options} {inputs : List String} {tree : Tree}
    (servable : IsServable options inputs tree)
    (settled : Settings.ofEnvironment options.environment = .ok options.settings)
    : ∀ source later before,
        Turn options (sources options.settings inputs options.target tree) { tree } source later
          before
        → ¬ IsObstructed options source before := by
  intro source later before turn obstructed
  have isFile : ∀ {path},
      outputPath? options.target options.settings.outputSuffix source = some path
        → options.target ≠ .stdout := by
    intro path output isPrinted
    rw [isPrinted] at output
    cases output
  cases obstructed with
  | unsettled failed =>
      rw [settled] at failed
      cases failed
  | tooLong tooLong =>
      exact tooLong (isShort_of_mem_sources servable.searchable source turn.mem)
  | nameless notPrinted makes nameless =>
      obtain ⟨path, second, output, -, -⟩ := servable.named notPrinted _ _ _ _ turn makes
      rw [nameless] at output
      cases output
  | secondNameless makes isOutput nameless =>
      obtain ⟨path, second, output, named, -⟩ :=
        servable.named (isFile isOutput) _ _ _ _ turn makes
      obtain rfl := Option.some.inj (output.symm.trans isOutput)
      rw [nameless] at named
      cases named
  | null makes isOutput hasNull =>
      obtain ⟨path, second, output, -, clean⟩ :=
        servable.named (isFile isOutput) _ _ _ _ turn makes
      obtain rfl := Option.some.inj (output.symm.trans isOutput)
      rw [clean] at hasNull
      cases hasNull

/-- A run whose paths can be used does not break off, and reports every failure. -/
theorem IsServable.run {environment : Environment} {settings : Settings} {inputs : List String}
    {target : Target} {isVerbose : Bool} {tree : Tree}
    (servable : IsServable ⟨settings, environment, target, isVerbose⟩ inputs tree)
    (settled : Settings.ofEnvironment environment = .ok settings)
    : ∃ code final,
        (Generate.run disk environment isVerbose inputs target).on { tree } = (.ok code, final)
        ∧ code ≤ 1
        ∧ (inputs ≠ [] → sources settings inputs target tree = [] → code = 1)
        ∧ ∀ source later before isReport,
            Turn ⟨settings, environment, target, isVerbose⟩ (sources settings inputs target tree)
              { tree } source later before
            → Failing ⟨settings, environment, target, isVerbose⟩ source before isReport
            → code = 1 ∧ ∃ notice ∈ final.output.notices, isReport notice := by
  rcases run_cases settled isVerbose inputs target tree with ⟨nonempty, through⟩ | ⟨none, -, ending⟩
  · obtain ⟨all, final, done⟩ := exists_generateAll (servable.free settled)
    rw [through, Act.on_map, done]
    refine ⟨if all then 0 else 1, final, rfl, by split <;> decide,
      fun isGiven none => absurd none (nonempty isGiven), ?_⟩
    intro source later before isReport turn failing
    obtain ⟨succeeds, after, unit, allNeed⟩ := turn.exists_of_ok done
    obtain ⟨rfl, notice, member, reported⟩ := failing.reports unit
    -- The report of the turn is still among those of the whole run.
    have kept := turn.proceeds.notices
    rw [unit, done] at kept
    refine ⟨?_, notice, kept.subset member, reported⟩
    rw [if_neg fun same => Bool.false_ne_true (allNeed same)]
  · rcases ending with ends | ⟨escape, broken⟩
    · refine ⟨1, _, Prod.ext ends rfl, le_rfl, fun _ _ => rfl, ?_⟩
      intro source later before isReport turn
      rw [none] at turn
      cases turn
    · have expands : AreSearchable settings.sourceSuffix ({ tree } : World).tree inputs :=
        servable.searchable
      obtain ⟨found?, after, expanded, -⟩ := exists_expandInputs expands
      rw [expanded] at broken
      cases broken

end Generate

/-- The indent is the only variable that can be wrong. -/
theorem exists_settings {environment : Environment}
    (valid
      : ∀ text ∈ environment.value? "LITENUM_INDENT_WIDTH",
          ∃ width, Text.parseInteger text = .ok width)
    : ∃ settings, Settings.ofEnvironment environment = .ok settings := by
  unfold Settings.ofEnvironment
  cases given : environment.value? "LITENUM_INDENT_WIDTH" with
  | none => exact ⟨_, rfl⟩
  | some text =>
      obtain ⟨width, parsed⟩ := valid text given
      dsimp only
      rw [parsed]
      exact ⟨_, rfl⟩

/-- A source, and a directory in the place of its module. -/
def takenTree : Tree where
  nodes := [(["a.lenum"], .file (Text.Utf8.encode "T = A \"a\"".toList)),
    (["a.py"], .directory)]

theorem isServable_taken
    : Generate.IsServable ⟨{}, [], .beside, false⟩ ["a.lenum", "b.lenum"] takenTree := by
  have found : Generate.sources {} ["a.lenum", "b.lenum"] .beside takenTree
      = [⟨"", ["a.lenum"]⟩, ⟨"", ["b.lenum"]⟩] := by decide
  have areFiles : ∀ name ∈ ["a.lenum", "b.lenum"],
      ¬ IsDirectoryAt takenTree (Path.ofText name) := by decide
  refine ⟨⟨?_, fun name member isDirectory => absurd isDirectory (areFiles name member)⟩, ?_⟩
  · intro name member
    rcases List.mem_pair.mp member with rfl | rfl
    · exact ⟨by decide, by decide⟩
    · exact ⟨by decide, by decide⟩
  · intro _ source later before module turn _
    have member := turn.mem
    rw [found] at member
    rcases List.mem_pair.mp member with rfl | rfl
    · exact ⟨_, _, rfl, rfl, by decide⟩
    · exact ⟨_, _, rfl, rfl, by decide⟩

end LiteralEnum.Command
