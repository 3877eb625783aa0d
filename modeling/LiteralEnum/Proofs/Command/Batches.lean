import LiteralEnum.Proofs.Command.SeparateUnits
import Mathlib.Data.List.Pairwise

/-! Batches whose units do not depend on each other. Each unit finds what it would find if it were
alone. What is there when some units are finished is known from what each of them does alone, so
that their order makes no difference.
-/

namespace LiteralEnum.Command.Generate

open Files Files.Tree

-----------------------------------------------------------------------------------------
-- Batches
-----------------------------------------------------------------------------------------

/-- The sources are files where paths start in a directory, and they and the paths that their modules
are written to have places of their own.
-/
structure IsBatch (target : Target) (suffix : String) (sources : List Path) (tree : Tree)
    : Prop where
  isSpread : IsSpread target
  isHome : tree.node? tree.home = some .directory
  regular : ∀ source ∈ sources, IsFileAt tree source
  distinct
    : ((sources.flatMap fun source => source :: unitPaths target suffix source).map
        (Path.place tree.home)).Nodup

section

variable {target : Target} {suffix : String} {sources : List Path} {tree : Tree}

/-- Two units of a batch have no place in common. -/
theorem IsBatch.disjoint (batch : IsBatch target suffix sources tree) {source other : Path}
    (member : source ∈ sources) (otherMember : other ∈ sources) (apart : source ≠ other)
    : (source.place tree.home :: unitPlaces tree.home target suffix source).Disjoint
        (other.place tree.home :: unitPlaces tree.home target suffix other) := by
  have distinct := batch.distinct
  rw [List.map_flatMap, List.nodup_flatMap] at distinct
  have isSymmetric : Std.Symm (Function.onFun List.Disjoint fun source =>
      (source :: unitPaths target suffix source).map (Path.place tree.home)) :=
    ⟨fun _ _ disjoint _ left right => disjoint right left⟩
  exact distinct.2.forall member otherMember apart

theorem IsBatch.nodup (batch : IsBatch target suffix sources tree) : sources.Nodup := by
  have distinct := batch.distinct
  rw [List.map_flatMap, List.nodup_flatMap] at distinct
  refine distinct.2.imp ?_
  rintro source _ disjoint rfl
  exact disjoint List.mem_cons_self List.mem_cons_self

end

-----------------------------------------------------------------------------------------
-- Directories of a batch
-----------------------------------------------------------------------------------------

/-- The directories of a batch are made in the tree, as far as they can be made. -/
structure IsPrepared (target : Target) (sources : List Path) (tree made : Tree) : Prop where
  keepsFiles : KeepsFiles [] tree made
  kept : ∀ place node, tree.node? place = some node → made.node? place = some node
  making
    : ∀ source ∈ sources,
        Making (outputDirectory target source).parts.length (outputDirectory target source) tree
          made
  common
    : (∀ source ∈ sources, IsDirectoryAt made (outputDirectory target source))
      ∨ ∀ source ∈ sources, ∃ failure,
          (disk.makeDirectories (outputDirectory target source).parts.length
            (outputDirectory target source)).run made = (.error failure, made)

/-- Next to the sources all directories are there, and the one of a batch can be made or not. -/
theorem exists_prepared {target : Target} (isSpread : IsSpread target) {sources : List Path}
    {tree : Tree} (plain : ∀ source ∈ sources, source.IsPlain)
    (regular : ∀ source ∈ sources, IsFileAt tree source)
    (isHome : tree.node? tree.home = some .directory)
    : ∃ made, IsPrepared target sources tree made := by
  cases isSpread with
  | beside =>
      have isDirectory : ∀ source ∈ sources, IsDirectoryAt tree source.parent := by
        intro source member
        obtain ⟨clean, located, -⟩ := (regular source member).exists_content
        exact isDirectoryAt_parent (plain source member)
          ((regular source member).parts_ne_nil isHome) clean located
      refine ⟨tree, refl_of _ tree, fun _ _ stands => stands, fun source member => ?_,
        .inl isDirectory⟩
      exact .made ((isDirectory source member).run_makeDirectories _) (isDirectory source member)
  | directory path =>
      obtain ⟨made, making⟩ := exists_making (Path.isPlain_ofText path)
        (Path.ofText path).parts.length tree
      have adds := addsDirectories_makeDirectories (Path.ofText path).parts.length
        (Path.ofText path) tree
      have reached : ((disk.makeDirectories (Path.ofText path).parts.length
          (Path.ofText path)).run tree).2 = made := by
        cases making with
        | made done isDirectory => rw [done]
        | stuck failed again => rw [failed]
      rw [reached] at adds
      refine ⟨made, adds.keepsFiles, fun _ _ => adds.node?_eq, fun _ _ => making, ?_⟩
      cases making with
      | made done isDirectory => exact .inl fun _ _ => isDirectory
      | stuck failed again => exact .inr fun _ _ => ⟨_, again⟩

-----------------------------------------------------------------------------------------
-- Units of a batch
-----------------------------------------------------------------------------------------

/-- How a unit ends in a tree, and the tree after it. -/
def unitEnding (options : Options) (tree : Tree) (source : Path) : Except Escape Bool :=
  ((generateOne disk options source).on { tree }).1

def unitTree (options : Options) (tree : Tree) (source : Path) : Tree :=
  ((generateOne disk options source).on { tree }).2.tree

/-- The unit writes nothing, with or without the directories. -/
def IsIdle (options : Options) (tree made : Tree) (source : Path) : Prop :=
  unitTree options tree source = tree ∧ unitTree options made source = made

/-- The places that a unit sees and those that it writes to. -/
abbrev seen (options : Options) (tree : Tree) (source : Path) : List Place :=
  unitWays tree.home options.target options.settings.outputSuffix source

abbrev written (options : Options) (tree : Tree) (source : Path) : List Place :=
  unitPlaces tree.home options.target options.settings.outputSuffix source

theorem written_subset_seen (options : Options) (tree : Tree) (source : Path)
    : written options tree source ⊆ seen options tree source := by
  intro place member
  obtain ⟨path, isPath, rfl⟩ := List.mem_map.mp member
  exact List.mem_flatMap.mpr ⟨path, List.mem_cons_of_mem _ isPath, path.place_mem_way _⟩

/-- A unit comes to the same end with and without the directories. With them it changes nothing
that another unit sees.
-/
structure AreSeparate (options : Options) (sources : List Path) (tree made : Tree) : Prop where
  isFile : options.target ≠ .stdout
  keepsFiles : KeepsFiles [] tree made
  again
    : ∀ source ∈ sources, unitEnding options tree source = unitEnding options made source
        ∧ (IsIdle options tree made source
          ∨ unitTree options tree source = unitTree options made source)
  replaces
    : ∀ source ∈ sources,
        ReplacesFiles (written options tree source) made (unitTree options made source)
  apart
    : ∀ source ∈ sources, ∀ other ∈ sources, source ≠ other →
        ∀ place ∈ written options tree source, place ∈ seen options tree other →
          (unitTree options made source).node? place = made.node? place

section

variable {options : Options} {sources : List Path} {tree made : Tree}
  (batch : IsBatch options.target options.settings.outputSuffix sources tree)
  (hasNames : ∀ source ∈ sources, HasModuleName options.settings.outputSuffix source)
  (prepared : IsPrepared options.target sources tree made)

include batch hasNames prepared

theorem making_of_output {source path : Path} (member : source ∈ sources)
    (output : outputPath? options.target options.settings.outputSuffix source = some path)
    : Making path.parent.parts.length path.parent tree made := by
  rw [outputPath?_eq batch.isSpread (hasNames source member)] at output
  rw [← Option.some.inj output, Path.parent_child]
  exact prepared.making source member

theorem replacesFiles_made {source : Path} (member : source ∈ sources)
    : ReplacesFiles (written options tree source) made (unitTree options made source) := by
  have settled : ∀ path ∈ outputPath? options.target options.settings.outputSuffix source,
      IsSettled path.parent ({ tree := made } : World).tree := fun path output =>
    isSettled_of_making (making_of_output batch hasNames prepared member output)
  rw [written, ← prepared.keepsFiles.home]
  exact replacesFiles_generateOne batch.isSpread.ne_stdout settled

omit hasNames in
/-- What stands on the way to a source stands there with the directories too. -/
theorem agreeAt_source {source : Path} (member : source ∈ sources)
    : AgreeAt tree.home (source.way tree.home) tree made := by
  refine ⟨rfl, prepared.keepsFiles.home, fun place onWay => ?_⟩
  obtain ⟨node, stands⟩ := (batch.regular source member).exists_node place onWay
  rw [stands, prepared.kept place node stands]

omit prepared in
/-- Where the directories cannot be made, nothing is written. -/
theorem unitTree_of_stuck {source : Path} (member : source ∈ sources) {failure : Failure}
    (stuck
      : (disk.makeDirectories (outputDirectory options.target source).parts.length
          (outputDirectory options.target source)).run made = (.error failure, made))
    : unitTree options made source = made := by
  rw [unitTree]
  rcases tree_of_generateOne batch.isSpread.ne_stdout { tree := made } with
    same | ⟨path, text, middle, output, same, wrote⟩
  · exact same
  · rw [outputPath?_eq batch.isSpread (hasNames source member)] at output
    obtain rfl := Option.some.inj output
    have same : middle.tree = made := same
    rw [← Path.parent_child (outputDirectory options.target source)
      (source.stem ++ options.settings.outputSuffix), ← same] at stuck
    rw [wrote, on_writeFile_of_stuck stuck]
    exact same

/-- A unit changes nothing that another one sees: neither its source and the directories on the way
to it, nor its directory, nor its own places.
-/
theorem node?_apart {source other : Path} (member : source ∈ sources)
    (otherMember : other ∈ sources) (apart : source ≠ other) {place : Place}
    (isWritten : place ∈ written options tree source) (isSeen : place ∈ seen options tree other)
    : (unitTree options made source).node? place = made.node? place := by
  have disjoint := batch.disjoint member otherMember apart
  have replaces := replacesFiles_made batch hasNames prepared member
  have same_of_directory : made.node? place = some .directory →
      (unitTree options made source).node? place = made.node? place := fun directory =>
    (replaces.nodes place).resolve_right fun replaced => replaced.2 directory
  rcases mem_unitWays batch.isSpread (hasNames other otherMember) isSeen with
    toSource | toDirectory | isOwn
  · rcases Path.mem_way toSource with onWay | rfl
    · obtain ⟨-, located, -⟩ := (batch.regular other otherMember).exists_content
      exact same_of_directory (prepared.kept _ _ (directory_of_locate located place onWay))
    · exact absurd List.mem_cons_self (disjoint (List.mem_cons_of_mem _ isWritten))
  · rcases prepared.common with areThere | areStuck
    · rw [← prepared.keepsFiles.home] at toDirectory
      exact same_of_directory ((areThere other otherMember).way place toDirectory)
    · obtain ⟨failure, stuck⟩ := areStuck source member
      rw [unitTree_of_stuck batch hasNames member stuck]
  · exact absurd (List.mem_cons_of_mem _ isOwn) (disjoint (List.mem_cons_of_mem _ isWritten))

/-- The units of a batch are separate. -/
theorem areSeparate : AreSeparate options sources tree made :=
  ⟨batch.isSpread.ne_stdout, prepared.keepsFiles,
    fun _ member => generateOne_again batch.isSpread.ne_stdout
      (agreeAt_source batch prepared member) fun _ output =>
        making_of_output batch hasNames prepared member output,
    fun _ member => replacesFiles_made batch hasNames prepared member,
    fun _ member _ otherMember apart _ isWritten isSeen =>
      node?_apart batch hasNames prepared member otherMember apart isWritten isSeen⟩

end

-----------------------------------------------------------------------------------------
-- Stages
-----------------------------------------------------------------------------------------

/-- The tree that a batch starts from, or the one with its directories: units that are finished have
made them unless all of them were idle.
-/
inductive IsBase (options : Options) (tree made : Tree) (finished : List Path) : Tree → Prop where
  | untouched (areIdle : ∀ source ∈ finished, IsIdle options tree made source)
    : IsBase options tree made finished tree
  | made {source : Path} (member : source ∈ finished) (isActive : ¬ IsIdle options tree made source)
    : IsBase options tree made finished made

/-- The tree when some units are finished. At the places of each of them is what it would have left
there alone, and all else is the same.
-/
structure Stage (options : Options) (tree made : Tree) (finished : List Path) (base now : Tree)
    : Prop where
  isBase : IsBase options tree made finished base
  home : now.home = tree.home
  outputs
    : ∀ source ∈ finished, ∀ place ∈ written options tree source,
        now.node? place = (unitTree options base source).node? place
  others
    : ∀ place, (∀ source ∈ finished, place ∉ written options tree source)
        → now.node? place = base.node? place

section

variable {options : Options} {sources finished : List Path} {tree made base : Tree} {source : Path}
  {world : World} (separate : AreSeparate options sources tree made)

/-- Nothing is finished yet. -/
theorem stage_nil (options : Options) (tree made : Tree) : Stage options tree made [] tree tree :=
  ⟨.untouched (List.forall_mem_nil _), rfl, fun _ member => absurd member List.not_mem_nil,
    fun _ _ => rfl⟩

include separate

/-- A unit that is still to come sees what it would see alone. -/
theorem Stage.agreeAt (stage : Stage options tree made finished base world.tree)
    (areSources : finished ⊆ sources) (member : source ∈ sources) (isNew : source ∉ finished)
    : AgreeAt tree.home (seen options tree source) base world.tree := by
  have baseHome : base.home = tree.home := by
    cases stage.isBase with
    | untouched areIdle => rfl
    | made member isActive => exact separate.keepsFiles.home
  refine ⟨baseHome, stage.home, fun place isSeen => ?_⟩
  by_cases isOutput : ∃ other ∈ finished, place ∈ written options tree other
  · obtain ⟨other, isFinished, isWritten⟩ := isOutput
    rw [stage.outputs other isFinished place isWritten]
    cases stage.isBase with
    | untouched areIdle => rw [(areIdle other isFinished).1]
    | made _ _ =>
        have apart : other ≠ source := by
          rintro rfl
          exact isNew isFinished
        exact (separate.apart other (areSources isFinished) source member apart place isWritten
          isSeen).symm
  · have outside : ∀ other ∈ finished, place ∉ written options tree other :=
      fun other isFinished isWritten => isOutput ⟨other, isFinished, isWritten⟩
    exact (stage.others place outside).symm

/-- A unit ends as it would end alone. -/
theorem Stage.ending (stage : Stage options tree made finished base world.tree)
    (areSources : finished ⊆ sources) (member : source ∈ sources) (isNew : source ∉ finished)
    : ((generateOne disk options source).on world).1 = unitEnding options tree source
      ∧ AgreeAt tree.home (seen options tree source) (unitTree options base source)
          ((generateOne disk options source).on world).2.tree := by
  have agree := stage.agreeAt separate areSources member isNew
  obtain ⟨same, goesOn⟩ := respects_generateOne (List.Subset.refl _) { tree := base } world agree
  refine ⟨same.symm.trans ?_, goesOn⟩
  cases stage.isBase with
  | untouched areIdle => rfl
  | made _ _ => exact (separate.again source member).1.symm

/-- An idle unit leaves a stage as it is. -/
theorem Stage.next_of_idle (stage : Stage options tree made finished base world.tree)
    (areSources : finished ⊆ sources) (member : source ∈ sources) (isNew : source ∉ finished)
    (isIdle : IsIdle options tree made source)
    : Stage options tree made (finished ++ [source]) base
        ((generateOne disk options source).on world).2.tree := by
  have agree := stage.agreeAt separate areSources member isNew
  obtain ⟨-, goesOn⟩ := stage.ending separate areSources member isNew
  have baseSame : unitTree options base source = base := by
    cases stage.isBase with
    | untouched areIdle => exact isIdle.1
    | made _ _ => exact isIdle.2
  rw [baseSame] at goesOn
  have same (place : Place)
      : ((generateOne disk options source).on world).2.tree.node? place
        = world.tree.node? place := by
    by_cases isSeen : place ∈ seen options tree source
    · exact (goesOn.nodes place isSeen).symm.trans (agree.nodes place isSeen)
    · rw [seen, ← stage.home] at isSeen
      exact node?_generateOne separate.isFile isSeen
  refine ⟨?_, goesOn.rightHome, fun other isFinished place isWritten => ?_, fun place outside => ?_⟩
  · cases stage.isBase with
    | untouched areIdle =>
        have last := List.forall_mem_singleton.mpr isIdle
        exact .untouched (List.forall_mem_append.mpr ⟨areIdle, last⟩)
    | made member isActive => exact .made (List.mem_append_left _ member) isActive
  · rcases List.mem_append.mp isFinished with before | isLast
    · rw [same, stage.outputs other before place isWritten]
    · obtain rfl := List.mem_singleton.mp isLast
      rw [baseSame]
      exact (goesOn.nodes place (written_subset_seen options tree other isWritten)).symm
  · rw [same]
    exact stage.others place fun other before => outside other (List.mem_append_left _ before)

/-- A unit that is not idle takes a stage to the tree with the directories. -/
theorem Stage.next_of_active (stage : Stage options tree made finished base world.tree)
    (areSources : finished ⊆ sources) (member : source ∈ sources) (isNew : source ∉ finished)
    (isActive : ¬ IsIdle options tree made source)
    : Stage options tree made (finished ++ [source]) made
        ((generateOne disk options source).on world).2.tree := by
  obtain ⟨-, goesOn⟩ := stage.ending separate areSources member isNew
  have same : unitTree options tree source = unitTree options made source :=
    (separate.again source member).2.resolve_left isActive
  have baseSame : unitTree options base source = unitTree options made source := by
    cases stage.isBase with
    | untouched areIdle => exact same
    | made _ _ => rfl
  rw [baseSame] at goesOn
  -- Where the unit sees nothing, the directories make no difference.
  have beyond : ∀ place, place ∉ seen options tree source
      → base.node? place = made.node? place := by
    intro place notSeen
    cases stage.isBase with
    | made _ _ => rfl
    | untouched areIdle =>
        have fromTree : (unitTree options tree source).node? place = tree.node? place :=
          node?_generateOne separate.isFile notSeen
        have fromMade : (unitTree options made source).node? place = made.node? place := by
          rw [seen, ← separate.keepsFiles.home] at notSeen
          exact node?_generateOne separate.isFile notSeen
        rw [← fromTree, ← fromMade, same]
  have outside : ∀ place, place ∉ seen options tree source
      → ((generateOne disk options source).on world).2.tree.node? place
        = world.tree.node? place := by
    intro place notSeen
    rw [seen, ← stage.home] at notSeen
    exact node?_generateOne separate.isFile notSeen
  have unwritten : ∀ place, place ∉ written options tree source
      → (unitTree options made source).node? place = made.node? place := fun place notWritten =>
    ((separate.replaces source member).nodes place).resolve_right fun replaced =>
      notWritten replaced.1
  refine ⟨.made (List.mem_append_right _ (List.mem_singleton_self source)) isActive,
    goesOn.rightHome, fun other isFinished place isWritten => ?_, fun place notWritten => ?_⟩
  · rcases List.mem_append.mp isFinished with before | isLast
    · have apart : other ≠ source := by
        rintro rfl
        exact isNew before
      have isSource := areSources before
      by_cases isSeen : place ∈ seen options tree source
      · have kept : (unitTree options made source).node? place = made.node? place := by
          by_cases isOwn : place ∈ written options tree source
          · exact separate.apart source member other isSource apart.symm place isOwn
              (written_subset_seen options tree other isWritten)
          · exact unwritten place isOwn
        rw [← goesOn.nodes place isSeen, kept]
        exact (separate.apart other isSource source member apart place isWritten isSeen).symm
      · rw [outside place isSeen, stage.outputs other before place isWritten]
        have atBase := beyond place isSeen
        cases stage.isBase with
        | made _ _ => rfl
        | untouched areIdle =>
            rw [(areIdle other before).1, (areIdle other before).2]
            exact atBase
    · obtain rfl := List.mem_singleton.mp isLast
      exact (goesOn.nodes place (written_subset_seen options tree other isWritten)).symm
  · have notOwn := notWritten source (List.mem_append_right _ (List.mem_singleton_self source))
    by_cases isSeen : place ∈ seen options tree source
    · rw [← goesOn.nodes place isSeen]
      exact unwritten place notOwn
    · rw [outside place isSeen, ← beyond place isSeen]
      exact stage.others place fun other before => notWritten other (List.mem_append_left _ before)

/-- One more unit leads to the next stage. -/
theorem Stage.next (stage : Stage options tree made finished base world.tree)
    (areSources : finished ⊆ sources) (member : source ∈ sources) (isNew : source ∉ finished)
    : ∃ next,
        Stage options tree made (finished ++ [source]) next
          ((generateOne disk options source).on world).2.tree := by
  by_cases isIdle : IsIdle options tree made source
  · exact ⟨base, stage.next_of_idle separate areSources member isNew isIdle⟩
  · exact ⟨made, stage.next_of_active separate areSources member isNew isIdle⟩

-----------------------------------------------------------------------------------------
-- Runs
-----------------------------------------------------------------------------------------

variable {rest : List Path}

omit separate in
/-- The first unit to come is a new one. -/
theorem not_mem_of_nodup (nodup : (finished ++ source :: rest).Nodup) : source ∉ finished :=
  fun before => List.disjoint_of_nodup_append nodup before List.mem_cons_self

/-- A unit ends in its turn as it would end alone, by induction on the units before it. -/
theorem Stage.ending_of_turn (stage : Stage options tree made finished base world.tree)
    (areSources : finished ++ rest ⊆ sources) (nodup : (finished ++ rest).Nodup) {later : List Path}
    {before : World} (turn : Turn options rest world source later before)
    : ((generateOne disk options source).on before).1 = unitEnding options tree source := by
  induction turn generalizing finished base with
  | now source rest start =>
      have finishedSources := List.Subset.trans (List.subset_append_left finished _) areSources
      have member : source ∈ sources := areSources (List.mem_append_right _ List.mem_cons_self)
      exact (stage.ending separate finishedSources member (not_mem_of_nodup nodup)).1
  | @next first _ _ _ _ _ _ _ done turn ih =>
      have finishedSources := List.Subset.trans (List.subset_append_left finished _) areSources
      have member : first ∈ sources := areSources (List.mem_append_right _ List.mem_cons_self)
      obtain ⟨next, reached⟩ := stage.next separate finishedSources member (not_mem_of_nodup nodup)
      rw [done] at reached
      rw [List.append_cons] at areSources nodup
      exact ih reached areSources nodup

omit separate in
/-- In a run that does not break off each source has its turn, in which its unit does not break off
either. By induction on the sources.
-/
theorem exists_turn {all : Bool} (done : ((generateAll disk options rest).on world).1 = .ok all)
    (member : source ∈ rest)
    : ∃ succeeds later before,
        Turn options rest world source later before
        ∧ ((generateOne disk options source).on before).1 = .ok succeeds := by
  induction rest generalizing world all with
  | nil => cases member
  | cons first rest ih =>
      obtain ⟨succeeds, middle, unit, goesOn⟩ := Act.exists_of_on_bind (Prod.ext done rfl)
      by_cases isFirst : source = first
      · subst isFirst
        exact ⟨succeeds, rest, world, .now source rest world, by rw [unit]⟩
      · obtain ⟨others, last, restDone, -⟩ := Act.exists_of_on_bind goesOn
        obtain ⟨succeeds, later, before, turn, ends⟩ :=
          ih (congrArg Prod.fst restDone) ((List.mem_cons.mp member).resolve_left isFirst)
        exact ⟨succeeds, later, before, .next unit turn, ends⟩

/-- A run over units that end well alone comes to the stage where all are finished, and it succeeds
if all of them do. By induction on the units that are to come.
-/
theorem Stage.run (stage : Stage options tree made finished base world.tree)
    (areSources : finished ++ rest ⊆ sources) (nodup : (finished ++ rest).Nodup)
    {succeeds : Path → Bool}
    (ends : ∀ source ∈ rest, unitEnding options tree source = .ok (succeeds source))
    : ((generateAll disk options rest).on world).1 = .ok (rest.all succeeds)
      ∧ ∃ last, Stage options tree made (finished ++ rest) last
          ((generateAll disk options rest).on world).2.tree := by
  induction rest generalizing finished base world with
  | nil =>
      rw [List.append_nil]
      exact ⟨rfl, base, stage⟩
  | cons first rest ih =>
      have finishedSources := List.Subset.trans (List.subset_append_left finished _) areSources
      have member : first ∈ sources := areSources (List.mem_append_right _ List.mem_cons_self)
      have isNew := not_mem_of_nodup nodup
      obtain ⟨firstEnds, laterEnd⟩ := List.forall_mem_cons.mp ends
      obtain ⟨ending, -⟩ := stage.ending separate finishedSources member isNew
      obtain ⟨next, reached⟩ := stage.next separate finishedSources member isNew
      rw [List.append_cons] at areSources nodup ⊢
      obtain ⟨others, last⟩ := ih reached areSources nodup laterEnd
      rw [on_generateAll_cons (Prod.ext (ending.trans firstEnds) rfl), Act.on_map, others]
      exact ⟨rfl, last⟩

omit separate in
/-- At the end it does not matter which units were finished first. -/
theorem Stage.node?_eq {others : List Path} {otherBase now otherNow : Tree}
    (stage : Stage options tree made finished base now)
    (other : Stage options tree made others otherBase otherNow)
    (same : ∀ source, source ∈ finished ↔ source ∈ others) (place : Place)
    : now.node? place = otherNow.node? place := by
  have baseSame : base = otherBase := by
    cases stage.isBase with
    | untouched areIdle =>
        cases other.isBase with
        | untouched _ => rfl
        | made member isActive => exact absurd (areIdle _ ((same _).mpr member)) isActive
    | made member isActive =>
        cases other.isBase with
        | untouched areIdle => exact absurd (areIdle _ ((same _).mp member)) isActive
        | made _ _ => rfl
  subst baseSame
  by_cases isOutput : ∃ source ∈ finished, place ∈ written options tree source
  · obtain ⟨source, isFinished, isWritten⟩ := isOutput
    rw [stage.outputs source isFinished place isWritten,
      other.outputs source ((same source).mp isFinished) place isWritten]
  · rw [stage.others place fun source isFinished isWritten =>
        isOutput ⟨source, isFinished, isWritten⟩,
      other.others place fun source isFinished isWritten =>
        isOutput ⟨source, (same source).mpr isFinished, isWritten⟩]

/-- The files of a unit are those that it writes alone. -/
theorem Stage.file_iff {now : Tree} (stage : Stage options tree made finished base now)
    (areSources : finished ⊆ sources) (isFinished : source ∈ finished) {place : Place}
    (isWritten : place ∈ written options tree source) (content : Text.Bytes)
    : now.node? place = some (.file content)
      ↔ (unitTree options tree source).node? place = some (.file content) := by
  rw [stage.outputs source isFinished place isWritten]
  cases stage.isBase with
  | untouched areIdle => exact Iff.rfl
  | made _ _ =>
      rcases (separate.again source (areSources isFinished)).2 with ⟨atTree, atMade⟩ | same
      · rw [atTree, atMade]
        exact separate.keepsFiles.files place (List.forall_mem_nil _) content
      · rw [same]

end

end LiteralEnum.Command.Generate
