import LiteralEnum.Proofs.Command.LocalUnits
import LiteralEnum.Proofs.Files.MakingAgain

/-! What a unit of a batch does to the others. The directories of its module may be there already,
for the unit would make them and comes to the same end, and it replaces files at its own places and
no others.
-/

namespace LiteralEnum.Command.Generate

open Files Files.Tree

-----------------------------------------------------------------------------------------
-- Output paths
-----------------------------------------------------------------------------------------

/-- Each module goes to a path of its own. -/
inductive IsSpread : Target → Prop where
  | beside : IsSpread .beside
  | directory (path : String) : IsSpread (.directory path)

theorem IsSpread.ne_stdout {target : Target} (isSpread : IsSpread target) : target ≠ .stdout := by
  cases isSpread <;> rintro ⟨⟩

/-- The directory that the module of a source goes to. -/
def outputDirectory (target : Target) (source : Path) : Path :=
  match target with
  | .directory path => Path.ofText path
  | _ => source.parent

/-- The places of the paths that the module of a source is written to. -/
def unitPlaces (home : Place) (target : Target) (suffix : String) (source : Path) : List Place :=
  (unitPaths target suffix source).map (Path.place home)

/-- The last name of a source is a single one, and so is the one that its module gets. -/
structure HasModuleName (suffix : String) (source : Path) : Prop where
  ofSource : Path.names source.name.toList = [source.name]
  ofModule : Path.names (source.stem ++ suffix).toList = [source.stem ++ suffix]

theorem hasModuleName {source : Path} (plain : source.IsPlain) (isNamed : source.parts ≠ [])
    {suffix : String} (isSuffix : suffix ≠ "") (suffixFree : '/' ∉ suffix.toList)
    : HasModuleName suffix source :=
  ⟨plain.names_name isNamed, Path.names_stem_append (plain.names_name isNamed) isSuffix suffixFree⟩

theorem HasModuleName.ofSecond {suffix : String} {source : Path}
    (hasName : HasModuleName suffix source)
    : Path.names (source.stem ++ suffix ++ ".tmp").toList = [source.stem ++ suffix ++ ".tmp"] :=
  Path.names_append hasName.ofModule (by decide) (by decide)

section

variable {target : Target} {suffix : String} {source : Path} (isSpread : IsSpread target)
  (hasName : HasModuleName suffix source)

include isSpread hasName

theorem outputPath?_eq
    : outputPath? target suffix source
      = some ((outputDirectory target source).child (source.stem ++ suffix)) := by
  cases isSpread with
  | beside =>
      exact Path.withName?_of_names (Path.ne_empty_of_names hasName.ofSource) hasName.ofModule
  | directory path =>
      have free := Path.slash_not_mem_names (hasName.ofModule ▸ List.mem_singleton_self _)
      have relative : Path.ofText (source.stem ++ suffix) = ⟨"", [source.stem ++ suffix]⟩ := by
        rw [Path.ofText, Path.rootOf_of_not_mem free, hasName.ofModule]
      rw [outputPath?, relative]
      rfl

/-- The module and its second file are right inside the directory. -/
theorem unitPaths_eq
    : unitPaths target suffix source
      = [(outputDirectory target source).child (source.stem ++ suffix),
          (outputDirectory target source).child (source.stem ++ suffix ++ ".tmp")] := by
  have isNamed : ((outputDirectory target source).child (source.stem ++ suffix)).name ≠ "" := by
    rw [Path.name_child]
    exact Path.ne_empty_of_names hasName.ofModule
  rw [unitPaths, outputPath?_eq isSpread hasName, Option.toList_some, List.flatMap_singleton,
    writingPaths, secondPath?, Path.name_child, Path.withName?_of_names isNamed hasName.ofSecond,
    Path.parent_child]
  rfl

/-- A unit sees its source, its directory and its own places. -/
theorem mem_unitWays {home place : Place} (member : place ∈ unitWays home target suffix source)
    : place ∈ source.way home
      ∨ place ∈ (outputDirectory target source).way home
      ∨ place ∈ unitPlaces home target suffix source := by
  have paths := unitPaths_eq isSpread hasName
  obtain ⟨path, isPath, onWay⟩ := List.mem_flatMap.mp member
  rcases List.mem_cons.mp isPath with rfl | isOutput
  · exact .inl onWay
  · have isPlace : path.place home ∈ unitPlaces home target suffix source :=
      List.mem_map.mpr ⟨path, isOutput, rfl⟩
    have longer : path.way home
        = (outputDirectory target source).way home ++ [path.place home] := by
      rw [paths] at isOutput
      rcases List.mem_pair.mp isOutput with rfl | rfl
      · exact Path.way_child home _ hasName.ofModule
      · exact Path.way_child home _ hasName.ofSecond
    rw [longer] at onWay
    rcases List.mem_append.mp onWay with inDirectory | last
    · exact .inr (.inl inDirectory)
    · rw [List.mem_singleton.mp last]
      exact .inr (.inr isPlace)

end

-----------------------------------------------------------------------------------------
-- The writing of a file
-----------------------------------------------------------------------------------------

/-- What is done when the directories are there. -/
def fill (path : Path) (text : String) : Act (StateM Tree) (Except Failure Unit) := do
  let second ← rename path (path.name ++ ".tmp")
  Act.onFiles (disk.writeThrough path second (Text.Utf8.encode text.toList))

section

variable {path : Path} {text : String} {world : World} {tree : Tree}

theorem on_writeFile_of_made
    (made
      : (disk.makeDirectories path.parent.parts.length path.parent).run world.tree = (.ok (), tree))
    : (writeFile disk path text).on world = (fill path text).on (world.withTree tree) := by
  rw [writeFile, Act.on_bind, Act.on_onFiles, made]
  rfl

theorem on_writeFile_of_stuck {failure : Failure}
    (stuck
      : (disk.makeDirectories path.parent.parts.length path.parent).run world.tree
        = (.error failure, tree))
    : (writeFile disk path text).on world = (.ok (.error failure), world.withTree tree) := by
  rw [writeFile, Act.on_bind, Act.on_onFiles, stuck]
  rfl

end

/-- In one tree a file is filled in one way. -/
theorem fill_congr (path : Path) (text : String) {left right : World}
    (same : left.tree = right.tree)
    : ((fill path text).on left).1 = ((fill path text).on right).1
      ∧ ((fill path text).on left).2.tree = ((fill path text).on right).2.tree := by
  have respects : Act.Respects Eq (fill path text) := by
    refine .bind ?_ fun second => .onFiles ?_
    · rw [rename]
      split
      next => exact .pure _
      next => exact .throw _
    · rintro tree _ rfl
      exact ⟨rfl, rfl⟩
  exact respects left right same

/-- The nodes are the same but at some places, where no directories are replaced. -/
structure ReplacesFiles (places : List Place) (before after : Tree) : Prop where
  home : after.home = before.home
  nodes
    : ∀ place, after.node? place = before.node? place
        ∨ place ∈ places ∧ before.node? place ≠ some .directory

theorem ReplacesFiles.refl (places : List Place) (tree : Tree) : ReplacesFiles places tree tree :=
  ⟨rfl, fun _ => .inl rfl⟩

theorem replacesFiles_fill (path : Path) (text : String) (world : World)
    : ReplacesFiles ((writingPaths path).map (Path.place world.tree.home)) world.tree
        ((fill path text).on world).2.tree := by
  rw [fill, rename]
  split
  next second named =>
    have paths : writingPaths path = [path, second] := by
      rw [writingPaths, secondPath?, named]
      rfl
    rw [pure_bind, Act.on_onFiles, paths]
    have apart := (place_ne_second named world.tree.home).symm
    cases written : (disk.writeThrough path second (Text.Utf8.encode text.toList)).run
        world.tree with
    | mk answer last =>
        rcases writeThrough_cases apart written with ⟨-, replaces⟩ | ⟨-, loses⟩
        · refine ⟨replaces.home, fun place => ?_⟩
          by_cases isPath : place = path.place world.tree.home
          · exact .inr ⟨by simp [isPath], isPath ▸ replaces.free⟩
          · by_cases isSecond : place = second.place world.tree.home
            · exact .inr ⟨by simp [isSecond], isSecond ▸ replaces.secondFree⟩
            · exact .inl (replaces.others place isPath isSecond)
        · refine ⟨loses.home, fun place => ?_⟩
          by_cases isSecond : place = second.place world.tree.home
          · subst isSecond
            exact loses.here.imp_right fun gone => ⟨by simp, gone.1⟩
          · exact .inl (loses.others place isSecond)
  next => exact .refl _ _

-----------------------------------------------------------------------------------------
-- Units
-----------------------------------------------------------------------------------------

/-- How a unit ends when the writing of its file has an answer. -/
def verdict : Except Failure Unit → Except Escape Bool
  | .ok () => .ok true
  | .error (.fault _) => .ok false
  | .error .nullCharacter => .error (.files .nullCharacter)

section

variable {options : Options} {source path : Path} {text : String} {world middle : World}

/-- A module that is written is a file that is written, and a report. -/
theorem on_writeModule (isFile : options.target ≠ .stdout)
    (output : outputPath? options.target options.settings.outputSuffix source = some path)
    : ((writeModule disk options source text).on world).1
        = ((writeFile disk path text).on world).1 >>= verdict
      ∧ ((writeModule disk options source text).on world).2.tree
        = ((writeFile disk path text).on world).2.tree := by
  rw [writeModule, outputPath_eq isFile, output]
  dsimp only
  rw [pure_bind, Act.on_bind]
  cases (writeFile disk path text).on world with
  | mk ending after =>
      cases ending with
      | error escape => exact ⟨rfl, rfl⟩
      | ok answer =>
          cases answer with
          | ok value => exact ⟨rfl, rfl⟩
          | error failure => cases failure <;> exact ⟨rfl, rfl⟩

theorem on_writeModule_nameless (isFile : options.target ≠ .stdout)
    (nameless : outputPath? options.target options.settings.outputSuffix source = none)
    : (writeModule disk options source text).on world
      = (.error (.fileName source (source.stem ++ options.settings.outputSuffix)), world) := by
  rw [writeModule, outputPath_eq isFile, nameless]
  rfl

/-- A source that is refused, or breaks the unit off, leaves the tree as it is. -/
theorem on_generateOne_of_none
    (produced : (produce options source).on world = (.ok none, middle))
    : (generateOne disk options source).on world = (.ok false, middle) := by
  rw [generateOne_eq, Act.on_bind, produced]
  rfl

theorem on_generateOne_of_escape {escape : Escape}
    (produced : (produce options source).on world = (.error escape, middle))
    : (generateOne disk options source).on world = (.error escape, middle) := by
  rw [generateOne_eq, Act.on_bind, produced]

theorem on_generateOne_of_some (isFile : options.target ≠ .stdout)
    (produced : (produce options source).on world = (.ok (some text), middle))
    : (generateOne disk options source).on world
      = (writeModule disk options source text).on middle := by
  rw [generateOne_eq, Act.on_bind, produced]
  dsimp only
  rw [deliver, if_neg isFile]

/-- The tree after a unit is the tree before, or the one that the writing of its file leaves. -/
theorem tree_of_generateOne (isFile : options.target ≠ .stdout) (world : World)
    : ((generateOne disk options source).on world).2.tree = world.tree
      ∨ ∃ path text middle,
        outputPath? options.target options.settings.outputSuffix source = some path
        ∧ middle.tree = world.tree
        ∧ ((generateOne disk options source).on world).2.tree
          = ((writeFile disk path text).on middle).2.tree := by
  have unchanged : Act.Proceeds Eq (produce options source) := proceeds_produce options source
  have same := (unchanged world).tree
  cases produced : (produce options source).on world with
  | mk ending middle =>
      rw [produced] at same
      cases ending with
      | error escape =>
          rw [on_generateOne_of_escape produced]
          exact .inl same.symm
      | ok text? =>
          cases text? with
          | none =>
              rw [on_generateOne_of_none produced]
              exact .inl same.symm
          | some text =>
              rw [on_generateOne_of_some isFile produced]
              cases output : outputPath? options.target options.settings.outputSuffix source with
              | none =>
                  rw [on_writeModule_nameless isFile output]
                  exact .inl same.symm
              | some path =>
                  exact .inr ⟨path, text, middle, rfl, same.symm, (on_writeModule isFile output).2⟩

/-- A unit changes nothing where it does not look. -/
theorem node?_generateOne (isFile : options.target ≠ .stdout) {place : Place}
    (outside
      : place ∉ unitWays world.tree.home options.target options.settings.outputSuffix source)
    : ((generateOne disk options source).on world).2.tree.node? place = world.tree.node? place := by
  rcases tree_of_generateOne isFile world with same | ⟨path, text, middle, output, same, wrote⟩
  · rw [same]
  · have apart : ∀ other ∈ writingPaths path, place ∉ other.way world.tree.home := by
      intro other member onWay
      refine outside (List.mem_flatMap.mpr ⟨other, List.mem_cons_of_mem _ ?_, onWay⟩)
      rwa [unitPaths, output, Option.toList_some, List.flatMap_singleton]
    have notPath := apart path List.mem_cons_self
    have kept : IsKept path middle.tree ((writeFile disk path text).on middle).2.tree place := by
      rw [← same] at apart notPath
      have beside : ∀ second ∈ secondPath? path, place ≠ second.place middle.tree.home := by
        rintro second named rfl
        refine apart second (List.mem_cons_of_mem _ ?_) (second.place_mem_way _)
        exact Option.mem_toList.mpr named
      rcases tree_of_writeFile (Prod.eta ((writeFile disk path text).on middle)).symm with
        ⟨-, written⟩ | ⟨-, spared⟩
      · refine written.others place ?_ beside
        rintro rfl
        exact notPath (path.place_mem_way _)
      · exact spared.others place beside
    rw [wrote, ← same]
    rcases kept with unchanged | ⟨onWay, -⟩
    · exact unchanged
    · rw [same] at onWay
      exact absurd (path.way_parent_subset _ onWay) notPath

/-- The directories of a path are there, or they cannot be made. -/
inductive IsSettled (path : Path) (tree : Tree) : Prop where
  | there (isDirectory : IsDirectoryAt tree path)
  | stuck {failure : Failure}
    (failed : (disk.makeDirectories path.parts.length path).run tree = (.error failure, tree))

theorem isSettled_of_making {before after : Tree}
    (making : Making path.parts.length path before after)
    : IsSettled path after := by
  cases making with
  | made done isDirectory => exact .there isDirectory
  | stuck failed again => exact .stuck again

/-- A file that is written where the directories are there replaces files only. -/
theorem replacesFiles_writeFile (text : String) (settled : IsSettled path.parent world.tree)
    : ReplacesFiles ((writingPaths path).map (Path.place world.tree.home)) world.tree
        ((writeFile disk path text).on world).2.tree := by
  cases settled with
  | there isDirectory =>
      rw [on_writeFile_of_made (isDirectory.run_makeDirectories _)]
      exact replacesFiles_fill path text world
  | stuck failed =>
      rw [on_writeFile_of_stuck failed]
      exact .refl _ _

theorem replacesFiles_generateOne (isFile : options.target ≠ .stdout)
    (settled
      : ∀ path ∈ outputPath? options.target options.settings.outputSuffix source,
          IsSettled path.parent world.tree)
    : ReplacesFiles
        (unitPlaces world.tree.home options.target options.settings.outputSuffix source)
        world.tree ((generateOne disk options source).on world).2.tree := by
  rcases tree_of_generateOne isFile world with same | ⟨path, text, middle, output, same, wrote⟩
  · rw [same]
    exact .refl _ _
  · have settled := settled path output
    rw [← same] at settled
    have replaces := replacesFiles_writeFile text settled
    rw [same] at replaces
    rw [wrote, unitPlaces, unitPaths, output, Option.toList_some, List.flatMap_singleton]
    exact replaces

/-- The writing of a file comes to one end whether the directories have been made before or not. -/
theorem writeFile_again (text : String) {left right : World}
    (making : Making path.parent.parts.length path.parent left.tree right.tree)
    : ((writeFile disk path text).on left).1 >>= verdict
        = ((writeFile disk path text).on right).1 >>= verdict
      ∧ ((writeFile disk path text).on left).2.tree
        = ((writeFile disk path text).on right).2.tree := by
  cases making with
  | made done isDirectory =>
      rw [on_writeFile_of_made done, on_writeFile_of_made (isDirectory.run_makeDirectories _)]
      have sameTree : (left.withTree right.tree).tree = (right.withTree right.tree).tree := rfl
      obtain ⟨same, trees⟩ := fill_congr path text sameTree
      exact ⟨congrArg (· >>= verdict) same, trees⟩
  | @stuck failure other failed again =>
      rw [on_writeFile_of_stuck failed, on_writeFile_of_stuck again]
      refine ⟨?_, rfl⟩
      -- The answers may tell of different paths, but both tell of a null character or neither does.
      by_cases null : hasNull path.parent = true
      · obtain ⟨first, -⟩ := Prod.mk.inj (failed.symm.trans (run_makeDirectories_null null _ _))
        obtain ⟨second, -⟩ := Prod.mk.inj (again.symm.trans (run_makeDirectories_null null _ _))
        cases first
        cases second
        rfl
      · have answered := isAnswered_makeDirectories path.parent.parts.length
          (Bool.eq_false_iff.mpr null)
        have first := answered left.tree
        have second := answered right.tree
        rw [failed] at first
        rw [again] at second
        cases failure with
        | nullCharacter => exact absurd rfl first
        | fault fault =>
            cases other with
            | nullCharacter => exact absurd rfl second
            | fault other => rfl

/-- Directories that are made before a unit make no difference to it: it changes neither tree, or it
leaves the same tree.
-/
theorem generateOne_again (isFile : options.target ≠ .stdout) {left right : World}
    (agree : AgreeAt left.tree.home (source.way left.tree.home) left.tree right.tree)
    (making
      : ∀ path ∈ outputPath? options.target options.settings.outputSuffix source,
          Making path.parent.parts.length path.parent left.tree right.tree)
    : ((generateOne disk options source).on left).1 = ((generateOne disk options source).on right).1
      ∧ (((generateOne disk options source).on left).2.tree = left.tree
          ∧ ((generateOne disk options source).on right).2.tree = right.tree
        ∨ ((generateOne disk options source).on left).2.tree
          = ((generateOne disk options source).on right).2.tree) := by
  have unchanged : Act.Proceeds Eq (produce options source) := proceeds_produce options source
  have leftSame := (unchanged left).tree
  have rightSame := (unchanged right).tree
  obtain ⟨same, -⟩ := respects_produce (List.Subset.refl _) options left right agree
  cases atLeft : (produce options source).on left with
  | mk ending leftAfter =>
      cases atRight : (produce options source).on right with
      | mk other rightAfter =>
          rw [atLeft] at same leftSame
          rw [atRight] at same rightSame
          obtain rfl : ending = other := same
          cases ending with
          | error escape =>
              rw [on_generateOne_of_escape atLeft, on_generateOne_of_escape atRight]
              exact ⟨rfl, .inl ⟨leftSame.symm, rightSame.symm⟩⟩
          | ok text? =>
              cases text? with
              | none =>
                  rw [on_generateOne_of_none atLeft, on_generateOne_of_none atRight]
                  exact ⟨rfl, .inl ⟨leftSame.symm, rightSame.symm⟩⟩
              | some text =>
                  rw [on_generateOne_of_some isFile atLeft, on_generateOne_of_some isFile atRight]
                  cases output :
                      outputPath? options.target options.settings.outputSuffix source with
                  | none =>
                      rw [on_writeModule_nameless isFile output,
                        on_writeModule_nameless isFile output]
                      exact ⟨rfl, .inl ⟨leftSame.symm, rightSame.symm⟩⟩
                  | some path =>
                      have making := making path output
                      rw [leftSame, rightSame] at making
                      obtain ⟨endings, trees⟩ := writeFile_again text making
                      rw [(on_writeModule isFile output).1, (on_writeModule isFile output).1,
                        (on_writeModule isFile output).2, (on_writeModule isFile output).2]
                      exact ⟨endings, .inr trees⟩

end

end LiteralEnum.Command.Generate
