import LiteralEnum.Proofs.Command.Attempts
import LiteralEnum.Proofs.Files.EndingSearch

/-! The inputs of a run that generates modules. A directory stands for the files right inside it
that end with the suffix of sources, provided that the suffix stands for itself in a pattern.
-/

namespace LiteralEnum.Command.Generate

open Files Files.Tree

-----------------------------------------------------------------------------------------
-- What inputs stand for
-----------------------------------------------------------------------------------------

/-- The inputs stand for these paths: a directory for the files right inside it that end with the
suffix, of which there are some, and any other input for its own path.
-/
inductive StandsFor (tree : Tree) (suffix : String) : List String → List Path → Prop where
  | nil : StandsFor tree suffix [] []
  | directory {name : String} {names inputs : List String} {found : List Path}
    (isDirectory : IsDirectoryAt tree (Path.ofText name))
    (lists : ListsEnding tree (Path.ofText name) suffix names) (nonempty : names ≠ [])
    (rest : StandsFor tree suffix inputs found)
    : StandsFor tree suffix (name :: inputs) (names.map (Path.ofText name).child ++ found)
  | other {name : String} {inputs : List String} {found : List Path}
    (noDirectory : ¬ IsDirectoryAt tree (Path.ofText name))
    (rest : StandsFor tree suffix inputs found)
    : StandsFor tree suffix (name :: inputs) (Path.ofText name :: found)

/-- A directory without a file that ends with the suffix. -/
def HasNoSource (tree : Tree) (suffix : String) (path : Path) : Prop :=
  IsDirectoryAt tree path
    ∧ ∀ name, IsFileIn tree path name → ¬ suffix.toList <:+ name.toList

/-- A path that is looked at for inputs: that of an input, and that of something right inside a
directory that ends with the suffix.
-/
inductive IsLookedAt (tree : Tree) (suffix : String) (inputs : List String) : Path → Prop where
  | input {name : String} (member : name ∈ inputs)
    : IsLookedAt tree suffix inputs (Path.ofText name)
  | inside {name file : String} (member : name ∈ inputs)
    (isDirectory : IsDirectoryAt tree (Path.ofText name))
    (listed : file ∈ namesEnding tree (Path.ofText name) suffix)
    : IsLookedAt tree suffix inputs ((Path.ofText name).child file)

/-- How the expansion of inputs ends, and what it reports. Only a path that is too long breaks it
off.
-/
inductive Expansion (tree : Tree) (suffix : String) (inputs : List String)
    : Except Escape (Option (List Path)) → List Notice → Prop where
  | found {found : List Path} (standsFor : StandsFor tree suffix inputs found)
    : Expansion tree suffix inputs (.ok (some found)) []
  | missing {front back : List String} {name : String} {found : List Path}
    (split : inputs = front ++ name :: back) (standsFor : StandsFor tree suffix front found)
    (hasNone : HasNoSource tree suffix (Path.ofText name))
    : Expansion tree suffix inputs (.ok none)
        [complaint s!"Error: No {suffix} files in {(Path.ofText name).text}"]
  | tooLong {path : Path} (failure : Failure) (isLookedAt : IsLookedAt tree suffix inputs path)
    (tooLong : ¬ IsShort path)
    : Expansion tree suffix inputs (.error (.files failure)) []

theorem IsLookedAt.cons {tree : Tree} {suffix : String} {inputs : List String} {path : Path}
    (isLookedAt : IsLookedAt tree suffix inputs path) (name : String)
    : IsLookedAt tree suffix (name :: inputs) path := by
  cases isLookedAt with
  | input member => exact .input (List.mem_cons_of_mem name member)
  | inside member isDirectory listed =>
      exact .inside (List.mem_cons_of_mem name member) isDirectory listed

/-- What the first input stands for comes before what the others end in. -/
theorem Expansion.cons {tree : Tree} {suffix name : String} {inputs : List String}
    {result : Except Escape (Option (List Path))} {notices : List Notice} {first : List Path}
    (expansion : Expansion tree suffix inputs result notices)
    (joins
      : ∀ {others found}, StandsFor tree suffix others found
          → StandsFor tree suffix (name :: others) (first ++ found))
    : Expansion tree suffix (name :: inputs) (result.map (·.map (first ++ ·))) notices := by
  cases expansion with
  | found standsFor => exact .found (joins standsFor)
  | missing split standsFor hasNone =>
      exact .missing (congrArg (name :: ·) split) (joins standsFor) hasNone
  | tooLong failure isLookedAt tooLong => exact .tooLong failure (isLookedAt.cons name) tooLong

/-- Inputs without an end in a directory without sources all have one. -/
theorem StandsFor.not_hasNoSource {tree : Tree} {suffix : String} {inputs : List String}
    {found : List Path} (standsFor : StandsFor tree suffix inputs found)
    : ∀ name ∈ inputs, ¬ HasNoSource tree suffix (Path.ofText name) := by
  induction standsFor with
  | nil => exact List.forall_mem_nil _
  | @directory name names inputs found isDirectory lists nonempty rest ih =>
      refine List.forall_mem_cons.mpr ⟨?_, ih⟩
      rintro ⟨-, none⟩
      obtain ⟨file, others, rfl⟩ := List.exists_cons_of_ne_nil nonempty
      obtain ⟨isFile, ends⟩ := (lists.members file).mp List.mem_cons_self
      exact none file isFile ends
  | other noDirectory rest ih =>
      exact List.forall_mem_cons.mpr ⟨fun hasNone => noDirectory hasNone.1, ih⟩

-----------------------------------------------------------------------------------------
-- Expansion
-----------------------------------------------------------------------------------------

/-- Sources come before those of the inputs behind. -/
theorem on_expandInputs_rest {suffix : String} {world : World} {rest : List String}
    {result : Except Escape (Option (List Path))} {notices : List Notice}
    (expanded : (expandInputs disk suffix rest).on world = (result, world.notified notices))
    (first : List Path)
    : (do return (← expandInputs disk suffix rest).map (first ++ ·)
        : Act (StateM Tree) (Option (List Path))).on world
      = (result.map (·.map (first ++ ·)), world.notified notices) := by
  rw [Act.on_map, expanded]

section

variable {suffix : String} (isEnding : IsEnding suffix) {world : World}
  (sound : world.tree.IsSound)

include isEnding sound

/-- Where an input is a directory, its sources are those that it has. -/
theorem on_sourcesIn {path : Path} (isDirectory : IsDirectoryAt world.tree path)
    (areShort : ∀ file ∈ namesEnding world.tree path suffix, IsShort (path.child file))
    : (sourcesIn disk suffix path).on world
      = (.ok ((filesEnding world.tree path suffix).map path.child), world) := by
  obtain ⟨_, searched, rfl⟩ := finds_search_ending sound isEnding isDirectory areShort
  rw [sourcesIn, if_pos isEnding.isSearchable, Act.on_mustFiles, searched]
  rfl

theorem exists_failure_sourcesIn {path : Path} (isDirectory : IsDirectoryAt world.tree path)
    (tooLong : ∃ file ∈ namesEnding world.tree path suffix, ¬ IsShort (path.child file))
    : ∃ failure, (sourcesIn disk suffix path).on world = (.error (.files failure), world) := by
  obtain ⟨failure, searched⟩ := fails_search_ending sound isEnding isDirectory tooLong
  refine ⟨failure, ?_⟩
  rw [sourcesIn, if_pos isEnding.isSearchable, Act.on_mustFiles, searched]
  rfl

/-- A directory before other inputs gives its sources, or a report that it has none. -/
theorem exists_expansion_directory {name : String} {rest : List String}
    {result : Except Escape (Option (List Path))} {notices : List Notice}
    (isDirectory : IsDirectoryAt world.tree (Path.ofText name))
    (expanded : (expandInputs disk suffix rest).on world = (result, world.notified notices))
    (expansion : Expansion world.tree suffix rest result notices)
    : ∃ result notices,
        (expandInputs disk suffix (name :: rest)).on world = (result, world.notified notices)
        ∧ Expansion world.tree suffix (name :: rest) result notices := by
  have nameLooked : (Act.mustFiles (disk.kind? (Path.ofText name))).on world
      = (.ok (some .directory), world) := by
    rw [Act.on_mustFiles, isDirectory]
    rfl
  rw [expandInputs, Act.on_bind, nameLooked]
  dsimp only
  rw [if_pos rfl, Act.on_bind]
  by_cases areShort : ∀ file ∈ namesEnding world.tree (Path.ofText name) suffix,
      IsShort ((Path.ofText name).child file)
  · have lists : ListsEnding world.tree (Path.ofText name) suffix
        (filesEnding world.tree (Path.ofText name) suffix) :=
      listsEnding_filesEnding sound
    rw [on_sourcesIn isEnding sound isDirectory areShort]
    dsimp only
    by_cases empty : filesEnding world.tree (Path.ofText name) suffix = []
    · have hasNone : HasNoSource world.tree suffix (Path.ofText name) := by
        refine ⟨isDirectory, fun file isFile ends => ?_⟩
        have member := (lists.members file).mpr ⟨isFile, ends⟩
        rw [empty] at member
        cases member
      rw [empty, List.map_nil, if_pos List.isEmpty_nil]
      exact ⟨.ok none, _, rfl, .missing rfl .nil hasNone⟩
    · rw [if_neg (by simpa using empty)]
      exact ⟨_, _, on_expandInputs_rest expanded _,
        expansion.cons (.directory isDirectory lists empty)⟩
  · obtain ⟨file, listed, fileLong⟩ : ∃ file ∈ namesEnding world.tree (Path.ofText name) suffix,
        ¬ IsShort ((Path.ofText name).child file) := by simpa using areShort
    obtain ⟨failure, broken⟩ :=
      exists_failure_sourcesIn isEnding sound isDirectory ⟨file, listed, fileLong⟩
    rw [broken]
    exact ⟨_, [], by rw [World.notified_nil],
      .tooLong failure (.inside List.mem_cons_self isDirectory listed) fileLong⟩

/-- Inputs are expanded one by one, by induction on them. -/
theorem exists_expansion (inputs : List String)
    : ∃ result notices,
        (expandInputs disk suffix inputs).on world = (result, world.notified notices)
        ∧ Expansion world.tree suffix inputs result notices := by
  induction inputs with
  | nil => exact ⟨.ok (some []), [], by rw [World.notified_nil]; rfl, .found .nil⟩
  | cons name rest ih =>
      obtain ⟨result, notices, expanded, expansion⟩ := ih
      by_cases isDirectory : IsDirectoryAt world.tree (Path.ofText name)
      · exact exists_expansion_directory isEnding sound isDirectory expanded expansion
      obtain ⟨answer, looked⟩ := exists_answer (relates_kind? (Path.ofText name)) world.tree
      have nameLooked : (Act.mustFiles (disk.kind? (Path.ofText name))).on world
          = (answer.mapError .files, world) := by
        rw [Act.on_mustFiles, looked]
        rfl
      rw [expandInputs, Act.on_bind, nameLooked]
      cases answer with
      | error failure =>
          have nameLong : ¬ IsShort (Path.ofText name) := by
            intro isShort
            obtain ⟨kind?, told⟩ := exists_kind? isShort world.tree
            rw [looked] at told
            cases told
          exact ⟨_, [], by rw [World.notified_nil]; rfl,
            .tooLong failure (.input List.mem_cons_self) nameLong⟩
      | ok kind? =>
          have isOther : kind? ≠ some .directory := by
            rintro rfl
            exact isDirectory looked
          dsimp only [Except.mapError]
          rw [if_neg isOther]
          exact ⟨_, _, on_expandInputs_rest expanded [Path.ofText name],
            expansion.cons (.other isDirectory)⟩

end

/-- The inputs of a run are expanded exactly, with every suffix that stands for itself in a pattern
and in every tree: to the paths that they stand for, if each directory among them has a source, and
otherwise to a report of the first directory without one. Only a path that is too long keeps them
from either.
-/
theorem expandInputs_exact {suffix : String} (isEnding : IsEnding suffix) {tree : Tree}
    (sound : tree.IsSound) (inputs : List String)
    : ∃ result notices,
        (expandInputs disk suffix inputs).on { tree } = (result, ⟨{ notices }, tree⟩)
        ∧ Expansion tree suffix inputs result notices
        ∧ ((∀ path, IsLookedAt tree suffix inputs path → IsShort path)
            → (result = .ok none
                ↔ ∃ name ∈ inputs, HasNoSource tree suffix (Path.ofText name))) := by
  have isSound : ({ tree } : World).tree.IsSound := sound
  obtain ⟨result, notices, expanded, expansion⟩ := exists_expansion isEnding isSound inputs
  refine ⟨result, notices, expanded, expansion, fun areShort => ?_⟩
  cases expansion with
  | found standsFor =>
      refine ⟨nofun, ?_⟩
      rintro ⟨name, member, hasNone⟩
      exact absurd hasNone (standsFor.not_hasNoSource name member)
  | @missing front back name found split standsFor hasNone =>
      refine ⟨fun _ => ⟨name, ?_, hasNone⟩, fun _ => rfl⟩
      rw [split]
      exact List.mem_append_right front List.mem_cons_self
  | tooLong failure isLookedAt tooLong => exact absurd (areShort _ isLookedAt) tooLong

/-- Two sources in a directory with other things, and a directory without one. -/
def sourcesTree : Tree where
  nodes := [
    (["d"], .directory),
    (["d", "b.[x"], .file []),
    (["d", "a.[x"], .file []),
    (["d", "c.[x"], .directory),
    (["d", "note.x"], .file []),
    (["e"], .directory)]

theorem isSound_sourcesTree : sourcesTree.IsSound := by
  have areNames : ∀ entry ∈ sourcesTree.nodes, ∀ name ∈ entry.1, IsFileName name := by decide
  exact ⟨by decide, areNames⟩

/-- A suffix with a bracket that nothing closes, and inputs of each kind. -/
theorem expandInputs_exact_sourcesTree
    : IsEnding ".[x"
      ∧ sourcesTree.IsSound
      ∧ ∃ result notices,
          (expandInputs disk ".[x" ["n", "d", "e"]).on { tree := sourcesTree }
            = (result, ⟨{ notices }, sourcesTree⟩)
          ∧ Expansion sourcesTree ".[x" ["n", "d", "e"] result notices
          ∧ ((∀ path, IsLookedAt sourcesTree ".[x" ["n", "d", "e"] path → IsShort path)
              → (result = .ok none
                  ↔ ∃ name ∈ ["n", "d", "e"],
                      HasNoSource sourcesTree ".[x" (Path.ofText name))) := by
  have isEnding : IsEnding ".[x" := ⟨by decide, by decide⟩
  exact ⟨isEnding, isSound_sourcesTree,
    expandInputs_exact isEnding isSound_sourcesTree ["n", "d", "e"]⟩

/-- A source whose name ends with the suffix. -/
def setTree : Tree where
  nodes := [(["d"], .directory), (["d", "a.[ch]"], .file (Text.Utf8.encode "T = A \"a\"".toList))]

/-- A bracket that is closed is a set of characters in a pattern. The source is not found, and the
run ends as if it were not there.
-/
theorem not_expandInputs_exact_set
    : Settings.ofEnvironment [("LITENUM_SOURCE_SUFFIX", ".[ch]")]
          = .ok { sourceSuffix := ".[ch]" }
      ∧ setTree.IsSound
      ∧ IsDirectoryAt setTree (Path.ofText "d")
      ∧ IsFileIn setTree (Path.ofText "d") "a.[ch]"
      ∧ ".[ch]".toList <:+ "a.[ch]".toList
      ∧ (expandInputs disk ".[ch]" ["d"]).on { tree := setTree }
        = (.ok none, ⟨{ notices := [complaint "Error: No .[ch] files in d"] }, setTree⟩) := by
  have areNames : ∀ entry ∈ setTree.nodes, ∀ name ∈ entry.1, IsFileName name := by decide
  exact ⟨by decide, ⟨by decide, areNames⟩, by decide, by decide, by decide,
    by decide +kernel⟩

end LiteralEnum.Command.Generate
