import LiteralEnum.Proofs.Files.Looking

/-! Directories that are made on the way to a path. They are made only where there is nothing,
and making them again changes nothing more and ends in the same way.
-/

namespace LiteralEnum.Files

/-- The places that names lead through, from the first place to the last. -/
def Place.through (start : Place) : List String → List Place
  | [] => [start]
  | name :: rest => start :: (start.next name).through rest

/-- The places that a path leads through, from where it starts to its own. -/
def Path.way (home : Place) (path : Path) : List Place :=
  Place.through (if path.root = "" then home else []) path.steps

theorem Place.foldl_mem_through (start : Place) (names : List String)
    : names.foldl Place.next start ∈ start.through names := by
  induction names generalizing start with
  | nil => exact List.mem_singleton_self start
  | cons name rest ih => exact List.mem_cons_of_mem _ (ih _)

/-- The way goes on behind the first names. -/
theorem Place.through_subset (start : Place) (names more : List String)
    : start.through names ⊆ start.through (names ++ more) := by
  induction names generalizing start with
  | nil =>
      rintro place member
      rw [List.mem_singleton.mp member]
      cases more with
      | nil => exact List.mem_singleton_self start
      | cons => exact List.mem_cons_self
  | cons name rest ih => exact List.cons_subset_cons _ (ih _)

/-- One name more leads to one place more. -/
theorem Place.through_concat (start : Place) (names : List String) (name : String)
    : start.through (names ++ [name])
      = start.through names ++ [(names.foldl Place.next start).next name] := by
  induction names generalizing start with
  | nil => rfl
  | cons first rest ih => exact congrArg (start :: ·) (ih _)

theorem Path.place_mem_way (home : Place) (path : Path) : path.place home ∈ path.way home :=
  Place.foldl_mem_through _ _

/-- The way of a path ends with its place. -/
theorem Path.mem_way {home : Place} {path : Path} {place : Place} (member : place ∈ path.way home)
    : place ∈ (path.way home).dropLast ∨ place = path.place home := by
  rw [Path.way] at member ⊢
  rcases List.eq_nil_or_concat' path.steps with none | ⟨front, last, same⟩
  · rw [none] at member
    rw [Path.place, none]
    exact .inr (List.mem_singleton.mp member)
  · rw [same, Place.through_concat] at member ⊢
    rw [List.dropLast_concat, Path.place, same, List.foldl_append]
    exact (List.mem_append.mp member).imp_right List.mem_singleton.mp

theorem Path.steps_parent_prefix (path : Path)
    : ∃ more, path.steps = path.parent.steps ++ more := by
  obtain ⟨last, same⟩ := List.dropLast_prefix path.parts
  refine ⟨last.flatMap fun name => names name.toList, ?_⟩
  rw [steps, ← same, List.flatMap_append]
  rfl

theorem Path.way_parent_subset (home : Place) (path : Path)
    : path.parent.way home ⊆ path.way home := by
  obtain ⟨more, same⟩ := path.steps_parent_prefix
  rw [way, way, same]
  exact Place.through_subset _ _ _

-----------------------------------------------------------------------------------------
-- Following names
-----------------------------------------------------------------------------------------

namespace Tree

/-- Names are followed from directory to directory; only what the last one leads to is open. -/
theorem directory_of_follow {tree : Tree} {start found : Place} {names : List String}
    {name : String} (followed : tree.follow start (names ++ [name]) = .ok found)
    : ∀ place ∈ start.through names, tree.node? place = some .directory := by
  induction names generalizing start with
  | nil =>
      rw [List.nil_append, follow] at followed
      intro place member
      rw [List.mem_singleton.mp member]
      split at followed
      next => cases followed
      next => cases followed
      next directory => exact directory
  | cons first rest ih =>
      rw [List.cons_append, follow] at followed
      split at followed
      next => cases followed
      next => cases followed
      next directory =>
        split at followed
        next => cases followed
        next =>
          intro place member
          rcases List.mem_cons.mp member with rfl | later
          · exact directory
          · exact ih followed place later

/-- Fewer names can be followed too. -/
theorem follow_front {tree : Tree} {start found : Place} {names : List String} {name : String}
    (followed : tree.follow start (names ++ [name]) = .ok found)
    : tree.follow start names = .ok (names.foldl Place.next start) := by
  induction names generalizing start with
  | nil => rfl
  | cons first rest ih =>
      rw [List.cons_append, follow] at followed
      rw [follow]
      split at followed
      next => cases followed
      next => cases followed
      next directory =>
        split at followed
        next => cases followed
        next fits =>
          rw [if_neg fits]
          exact ih followed

/-- A path leads through directories. -/
theorem directory_of_locate {tree : Tree} {path : Path} {found : Place}
    (located : tree.locate path = .ok found)
    : ∀ place ∈ (path.way tree.home).dropLast, tree.node? place = some .directory := by
  rw [locate] at located
  split at located
  next => cases located
  next =>
    rw [Path.way]
    rcases List.eq_nil_or_concat' path.steps with none | ⟨front, last, same⟩
    · simp [none, Place.through]
    · rw [same] at located ⊢
      rw [Place.through_concat, List.dropLast_concat]
      exact directory_of_follow located

/-- Only what is on the way to the last place counts, by induction on the names. -/
theorem follow_congr {tree other : Tree} {start : Place} {names : List String}
    (same : ∀ place ∈ (start.through names).dropLast, tree.node? place = other.node? place)
    : tree.follow start names = other.follow start names := by
  induction names generalizing start with
  | nil => rfl
  | cons name rest ih =>
      have goesOn : (start.next name).through rest ≠ [] := by
        cases rest <;> exact List.cons_ne_nil _ _
      rw [Place.through, List.dropLast_cons_of_ne_nil goesOn] at same
      obtain ⟨here, later⟩ := List.forall_mem_cons.mp same
      rw [follow, follow, here]
      split
      next => rfl
      next => rfl
      next =>
        split
        next => rfl
        next => exact ih later

theorem locate_congr {tree other : Tree} {path : Path} (home : tree.home = other.home)
    (same : ∀ place ∈ (path.way other.home).dropLast, tree.node? place = other.node? place)
    : tree.locate path = other.locate path := by
  have origin : tree.origin path = other.origin path := by rw [Tree.origin, Tree.origin, home]
  rw [locate, locate, origin]
  split
  next => rfl
  next => exact follow_congr same

/-- Where there is a directory at the end, there are directories all the way. -/
theorem directory_of_follow_directory {tree : Tree} {start found : Place} {names : List String}
    (followed : tree.follow start names = .ok found)
    (directory : tree.node? found = some .directory)
    : ∀ place ∈ start.through names, tree.node? place = some .directory := by
  obtain rfl := follow_eq followed
  rcases List.eq_nil_or_concat' names with rfl | ⟨front, last, rfl⟩
  · intro place member
    rwa [List.mem_singleton.mp member]
  · intro place member
    rw [Place.through_concat] at member
    rcases List.mem_append.mp member with before | last
    · exact directory_of_follow followed place before
    · rw [List.mem_singleton.mp last]
      rwa [List.foldl_append] at directory

/-- What is found to be a directory stands at its place, and so do those on its way. -/
theorem IsDirectoryAt.way {tree : Tree} {path : Path} (isDirectory : IsDirectoryAt tree path)
    : ∀ place ∈ path.way tree.home, tree.node? place = some .directory := by
  rw [IsDirectoryAt, run_kind?] at isDirectory
  obtain ⟨isDirectory, -⟩ := Prod.mk.inj isDirectory
  split at isDirectory
  next => cases isDirectory
  next =>
    split at isDirectory
    next place node found =>
      obtain ⟨other, located, found⟩ := exists_of_bind found
      rw [locate] at located
      split at located
      next => cases located
      next =>
        split at found
        next stands =>
          obtain ⟨rfl, same⟩ := Prod.mk.inj (Except.ok.inj found)
          rw [same] at stands
          cases node with
          | file content => cases isDirectory
          | directory => exact directory_of_follow_directory located stands
        next => cases found
    next => split at isDirectory <;> cases isDirectory

/-- What is found to be a file stands at its place. -/
theorem IsFileAt.exists_content {tree : Tree} {path : Path} (isFile : IsFileAt tree path)
    : hasNull path = false
      ∧ tree.locate path = .ok (path.place tree.home)
      ∧ ∃ content, tree.node? (path.place tree.home) = some (.file content) := by
  rw [IsFileAt, run_kind?] at isFile
  obtain ⟨isFile, -⟩ := Prod.mk.inj isFile
  split at isFile
  next => cases isFile
  next clean =>
    split at isFile
    next place node found =>
      obtain ⟨rfl, stands⟩ := look_eq found
      cases node with
      | directory => cases isFile
      | file content =>
          obtain ⟨place, located, -⟩ := exists_of_bind found
          obtain rfl := locate_eq located
          exact ⟨Bool.eq_false_iff.mpr clean, located, content, stands⟩
    next => split at isFile <;> cases isFile

/-- Something stands at each place on the way to a file. -/
theorem IsFileAt.exists_node {tree : Tree} {path : Path} (isFile : IsFileAt tree path)
    : ∀ place ∈ path.way tree.home, ∃ node, tree.node? place = some node := by
  obtain ⟨-, located, content, stands⟩ := isFile.exists_content
  intro place member
  rcases Path.mem_way member with onWay | rfl
  · exact ⟨_, directory_of_locate located place onWay⟩
  · exact ⟨_, stands⟩

/-- A file has a name where paths start in a directory. -/
theorem IsFileAt.parts_ne_nil {tree : Tree} {path : Path} (isFile : IsFileAt tree path)
    (isHome : tree.node? tree.home = some .directory) : path.parts ≠ [] := by
  intro none
  obtain ⟨-, -, content, stands⟩ := isFile.exists_content
  have steps : path.steps = [] := by rw [Path.steps, none]; rfl
  rw [Path.place, steps] at stands
  split at stands
  · cases stands.symm.trans isHome
  · cases stands

end Tree

-----------------------------------------------------------------------------------------
-- New directories
-----------------------------------------------------------------------------------------

/-- The nodes before and after are the same, but for directories on the way to the path where there
was nothing.
-/
structure AddsDirectories (path : Path) (before after : Tree) : Prop where
  home : after.home = before.home
  nodes
    : ∀ place,
        after.node? place = before.node? place
        ∨ place ∈ path.way before.home ∧ before.node? place = none
          ∧ after.node? place = some .directory

instance (path : Path) : IsPreorder Tree (AddsDirectories path) where
  refl _ := ⟨rfl, fun _ => .inl rfl⟩
  trans before middle after first second := by
    refine ⟨second.home.trans first.home, fun place => ?_⟩
    rcases first.nodes place with same | ⟨onWay, none, directory⟩
    · rcases second.nodes place with kept | ⟨onWay, none, directory⟩
      · exact .inl (kept.trans same)
      · exact .inr ⟨first.home ▸ onWay, same ▸ none, directory⟩
    · rcases second.nodes place with kept | ⟨-, absent, -⟩
      · exact .inr ⟨onWay, none, kept.trans directory⟩
      · cases directory.symm.trans absent

/-- What stood somewhere before stands there after. -/
theorem AddsDirectories.node?_eq {path : Path} {before after : Tree}
    (adds : AddsDirectories path before after) {place : Place} {node : Node}
    (stands : before.node? place = some node) : after.node? place = some node := by
  rcases adds.nodes place with same | ⟨-, absent, -⟩
  · rwa [same]
  · cases stands.symm.trans absent

theorem AddsDirectories.of_parent {path : Path} {before after : Tree}
    (adds : AddsDirectories path.parent before after) : AddsDirectories path before after := by
  refine ⟨adds.home, fun place => (adds.nodes place).imp_right ?_⟩
  rintro ⟨onWay, added⟩
  exact ⟨path.way_parent_subset _ onWay, added⟩

theorem AddsDirectories.keepsFiles {path : Path} {before after : Tree}
    (adds : AddsDirectories path before after) : KeepsFiles [] before after := by
  refine ⟨adds.home, fun place _ content => ?_⟩
  rcases adds.nodes place with same | ⟨-, none, directory⟩
  · rw [same]
  · simp [none, directory]

namespace Tree

theorem addsDirectories_makeDirectory {path : Path} {before after : Tree} {value : Unit}
    (made : makeDirectory path before = .ok (value, after))
    : AddsDirectories path before after := by
  obtain ⟨place, located, made⟩ := exists_of_bind made
  obtain rfl := locate_eq located
  split at made
  next => cases made
  next free =>
    obtain ⟨-, rfl⟩ := Prod.mk.inj (Except.ok.inj made)
    refine ⟨rfl, fun other => ?_⟩
    by_cases same : other = path.place before.home
    · subst same
      have notDirectory : before.node? (path.place before.home) ≠ some .directory := by simp [free]
      have inner := ne_nil_of_node? notDirectory
      exact .inr ⟨path.place_mem_way _, free, node?_put_self inner _⟩
    · exact .inl (node?_put_of_ne same _)

theorem relates_makeDirectory (path : Path)
    : Relates (AddsDirectories path) (disk.makeDirectory path) :=
  .change fun _ _ _ made => addsDirectories_makeDirectory made

theorem addsDirectories_settle (path : Path) (fault : Fault)
    : Relates (AddsDirectories path) (disk.settle path fault) :=
  .bind_result (relates_kind? path) (fun _ => .pure _) (.pure _) (fun _ => .pure _)

theorem addsDirectories_makeLast (path : Path)
    : Relates (AddsDirectories path) (disk.makeLast path) := by
  refine .bind_result (relates_makeDirectory path) (fun _ => .pure _) (.pure _) ?_
  intro fault
  dsimp only
  split
  next => exact .pure _
  next => exact addsDirectories_settle path fault

/-- Directories are added on the way to the path only, by induction on the levels. -/
theorem addsDirectories_makeDirectories (levels : Nat) (path : Path)
    : Relates (AddsDirectories path) (disk.makeDirectories levels path) := by
  induction levels generalizing path with
  | zero =>
      rw [Disk.makeDirectories]
      refine .bind_result (relates_makeDirectory path) (fun _ => .pure _) (.pure _) ?_
      intro fault
      dsimp only
      split
      next => exact addsDirectories_settle path fault
      next => exact .pure _
  | succ levels ih =>
      rw [Disk.makeDirectories]
      refine .bind_result (relates_makeDirectory path) (fun _ => .pure _) (.pure _) ?_
      intro fault
      dsimp only
      split
      next => exact addsDirectories_settle path fault
      next =>
        refine .bind_result (fun tree => (ih path.parent tree).of_parent)
          (fun _ => addsDirectories_makeLast path) (.pure _) (fun _ => .pure _)

end Tree

end LiteralEnum.Files
