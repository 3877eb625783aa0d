import LiteralEnum.Proofs.Files.TreeChanges

/-! Looking at a tree. What is at a path can be told unless a name on its way or the whole path
is too long.
-/

namespace LiteralEnum.Files.Tree

/-- The kind of what is at a path, if there is something. -/
theorem run_kind? (path : Path) (tree : Tree)
    : (disk.kind? path).run tree
      = (if hasNull path then .ok none
        else match tree.look path with
          | .ok (_, node) => .ok (some (kindOf node))
          | .error code =>
              if code = .notFound ∨ code = .notDirectory then .ok none
              else .error (.fault ⟨code, path, none⟩),
        tree) := by
  have looked : (disk.kind path).run tree = change path none (kind path) tree := rfl
  rw [Disk.kind?, StateT.run_bind, looked, change, Option.any_none, Bool.or_false]
  split
  next => rfl
  next =>
    rw [kind]
    cases tree.look path with
    | ok entry => rfl
    | error code => cases code <;> rfl

/-- The content of the file at a path. -/
theorem run_read (path : Path) (tree : Tree)
    : (disk.read path).run tree
      = (if hasNull path then .error .nullCharacter
        else match tree.look path with
          | .ok (_, .file content) => .ok content
          | .ok (_, .directory) => .error (.fault ⟨.isDirectory, path, none⟩)
          | .error code => .error (.fault ⟨code, path, none⟩),
        tree) := by
  have looked : (disk.read path).run tree = change path none (read path) tree := rfl
  rw [looked, change, Option.any_none, Bool.or_false]
  split
  next => rfl
  next =>
    rw [read]
    cases tree.look path with
    | error code => rfl
    | ok entry =>
        obtain ⟨place, node⟩ := entry
        cases node <;> rfl

/-- The names in the directory at a path. -/
theorem run_entries (path : Path) (tree : Tree)
    : (disk.entries path).run tree
      = (if hasNull path then .error .nullCharacter
        else match tree.look path with
          | .ok (place, .directory) => .ok (tree.childNames place)
          | .ok (_, .file _) => .error (.fault ⟨.notDirectory, path, none⟩)
          | .error code => .error (.fault ⟨code, path, none⟩),
        tree) := by
  have looked : (disk.entries path).run tree = change path none (entries path) tree := rfl
  rw [looked, change, Option.any_none, Bool.or_false]
  split
  next => rfl
  next =>
    rw [entries]
    cases tree.look path with
    | error code => rfl
    | ok entry =>
        obtain ⟨place, node⟩ := entry
        cases node <;> rfl

section

variable {relation : Tree → Tree → Prop} [IsPreorder Tree relation]

/-- An operation that only looks leaves the tree as it is. -/
theorem relates_kind? (path : Path) : Relates relation (disk.kind? path) := by
  intro tree
  rw [run_kind?]
  exact refl_of relation tree

theorem relates_read (path : Path) : Relates relation (disk.read path) := by
  intro tree
  rw [run_read]
  exact refl_of relation tree

theorem relates_entries (path : Path) : Relates relation (disk.entries path) := by
  intro tree
  rw [run_entries]
  exact refl_of relation tree

end

/-- What only looks has an answer, and the tree is the same. -/
theorem exists_answer {Value : Type} {action : StateM Tree Value} (looks : Relates Eq action)
    (tree : Tree)
    : ∃ answer, action.run tree = (answer, tree) :=
  ⟨(action.run tree).1, Prod.ext rfl (looks tree).symm⟩

-----------------------------------------------------------------------------------------
-- Paths that are not too long
-----------------------------------------------------------------------------------------

/-- Neither the path nor a name on its way is too long. -/
structure IsShort (path : Path) : Prop where
  whole : isTooLong maxPathBytes path.text = false
  names : ∀ name ∈ path.steps, isTooLong maxNameBytes name = false

/-- Short names fail to lead on only where there is no directory, by induction on the names. -/
theorem absent_of_follow {tree : Tree} {start : Place} {names : List String} {code : ErrorCode}
    (areShort : ∀ name ∈ names, isTooLong maxNameBytes name = false)
    (failed : tree.follow start names = .error code)
    : code = .notFound ∨ code = .notDirectory := by
  induction names generalizing start with
  | nil => cases failed
  | cons name rest ih =>
      obtain ⟨isShort, areShort⟩ := List.forall_mem_cons.mp areShort
      rw [follow] at failed
      split at failed
      next =>
        cases failed
        exact Or.inl rfl
      next =>
        cases failed
        exact Or.inr rfl
      next =>
        rw [isShort] at failed
        exact ih areShort failed

/-- At a short path there is something, or there is nothing. -/
theorem absent_of_look {tree : Tree} {path : Path} {code : ErrorCode} (isShort : IsShort path)
    (failed : tree.look path = .error code)
    : code = .notFound ∨ code = .notDirectory := by
  have followed : tree.locate path = tree.follow (tree.origin path) path.steps := by
    rw [locate, isShort.whole]
    rfl
  rw [look, followed] at failed
  cases ending : tree.follow (tree.origin path) path.steps with
  | error other =>
      rw [ending] at failed
      cases failed
      exact absent_of_follow isShort.names ending
  | ok place =>
      simp only [ending, bind, Except.bind] at failed
      split at failed
      next => cases failed
      next =>
        cases failed
        exact Or.inl rfl

/-- It can be told what is at a short path. -/
theorem exists_kind? {path : Path} (isShort : IsShort path) (tree : Tree)
    : ∃ found, (disk.kind? path).run tree = (.ok found, tree) := by
  rw [run_kind?]
  split
  next => exact ⟨none, rfl⟩
  next =>
    split
    next place node found => exact ⟨some (kindOf node), rfl⟩
    next code failed => exact ⟨none, by rw [if_pos (absent_of_look isShort failed)]⟩

/-- A directory is at the path. -/
def IsDirectoryAt (tree : Tree) (path : Path) : Prop :=
  (disk.kind? path).run tree = (.ok (some .directory), tree)

theorem isDirectoryAt_iff (tree : Tree) (path : Path)
    : IsDirectoryAt tree path ↔ ((disk.kind? path).run tree).1.toOption = some (some .directory) := by
  obtain ⟨answer, looked⟩ := exists_answer (relates_kind? path) tree
  rw [IsDirectoryAt, looked]
  constructor
  · intro same
    rw [(Prod.mk.inj same).1]
    rfl
  · intro same
    cases answer with
    | error failure => cases same
    | ok found =>
        obtain rfl := Option.some.inj same
        rfl

instance (tree : Tree) (path : Path) : Decidable (IsDirectoryAt tree path) :=
  decidable_of_iff _ (isDirectoryAt_iff tree path).symm

/-- A file is at the path. -/
def IsFileAt (tree : Tree) (path : Path) : Prop :=
  (disk.kind? path).run tree = (.ok (some .file), tree)

theorem isFileAt_iff (tree : Tree) (path : Path)
    : IsFileAt tree path ↔ ((disk.kind? path).run tree).1.toOption = some (some .file) := by
  obtain ⟨answer, looked⟩ := exists_answer (relates_kind? path) tree
  rw [IsFileAt, looked]
  constructor
  · intro same
    rw [(Prod.mk.inj same).1]
    rfl
  · intro same
    cases answer with
    | error failure => cases same
    | ok found =>
        obtain rfl := Option.some.inj same
        rfl

instance (tree : Tree) (path : Path) : Decidable (IsFileAt tree path) :=
  decidable_of_iff _ (isFileAt_iff tree path).symm

/-- The names in a directory can be told. -/
theorem IsDirectoryAt.exists_entries {tree : Tree} {path : Path}
    (isDirectory : IsDirectoryAt tree path)
    : ∃ names, (disk.entries path).run tree = (.ok names, tree) := by
  rw [IsDirectoryAt, run_kind?] at isDirectory
  obtain ⟨isDirectory, -⟩ := Prod.mk.inj isDirectory
  rw [run_entries]
  split at isDirectory
  next => cases isDirectory
  next clean =>
    rw [if_neg clean]
    split at isDirectory
    next place node found =>
      rw [found]
      cases node with
      | file content => cases isDirectory
      | directory => exact ⟨_, rfl⟩
    next => split at isDirectory <;> cases isDirectory

/-- What can be read is a file. -/
theorem kind?_of_read {tree after : Tree} {path : Path} {content : Text.Bytes}
    (isRead : (disk.read path).run tree = (.ok content, after))
    : (disk.kind? path).run tree = (.ok (some .file), tree) := by
  rw [run_read] at isRead
  obtain ⟨isRead, -⟩ := Prod.mk.inj isRead
  rw [run_kind?]
  split at isRead
  next => cases isRead
  next clean =>
    rw [if_neg clean]
    split at isRead
    next place bytes found =>
      rw [found]
      rfl
    next => cases isRead
    next => cases isRead

/-- What is somewhere has a path that the system takes. -/
theorem read_ne_nullCharacter {tree : Tree} {path : Path} {kind : Kind}
    (isThere : (disk.kind? path).run tree = (.ok (some kind), tree))
    : ((disk.read path).run tree).1 ≠ .error .nullCharacter := by
  rw [run_kind?] at isThere
  obtain ⟨isThere, -⟩ := Prod.mk.inj isThere
  rw [run_read]
  split at isThere
  next => cases isThere
  next clean =>
    rw [if_neg clean]
    dsimp only
    split <;> simp

end LiteralEnum.Files.Tree
