import LiteralEnum.Proofs.Files.Names
import LiteralEnum.Proofs.Files.Replacing

/-! Directories that are made again. What is a directory is one on all its way, and making the
directories of a path a second time changes nothing more and ends in the same way.
-/

namespace LiteralEnum.Files

namespace Tree

theorem isTooLong_parent {path : Path} (fits : isTooLong maxPathBytes path.text = false)
    : isTooLong maxPathBytes path.parent.text = false := by
  rcases path.text_parent with dot | ⟨more, same⟩
  · rw [dot]
    decide
  · rw [isTooLong, decide_eq_false_iff_not, Nat.not_lt, Text.Utf8.encode] at fits ⊢
    rw [← same, List.flatMap_append, List.length_append] at fits
    omega

-----------------------------------------------------------------------------------------
-- Directories
-----------------------------------------------------------------------------------------

theorem isDirectoryAt_iff_look {tree : Tree} {path : Path}
    : IsDirectoryAt tree path
      ↔ hasNull path = false ∧ tree.look path = .ok (path.place tree.home, .directory) := by
  rw [IsDirectoryAt, run_kind?]
  constructor
  · intro isDirectory
    obtain ⟨isDirectory, -⟩ := Prod.mk.inj isDirectory
    split at isDirectory
    next => cases isDirectory
    next clean =>
      refine ⟨Bool.eq_false_iff.mpr clean, ?_⟩
      split at isDirectory
      next place node found =>
        obtain ⟨rfl, -⟩ := look_eq found
        cases node with
        | file content => cases isDirectory
        | directory => exact found
      next => split at isDirectory <;> cases isDirectory
  · rintro ⟨clean, found⟩
    rw [clean, found]
    rfl

/-- What is there already is settled by what it is. -/
theorem run_settle (tree : Tree) (path : Path) (fault : Fault)
    : (disk.settle path fault).run tree = (.ok (), tree) ∧ IsDirectoryAt tree path
      ∨ (∃ failure, (disk.settle path fault).run tree = (.error failure, tree))
        ∧ ¬ IsDirectoryAt tree path := by
  obtain ⟨answer, looked⟩ := exists_answer (relates_kind? path) tree
  cases answer with
  | error failure =>
      have settled : (disk.settle path fault).run tree = (.error failure, tree) := by
        rw [Disk.settle, StateT.run_bind, looked]
        rfl
      rw [IsDirectoryAt, looked]
      exact .inr ⟨⟨failure, settled⟩, by rintro ⟨⟩⟩
  | ok kind =>
      have settled : (disk.settle path fault).run tree
          = (if kind = some .directory then .ok () else .error (.fault fault), tree) := by
        rw [Disk.settle, StateT.run_bind, looked]
        rfl
      rw [IsDirectoryAt, looked, settled]
      by_cases directory : kind = some .directory
      · subst directory
        exact .inl ⟨rfl, rfl⟩
      · rw [if_neg directory]
        refine .inr ⟨⟨.fault fault, rfl⟩, fun same => ?_⟩
        exact directory (Except.ok.inj (Prod.mk.inj same).1)

/-- A directory that has been made is there. -/
theorem isDirectoryAt_of_made {path : Path} {before after : Tree} {value : Unit}
    (clean : hasNull path = false) (made : makeDirectory path before = .ok (value, after))
    : IsDirectoryAt after path := by
  obtain ⟨place, located, made⟩ := exists_of_bind made
  obtain rfl := locate_eq located
  split at made
  next => cases made
  next free =>
    obtain ⟨-, rfl⟩ := Prod.mk.inj (Except.ok.inj made)
    have notDirectory : before.node? (path.place before.home) ≠ some .directory := by simp [free]
    have sameWay : ∀ place ∈ (path.way before.home).dropLast,
        (before.put (path.place before.home) .directory).node? place = before.node? place := by
      intro place onWay
      refine node?_put_of_ne ?_ _
      rintro rfl
      exact notDirectory (directory_of_locate located _ onWay)
    have stillLocated : (before.put (path.place before.home) .directory).locate path
        = before.locate path :=
      locate_congr rfl sameWay
    refine isDirectoryAt_iff_look.mpr ⟨clean, ?_⟩
    rw [look, stillLocated, located]
    simp only [bind, Except.bind]
    rw [node?_put_self (ne_nil_of_node? notDirectory)]
    rfl

/-- A path that can be followed has a directory as its parent. -/
theorem isDirectoryAt_parent {tree : Tree} {path : Path} (plain : path.IsPlain)
    (isNamed : path.parts ≠ []) (clean : hasNull path = false) {place : Place}
    (located : tree.locate path = .ok place) : IsDirectoryAt tree path.parent := by
  obtain ⟨front, last, parts⟩ := (List.eq_nil_or_concat' path.parts).resolve_left isNamed
  have steps : path.steps = path.parent.steps ++ [last] := by
    rw [plain.steps, plain.parent.steps, Path.parent, parts, List.dropLast_concat]
  refine isDirectoryAt_iff_look.mpr ⟨hasNull_parent clean, ?_⟩
  rw [locate] at located
  split at located
  next => cases located
  next fits =>
    have fits := isTooLong_parent (Bool.eq_false_iff.mpr fits)
    rw [steps] at located
    have parentLocated : tree.locate path.parent = .ok (path.parent.place tree.home) := by
      rw [locate, fits]
      exact follow_front located
    have directory : tree.node? (path.parent.place tree.home) = some .directory :=
      directory_of_follow located _ (Place.foldl_mem_through _ _)
    rw [look, parentLocated]
    simp only [bind, Except.bind]
    rw [directory]

-----------------------------------------------------------------------------------------
-- One turn after the other
-----------------------------------------------------------------------------------------

section

variable {path : Path} {tree after : Tree} {fault : Fault}

theorem run_makeDirectories_of_made (levels : Nat)
    (made : (disk.makeDirectory path).run tree = (.ok (), after))
    : (disk.makeDirectories levels path).run tree = (.ok (), after) := by
  cases levels <;> rw [Disk.makeDirectories, StateT.run_bind, made] <;> rfl

theorem run_makeDirectories_of_null (levels : Nat)
    (refused : (disk.makeDirectory path).run tree = (.error .nullCharacter, tree))
    : (disk.makeDirectories levels path).run tree = (.error .nullCharacter, tree) := by
  cases levels <;> rw [Disk.makeDirectories, StateT.run_bind, refused] <;> rfl

theorem run_makeDirectories_of_there (levels : Nat)
    (refused : (disk.makeDirectory path).run tree = (.error (.fault fault), tree))
    (isThere : fault.code ≠ .notFound)
    : (disk.makeDirectories levels path).run tree = (disk.settle path fault).run tree := by
  cases levels <;> rw [Disk.makeDirectories, StateT.run_bind, refused] <;> dsimp only [bind]
  all_goals
    rw [if_pos isThere]

theorem run_makeDirectories_zero
    (refused : (disk.makeDirectory path).run tree = (.error (.fault fault), tree))
    (isMissing : fault.code = .notFound)
    : (disk.makeDirectories 0 path).run tree = (.error (.fault fault), tree) := by
  rw [Disk.makeDirectories, StateT.run_bind, refused]
  dsimp only [bind]
  rw [if_neg (not_not_intro isMissing)]
  rfl

/-- Where there is no parent, it is made first. -/
theorem run_makeDirectories_succ {levels : Nat}
    (refused : (disk.makeDirectory path).run tree = (.error (.fault fault), tree))
    (isMissing : fault.code = .notFound)
    : (disk.makeDirectories (levels + 1) path).run tree
      = (do match ← disk.makeDirectories levels path.parent with
            | .ok () => disk.makeLast path
            | .error failure => return .error failure
          : StateM Tree (Except Failure Unit)).run tree := by
  rw [Disk.makeDirectories, StateT.run_bind, refused]
  dsimp only [bind]
  exact congrArg (StateT.run · tree) (if_neg (not_not_intro isMissing))

theorem run_makeDirectories_around {levels : Nat}
    (refused : (disk.makeDirectory path).run tree = (.error (.fault fault), tree))
    (isMissing : fault.code = .notFound)
    (made : (disk.makeDirectories levels path.parent).run tree = (.ok (), after))
    : (disk.makeDirectories (levels + 1) path).run tree = (disk.makeLast path).run after := by
  rw [run_makeDirectories_succ refused isMissing, StateT.run_bind, made]
  rfl

theorem run_makeDirectories_stuck {levels : Nat} {failure : Failure}
    (refused : (disk.makeDirectory path).run tree = (.error (.fault fault), tree))
    (isMissing : fault.code = .notFound)
    (failed : (disk.makeDirectories levels path.parent).run tree = (.error failure, after))
    : (disk.makeDirectories (levels + 1) path).run tree = (.error failure, after) := by
  rw [run_makeDirectories_succ refused isMissing, StateT.run_bind, failed]
  rfl

theorem run_makeLast_of_made (made : (disk.makeDirectory path).run tree = (.ok (), after))
    : (disk.makeLast path).run tree = (.ok (), after) := by
  rw [Disk.makeLast, StateT.run_bind, made]
  rfl

theorem run_makeLast_of_null
    (refused : (disk.makeDirectory path).run tree = (.error .nullCharacter, tree))
    : (disk.makeLast path).run tree = (.error .nullCharacter, tree) := by
  rw [Disk.makeLast, StateT.run_bind, refused]
  rfl

theorem run_makeLast_of_fault
    (refused : (disk.makeDirectory path).run tree = (.error (.fault fault), tree))
    : (disk.makeLast path).run tree
      = if fault.code = .notFound then (.error (.fault fault), tree)
        else (disk.settle path fault).run tree := by
  rw [Disk.makeLast, StateT.run_bind, refused]
  dsimp only [bind]
  split <;> rfl

end

/-- Where there is a directory, the directories of its path are made without a change. -/
theorem IsDirectoryAt.run_makeDirectories {tree : Tree} {path : Path}
    (isDirectory : IsDirectoryAt tree path) (levels : Nat)
    : (disk.makeDirectories levels path).run tree = (.ok (), tree) := by
  obtain ⟨clean, found⟩ := isDirectoryAt_iff_look.mp isDirectory
  obtain ⟨place, located, stands⟩ := exists_of_bind found
  have occupied : makeDirectory path tree = .error .exists := by
    rw [makeDirectory, located]
    simp only [bind, Except.bind]
    split at stands
    next => rfl
    next => cases stands
  have isThere : (disk.makeDirectory path).run tree
      = (.error (.fault ⟨.exists, path, none⟩), tree) := by
    change change path none (makeDirectory path) tree = _
    rw [change, clean, occupied]
    rfl
  rw [run_makeDirectories_of_there levels isThere (by rintro ⟨⟩)]
  exact ((run_settle tree path _).resolve_right fun absent => absent.2 isDirectory).1

/-- A path without names leads to a place where a directory is, or is made. -/
theorem parts_ne_nil_of_missing {tree : Tree} {path : Path} {fault : Fault}
    (refused : (disk.makeDirectory path).run tree = (.error (.fault fault), tree))
    (isMissing : fault.code = .notFound) : path.parts ≠ [] := by
  intro none
  have steps : path.steps = [] := by rw [Path.steps, none]; rfl
  change change path Option.none (makeDirectory path) tree = _ at refused
  rw [change, makeDirectory, locate, steps] at refused
  split at refused
  next => cases refused
  next =>
    split at refused
    next => cases refused
    next code failed =>
      obtain rfl : ⟨code, path, Option.none⟩ = fault :=
        Failure.fault.inj (Except.error.inj (Prod.mk.inj refused).1)
      obtain rfl : code = .notFound := isMissing
      split at failed
      next => cases failed
      next =>
        simp only [follow, bind, Except.bind] at failed
        split at failed <;> cases failed

/-- How the directories of a path are made. They are there at the end, or making them again comes
to no more.
-/
inductive Making (levels : Nat) (path : Path) (before after : Tree) : Prop where
  | made (done : (disk.makeDirectories levels path).run before = (.ok (), after))
    (isDirectory : IsDirectoryAt after path)
  | stuck {failure other : Failure}
    (failed : (disk.makeDirectories levels path).run before = (.error failure, after))
    (again : (disk.makeDirectories levels path).run after = (.error other, after))

section

variable {path : Path} {tree after : Tree} {fault : Fault}

/-- What comes of the directory itself settles the matter, unless there is no parent for it. -/
theorem making_or_missing (levels : Nat) (path : Path) (tree : Tree)
    : (∃ after, Making levels path tree after)
      ∨ ∃ fault,
        (disk.makeDirectory path).run tree = (.error (.fault fault), tree)
        ∧ fault.code = .notFound := by
  have making : (disk.makeDirectory path).run tree = change path none (makeDirectory path) tree :=
    rfl
  rcases change_cases path none (makeDirectory path) tree with
    ⟨value, after, made, same⟩ | ⟨failure, same⟩
  · exact .inl ⟨after, .made (run_makeDirectories_of_made levels (making.trans same))
      (isDirectoryAt_of_made (hasNull_of_change same) made)⟩
  · have refused := making.trans same
    cases failure with
    | nullCharacter =>
        have ends := run_makeDirectories_of_null levels refused
        exact .inl ⟨tree, .stuck ends ends⟩
    | fault fault =>
        by_cases isMissing : fault.code = .notFound
        · exact .inr ⟨fault, refused, isMissing⟩
        · have settles := run_makeDirectories_of_there levels refused isMissing
          rcases run_settle tree path fault with ⟨settled, isDirectory⟩ | ⟨⟨failure, settled⟩, -⟩
          · exact .inl ⟨tree, .made (settles.trans settled) isDirectory⟩
          · exact .inl ⟨tree, .stuck (settles.trans settled) (settles.trans settled)⟩

/-- In its parent the last directory is made, or it cannot be made again either. -/
theorem making_of_around {levels : Nat}
    (around : (disk.makeDirectories (levels + 1) path).run tree = (disk.makeLast path).run after)
    (isParent : IsDirectoryAt after path.parent) : ∃ last, Making (levels + 1) path tree last := by
  have making : (disk.makeDirectory path).run after = change path none (makeDirectory path) after :=
    rfl
  rcases change_cases path none (makeDirectory path) after with
    ⟨value, last, made, same⟩ | ⟨failure, same⟩
  · exact ⟨last, .made (around.trans (run_makeLast_of_made (making.trans same)))
      (isDirectoryAt_of_made (hasNull_of_change same) made)⟩
  · have refused := making.trans same
    cases failure with
    | nullCharacter =>
        exact ⟨after, .stuck (around.trans (run_makeLast_of_null refused))
          (run_makeDirectories_of_null (levels + 1) refused)⟩
    | fault fault =>
        have ends := around.trans (run_makeLast_of_fault refused)
        by_cases isMissing : fault.code = .notFound
        · have again := run_makeDirectories_around refused isMissing
            (isParent.run_makeDirectories levels)
          rw [run_makeLast_of_fault refused, if_pos isMissing] at again
          rw [if_pos isMissing] at ends
          exact ⟨after, .stuck ends again⟩
        · have settles := run_makeDirectories_of_there (levels + 1) refused isMissing
          rw [if_neg isMissing] at ends
          rcases run_settle after path fault with ⟨settled, isDirectory⟩ | ⟨⟨failure, settled⟩, -⟩
          · exact ⟨after, .made (ends.trans settled) isDirectory⟩
          · exact ⟨after, .stuck (ends.trans settled) (settles.trans settled)⟩

/-- Where the parent cannot be made, the path cannot be made again. -/
theorem making_of_stuck (plain : path.IsPlain) {levels : Nat} {failure other : Failure}
    (refused : (disk.makeDirectory path).run tree = (.error (.fault fault), tree))
    (isMissing : fault.code = .notFound)
    (failed : (disk.makeDirectories levels path.parent).run tree = (.error failure, after))
    (again : (disk.makeDirectories levels path.parent).run after = (.error other, after))
    : Making (levels + 1) path tree after := by
  have stuck := run_makeDirectories_stuck refused isMissing failed
  have isNamed := parts_ne_nil_of_missing refused isMissing
  -- What leads to a place has its parent, which would be made again.
  have nowhere : hasNull path = false → ∀ place, after.locate path ≠ .ok place := by
    intro clean place located
    have isParent := isDirectoryAt_parent plain isNamed clean located
    rw [isParent.run_makeDirectories levels] at again
    cases again
  have making : (disk.makeDirectory path).run after = change path none (makeDirectory path) after :=
    rfl
  rcases change_cases path none (makeDirectory path) after with
    ⟨value, last, made, same⟩ | ⟨failure, same⟩
  · obtain ⟨place, located, -⟩ := exists_of_bind made
    exact absurd located (nowhere (hasNull_of_change same) place)
  · have refused := making.trans same
    cases failure with
    | nullCharacter => exact .stuck stuck (run_makeDirectories_of_null (levels + 1) refused)
    | fault other =>
        by_cases isMissing : other.code = .notFound
        · exact .stuck stuck (run_makeDirectories_stuck refused isMissing again)
        · have settles := run_makeDirectories_of_there (levels + 1) refused isMissing
          rcases run_settle after path other with ⟨-, isDirectory⟩ | ⟨⟨failure, settled⟩, -⟩
          · obtain ⟨clean, found⟩ := isDirectoryAt_iff_look.mp isDirectory
            obtain ⟨place, located, -⟩ := exists_of_bind found
            exact absurd located (nowhere clean place)
          · exact .stuck stuck (settles.trans settled)

end

/-- Every way in which the directories of a path are made, by induction on the levels. -/
theorem exists_making {path : Path} (plain : path.IsPlain) (levels : Nat) (tree : Tree)
    : ∃ after, Making levels path tree after := by
  induction levels generalizing path tree with
  | zero =>
      rcases making_or_missing 0 path tree with making | ⟨fault, refused, isMissing⟩
      · exact making
      · have ends := run_makeDirectories_zero refused isMissing
        exact ⟨tree, .stuck ends ends⟩
  | succ levels ih =>
      rcases making_or_missing (levels + 1) path tree with making | ⟨fault, refused, isMissing⟩
      · exact making
      · obtain ⟨after, parent⟩ := ih plain.parent tree
        cases parent with
        | made done isParent =>
            exact making_of_around (run_makeDirectories_around refused isMissing done) isParent
        | stuck failed again => exact ⟨after, making_of_stuck plain refused isMissing failed again⟩

/-- A path with a null character is refused at once. -/
theorem run_makeDirectories_null {path : Path} (null : hasNull path = true) (levels : Nat)
    (tree : Tree)
    : (disk.makeDirectories levels path).run tree = (.error .nullCharacter, tree) := by
  refine run_makeDirectories_of_null levels ?_
  change change path none (makeDirectory path) tree = _
  rw [change, null]
  rfl

end Tree

end LiteralEnum.Files
