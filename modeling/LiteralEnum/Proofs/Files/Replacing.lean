import LiteralEnum.Proofs.Files.WritingThrough

/-! What is in a tree after a file has been written through a second one. A file that is written
takes the place of no directory, and the second file is gone; a refusal leaves the file as it was,
and the second file is gone where it was written.
-/

namespace LiteralEnum.Files.Tree

theorem node?_erase_self {tree : Tree} {place : Place} (inner : place ≠ [])
    : (tree.erase place).node? place = none := by
  rw [node?, if_neg inner, erase, List.lookup_eq_none_iff]
  intro entry member
  have apart : entry.1 ≠ place := by simpa using (List.mem_filter.mp member).2
  exact bne_iff_ne.mpr apart.symm

/-- A file is written in a directory, and not over one. -/
theorem locate_of_write {path : Path} {content : Text.Bytes} {before after : Tree} {value : Unit}
    (written : write path content before = .ok (value, after))
    : before.locate path = .ok (path.place before.home)
      ∧ before.node? (path.place before.home) ≠ some .directory := by
  obtain ⟨place, located, written⟩ := exists_of_bind written
  obtain rfl := locate_eq located
  refine ⟨located, fun directory => ?_⟩
  rw [directory] at written
  cases written

/-- A node that is moved to another place is gone from its own. -/
theorem rename_moves {path target : Path} {before after : Tree} {value : Unit}
    (renamed : rename path target before = .ok (value, after))
    (apart : path.place before.home ≠ target.place before.home)
    : ∃ node,
        before.node? (path.place before.home) = some node
        ∧ before.node? (target.place before.home) ≠ some .directory
        ∧ after = (before.erase (path.place before.home)).put (target.place before.home) node := by
  obtain ⟨⟨source, node⟩, found, renamed⟩ := exists_of_bind renamed
  obtain ⟨rfl, stands⟩ := look_eq found
  obtain ⟨place, located, renamed⟩ := exists_of_bind renamed
  obtain rfl := locate_eq located
  refine ⟨node, stands, ?_⟩
  split at renamed
  next => cases renamed
  next =>
    split at renamed
    next => cases renamed
    next free =>
      obtain ⟨-, rfl⟩ := Prod.mk.inj (Except.ok.inj renamed)
      exact ⟨free, rfl⟩

/-- The nodes are the same but at one place, where a node that is no directory may be gone. -/
structure MayLose (place : Place) (before after : Tree) : Prop where
  home : after.home = before.home
  others : ∀ other, other ≠ place → after.node? other = before.node? other
  here
    : after.node? place = before.node? place
      ∨ before.node? place ≠ some .directory ∧ after.node? place = none

theorem MayLose.refl (place : Place) (tree : Tree) : MayLose place tree tree :=
  ⟨rfl, fun _ _ => rfl, .inl rfl⟩

/-- What is taken away is no directory. -/
theorem mayLose_remove {path : Path} {before after : Tree} {value : Unit}
    (removed : remove path before = .ok (value, after))
    : MayLose (path.place before.home) before after := by
  obtain ⟨⟨place, node⟩, found, removed⟩ := exists_of_bind removed
  obtain ⟨rfl, stands⟩ := look_eq found
  cases node with
  | directory => cases removed
  | file content =>
      obtain ⟨-, rfl⟩ := Prod.mk.inj (Except.ok.inj removed)
      have notDirectory : before.node? (path.place before.home) ≠ some .directory := by simp [stands]
      exact ⟨rfl, fun other apart => node?_erase_of_ne apart,
        .inr ⟨notDirectory, node?_erase_self (ne_nil_of_node? notDirectory)⟩⟩

/-- What is left after an operation is what its change leaves, or what was there. -/
theorem change_cases {Value : Type} (path : Path) (target : Option Path)
    (operation : Change Value) (tree : Tree)
    : (∃ value after, operation tree = .ok (value, after)
        ∧ change path target operation tree = (.ok value, after))
      ∨ ∃ failure, change path target operation tree = (.error failure, tree) := by
  rw [change]
  split
  next => exact .inr ⟨_, rfl⟩
  next =>
    split
    next value after done => exact .inl ⟨value, after, done, rfl⟩
    next => exact .inr ⟨_, rfl⟩

theorem mayLose_discard (path : Path) (tree : Tree)
    : MayLose (path.place tree.home) tree ((disk.discard path).run tree).2 := by
  have removing : (disk.remove path).run tree = change path none (remove path) tree := rfl
  rw [Disk.discard, StateT.run_bind, removing]
  rcases change_cases path none (remove path) tree with ⟨value, after, removed, same⟩ | ⟨failure, same⟩
  · rw [same]
    exact mayLose_remove removed
  · rw [same]
    cases failure with
    | nullCharacter => exact .refl _ _
    | fault fault => exact .refl _ _

/-- A file that has just been written can be taken away. -/
theorem discard_written {path : Path} {content : Text.Bytes} {before after : Tree} {value : Unit}
    (clean : hasNull path = false) (written : write path content before = .ok (value, after))
    : ((disk.discard path).run after).2 = after.erase (path.place before.home) := by
  obtain ⟨located, notDirectory⟩ := locate_of_write written
  obtain ⟨inner, rfl⟩ := write_eq written
  have sameWay : ∀ place ∈ (path.way before.home).dropLast,
      (before.put (path.place before.home) (.file content)).node? place = before.node? place := by
    intro place onWay
    refine node?_put_of_ne ?_ _
    rintro rfl
    exact notDirectory (directory_of_locate located _ onWay)
  have stillLocated : (before.put (path.place before.home) (.file content)).locate path
      = before.locate path :=
    locate_congr rfl sameWay
  have looked : look path (before.put (path.place before.home) (.file content))
      = .ok (path.place before.home, .file content) := by
    rw [look, stillLocated, located]
    simp [bind, Except.bind, node?_put_self inner]
  have removed : remove path (before.put (path.place before.home) (.file content))
      = .ok ((), (before.put (path.place before.home) (.file content)).erase
          (path.place before.home)) := by
    rw [remove, looked]
    rfl
  have removing (tree : Tree)
      : (disk.remove path).run tree = change path none (remove path) tree := rfl
  rw [Disk.discard, StateT.run_bind, removing, change, clean, removed]
  rfl

-----------------------------------------------------------------------------------------
-- Written or refused
-----------------------------------------------------------------------------------------

/-- The file holds the content, the second one is gone, and all else is the same. Both were written
over no directories, and the directories of the second one are there.
-/
structure Replaces (path second : Path) (content : Text.Bytes) (before after : Tree) : Prop where
  home : after.home = before.home
  stores : after.node? (path.place before.home) = some (.file content)
  noSecond : after.node? (second.place before.home) = none
  others
    : ∀ place, place ≠ path.place before.home → place ≠ second.place before.home
        → after.node? place = before.node? place
  free : before.node? (path.place before.home) ≠ some .directory
  secondFree : before.node? (second.place before.home) ≠ some .directory
  located : before.locate second = .ok (second.place before.home)

/-- A file that is written and moved replaces the one at its path. -/
theorem replaces_of_rename {path second : Path} {content : Text.Bytes}
    {before middle after : Tree} {value : Unit}
    (apart : second.place before.home ≠ path.place before.home)
    (written : write second content before = .ok (value, middle))
    (renamed : rename second path middle = .ok (value, after))
    : Replaces path second content before after := by
  obtain ⟨located, secondFree⟩ := locate_of_write written
  obtain ⟨inner, rfl⟩ := write_eq written
  obtain ⟨node, stands, free, rfl⟩ := rename_moves renamed apart
  have same : node = .file content :=
    Option.some.inj (stands.symm.trans (node?_put_self inner _))
  subst same
  have pathInner := ne_nil_of_node? free
  refine ⟨rfl, node?_put_self pathInner _, ?_, fun other notPath notSecond => ?_, ?_, secondFree,
    located⟩
  · exact (node?_put_of_ne apart _).trans (node?_erase_self inner)
  · exact (node?_put_of_ne notPath _).trans
      ((node?_erase_of_ne notSecond).trans (node?_put_of_ne notSecond _))
  · exact (node?_put_of_ne (Ne.symm apart) _) ▸ free

/-- A file that is written and taken away is lost at most. -/
theorem mayLose_written {path : Path} {content : Text.Bytes} {before after : Tree} {value : Unit}
    (clean : hasNull path = false) (written : write path content before = .ok (value, after))
    : MayLose (path.place before.home) before ((disk.discard path).run after).2 := by
  rw [discard_written clean written]
  obtain ⟨-, notDirectory⟩ := locate_of_write written
  obtain ⟨inner, rfl⟩ := write_eq written
  exact ⟨rfl, fun other apart => (node?_erase_of_ne apart).trans (node?_put_of_ne apart _),
    .inr ⟨notDirectory, node?_erase_self inner⟩⟩

/-- An operation that is done had paths without null characters. -/
theorem hasNull_of_change {Value : Type} {path : Path} {target : Option Path}
    {operation : Change Value} {before after : Tree} {value : Value}
    (done : change path target operation before = (.ok value, after)) : hasNull path = false := by
  by_contra null
  rw [Bool.not_eq_false] at null
  rw [change, null, Bool.true_or] at done
  cases done

/-- What fails may be cleaned up, and is not done. -/
theorem of_cleaned {second : Path} {failure : Failure} {before after : Tree}
    {answer : Except Failure Unit}
    (done
      : (do match ← disk.discard second with
            | .ok () => return .error failure
            | .error other => return .error other
          : StateM Tree (Except Failure Unit)).run before = (answer, after))
    : (∃ failure, answer = .error failure) ∧ after = ((disk.discard second).run before).2 := by
  obtain ⟨discarded, last, cleaned, done⟩ := exists_of_run_bind done
  rw [cleaned]
  cases discarded <;> cases done <;> exact ⟨⟨_, rfl⟩, rfl⟩

/-- Writing through a second file replaces the file, or it is refused. -/
theorem writeThrough_cases {path second : Path} {content : Text.Bytes} {before after : Tree}
    {answer : Except Failure Unit} (apart : second.place before.home ≠ path.place before.home)
    (done : (disk.writeThrough path second content).run before = (answer, after))
    : answer = .ok () ∧ Replaces path second content before after
      ∨ (∃ failure, answer = .error failure)
        ∧ MayLose (second.place before.home) before after := by
  obtain ⟨published, middle, publishes, done⟩ := exists_of_run_bind done
  obtain ⟨writes, first, written, publishes⟩ := exists_of_run_bind publishes
  rcases change_cases second none (write second content) before with
    ⟨value, tree, succeeds, same⟩ | ⟨failure, same⟩
  · cases same.symm.trans written
    have clean := hasNull_of_change same
    rcases change_cases second (some path) (rename second path) first with
      ⟨value, tree, renamed, same⟩ | ⟨failure, same⟩
    · cases same.symm.trans publishes
      cases done
      exact .inl ⟨rfl, replaces_of_rename apart succeeds renamed⟩
    · cases same.symm.trans publishes
      obtain ⟨failed, rfl⟩ := of_cleaned done
      exact .inr ⟨failed, mayLose_written clean succeeds⟩
  · cases same.symm.trans written
    cases publishes
    obtain ⟨failed, rfl⟩ := of_cleaned done
    exact .inr ⟨failed, mayLose_discard second before⟩

end LiteralEnum.Files.Tree
