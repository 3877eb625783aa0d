import LiteralEnum.Proofs.Files.NewDirectories

/-! Writing a file through a second one, in a tree. Only the file and the second one are
touched, whether the writing succeeds or not, and where it succeeds the file holds the content.
-/

namespace LiteralEnum.Files.Tree

/-- Directories on the way take the place of no files. -/
theorem keepsFiles_makeDirectories (levels : Nat) (path : Path)
    : Relates (KeepsFiles []) (disk.makeDirectories levels path) :=
  fun tree => (addsDirectories_makeDirectories levels path tree).keepsFiles

theorem keepsFiles_publish (path second : Path) (content : Text.Bytes)
    : Relates (KeepsFiles [path, second]) (disk.publish path second content) := by
  refine .bind (Relates.mono (.change fun _ _ _ written => keepsFiles_write written) ?_) ?_
  · simp
  · intro written
    cases written with
    | error failure => exact .pure _
    | ok value =>
        have moved : Relates (KeepsFiles [second, path]) (disk.rename second path) := by
          refine .change ?_
          intro before value after renamed
          obtain ⟨node, -, -, keeps⟩ := rename_eq renamed
          exact keeps
        exact moved.mono (by simp)

theorem keepsFiles_discard (path : Path) : Relates (KeepsFiles [path]) (disk.discard path) :=
  .bind_result (.change fun _ _ _ removed => keepsFiles_remove removed) (fun _ => .pure _)
    (.pure _) (fun _ => .pure _)

/-- Writing through a second file touches the two files and no others. -/
theorem keepsFiles_writeThrough (path second : Path) (content : Text.Bytes)
    : Relates (KeepsFiles [path, second]) (disk.writeThrough path second content) := by
  refine .bind (keepsFiles_publish path second content) ?_
  intro published
  cases published with
  | ok value => exact .pure _
  | error failure =>
      refine .bind ((keepsFiles_discard second).mono (by simp)) ?_
      intro discarded
      cases discarded with
      | ok value => exact .pure _
      | error other => exact .pure _

theorem publish_stores {path second : Path} {content : Text.Bytes} {before after : Tree}
    (done : (disk.publish path second content).run before = (.ok (), after))
    : after.node? (path.place before.home) = some (.file content) := by
  obtain ⟨answer, middle, written, done⟩ := exists_of_run_bind done
  cases answer with
  | error failure => cases done
  | ok value =>
      obtain ⟨inner, rfl⟩ := write_eq (change_eq_ok written)
      obtain ⟨node, stands, moved, -⟩ := rename_eq (change_eq_ok done)
      have content : node = .file content :=
        Option.some.inj (stands.symm.trans (node?_put_self inner _))
      exact content ▸ moved

/-- A file that is written holds the content. -/
theorem writeThrough_stores {path second : Path} {content : Text.Bytes} {before after : Tree}
    (done : (disk.writeThrough path second content).run before = (.ok (), after))
    : after.node? (path.place before.home) = some (.file content) := by
  obtain ⟨answer, middle, published, done⟩ := exists_of_run_bind done
  cases answer with
  | ok value =>
      obtain ⟨-, rfl⟩ := Prod.mk.inj done
      exact publish_stores published
  | error failure =>
      -- What failed to be published is not answered with success, even if it is cleaned up.
      obtain ⟨discarded, last, -, done⟩ := exists_of_run_bind done
      cases discarded with
      | ok value => cases done
      | error other => cases done

-----------------------------------------------------------------------------------------
-- Paths without null characters
-----------------------------------------------------------------------------------------

variable {Value Other : Type}

/-- The operation is done, or the system says why it is not. -/
def IsAnswered (operation : StateM Tree (Except Failure Value)) : Prop :=
  ∀ tree, (operation.run tree).1 ≠ .error .nullCharacter

theorem IsAnswered.pure {answer : Except Failure Value} (isTold : answer ≠ .error .nullCharacter)
    : IsAnswered (Pure.pure answer : StateM Tree (Except Failure Value)) :=
  fun _ => isTold

theorem IsAnswered.bind {first : StateM Tree (Except Failure Value)}
    {next : Except Failure Value → StateM Tree (Except Failure Other)}
    (answered : IsAnswered first)
    (later : ∀ answer, answer ≠ .error .nullCharacter → IsAnswered (next answer))
    : IsAnswered (first >>= next) := by
  intro tree
  exact later _ (answered tree) _

/-- What follows an operation that is answered, by how it ended. -/
theorem IsAnswered.bind_result {first : StateM Tree (Except Failure Value)}
    {next : Except Failure Value → StateM Tree (Except Failure Other)}
    (answered : IsAnswered first) (done : ∀ value, IsAnswered (next (.ok value)))
    (failed : ∀ fault, IsAnswered (next (.error (.fault fault))))
    : IsAnswered (first >>= next) := by
  refine answered.bind ?_
  intro answer isTold
  cases answer with
  | ok value => exact done value
  | error failure =>
      cases failure with
      | nullCharacter => exact absurd rfl isTold
      | fault fault => exact failed fault

/-- An operation that is not answered had a path with a null character. -/
theorem hasNull_of_run {path : Path} {operation : StateM Tree (Except Failure Value)}
    {tree after : Tree} (answered : hasNull path = false → IsAnswered operation)
    (failed : operation.run tree = (.error .nullCharacter, after))
    : hasNull path = true := by
  by_contra clean
  have told := answered (Bool.eq_false_iff.mpr clean) tree
  rw [failed] at told
  exact told rfl

theorem isAnswered_change {path : Path} {target : Option Path} (clean : hasNull path = false)
    (targetClean : target.any hasNull = false) (operation : Change Value)
    : IsAnswered (change path target operation) := by
  intro tree
  change (change path target operation tree).1 ≠ _
  rw [change, clean, targetClean]
  cases operation tree with
  | ok done => simp
  | error code => simp

theorem isAnswered_kind? (path : Path) : IsAnswered (disk.kind? path) := by
  intro tree
  rw [run_kind?]
  split
  next => simp
  next =>
    dsimp only
    split
    next => simp
    next => split <;> simp

theorem isAnswered_settle (path : Path) (fault : Fault) : IsAnswered (disk.settle path fault) := by
  refine (isAnswered_kind? path).bind_result ?_ ?_
  · intro kind
    refine .pure ?_
    split <;> simp
  · intro fault
    exact .pure (by simp)

theorem isAnswered_makeLast {path : Path} (clean : hasNull path = false)
    : IsAnswered (disk.makeLast path) := by
  refine (isAnswered_change clean rfl _).bind_result (fun _ => .pure (by simp)) ?_
  intro fault
  dsimp only
  split
  next => exact .pure (by simp)
  next => exact isAnswered_settle path fault

theorem hasNull_parent {path : Path} (clean : hasNull path = false)
    : hasNull path.parent = false := by
  rw [hasNull, List.any_eq_false] at clean ⊢
  intro name member
  exact clean name (List.dropLast_subset path.parts member)

/-- Directories on the way have no other characters than the path, by induction on the levels. -/
theorem isAnswered_makeDirectories (levels : Nat) {path : Path} (clean : hasNull path = false)
    : IsAnswered (disk.makeDirectories levels path) := by
  induction levels generalizing path with
  | zero =>
      rw [Disk.makeDirectories]
      refine (isAnswered_change clean rfl _).bind_result (fun _ => .pure (by simp)) ?_
      intro fault
      dsimp only
      split
      next => exact isAnswered_settle path fault
      next => exact .pure (by simp)
  | succ levels ih =>
      rw [Disk.makeDirectories]
      refine (isAnswered_change clean rfl _).bind_result (fun _ => .pure (by simp)) ?_
      intro fault
      dsimp only
      split
      next => exact isAnswered_settle path fault
      next =>
        exact (ih (hasNull_parent clean)).bind_result (fun _ => isAnswered_makeLast clean)
          (fun _ => .pure (by simp))

theorem isAnswered_publish {path second : Path} (clean : hasNull path = false)
    (secondClean : hasNull second = false) (content : Text.Bytes)
    : IsAnswered (disk.publish path second content) := by
  refine (isAnswered_change secondClean rfl _).bind_result ?_ (fun _ => .pure (by simp))
  intro written
  have targetClean : (some path).any hasNull = false := clean
  exact isAnswered_change secondClean targetClean _

theorem isAnswered_discard {path : Path} (clean : hasNull path = false)
    : IsAnswered (disk.discard path) := by
  refine (isAnswered_change clean rfl _).bind_result (fun _ => .pure (by simp)) ?_
  intro fault
  refine .pure ?_
  split <;> simp

/-- Writing through a second file is answered if neither path has a null character. -/
theorem isAnswered_writeThrough {path second : Path} (clean : hasNull path = false)
    (secondClean : hasNull second = false) (content : Text.Bytes)
    : IsAnswered (disk.writeThrough path second content) := by
  refine (isAnswered_publish clean secondClean content).bind_result (fun _ => .pure (by simp)) ?_
  intro fault
  exact (isAnswered_discard secondClean).bind_result (fun _ => .pure (by simp))
    (fun _ => .pure (by simp))

end LiteralEnum.Files.Tree
