import LiteralEnum.Proofs.Files.Replacing

/-! What an operation depends on. An operation sees the places on the ways of its paths and no
others, so in two trees that agree at these places it has one answer and leaves trees that agree.
-/

namespace LiteralEnum.Files

/-- Two trees with the same nodes at some places. -/
structure AgreeAt (home : Place) (places : List Place) (left right : Tree) : Prop where
  leftHome : left.home = home
  rightHome : right.home = home
  nodes : ∀ place ∈ places, left.node? place = right.node? place

namespace AgreeAt

variable {home : Place} {places fewer : List Place} {left middle right : Tree}

theorem refl {tree : Tree} (isHome : tree.home = home) (places : List Place)
    : AgreeAt home places tree tree :=
  ⟨isHome, isHome, fun _ _ => rfl⟩

theorem symm (agree : AgreeAt home places left right) : AgreeAt home places right left :=
  ⟨agree.rightHome, agree.leftHome, fun place member => (agree.nodes place member).symm⟩

theorem trans (first : AgreeAt home places left middle) (second : AgreeAt home places middle right)
    : AgreeAt home places left right :=
  ⟨first.leftHome, second.rightHome,
    fun place member => (first.nodes place member).trans (second.nodes place member)⟩

theorem mono (agree : AgreeAt home places left right) (subset : fewer ⊆ places)
    : AgreeAt home fewer left right :=
  ⟨agree.leftHome, agree.rightHome, fun place member => agree.nodes place (subset member)⟩

theorem put (agree : AgreeAt home places left right) (place : Place) (node : Node)
    : AgreeAt home places (left.put place node) (right.put place node) := by
  refine ⟨agree.leftHome, agree.rightHome, fun other member => ?_⟩
  by_cases same : other = place
  · subst same
    simp [Tree.node?, Tree.put]
  · rw [Tree.node?_put_of_ne same, Tree.node?_put_of_ne same]
    exact agree.nodes other member

theorem erase (agree : AgreeAt home places left right) (place : Place)
    : AgreeAt home places (left.erase place) (right.erase place) := by
  refine ⟨agree.leftHome, agree.rightHome, fun other member => ?_⟩
  by_cases same : other = place
  · subst same
    by_cases inner : other = []
    · simp [Tree.node?, inner]
    · rw [Tree.node?_erase_self inner, Tree.node?_erase_self inner]
  · rw [Tree.node?_erase_of_ne same, Tree.node?_erase_of_ne same]
    exact agree.nodes other member

end AgreeAt

variable {home : Place} {places : List Place} {Value Other : Type}

/-- In related trees an action has one answer and leaves related trees. -/
def Respects (relation : Tree → Tree → Prop) (action : StateM Tree Value) : Prop :=
  ∀ left right, relation left right →
    (action.run left).1 = (action.run right).1
    ∧ relation (action.run left).2 (action.run right).2

section

variable {relation : Tree → Tree → Prop}

theorem Respects.pure (value : Value) : Respects relation (Pure.pure value : StateM Tree Value) :=
  fun _ _ related => ⟨rfl, related⟩

theorem Respects.bind {action : StateM Tree Value} {next : Value → StateM Tree Other}
    (first : Respects relation action) (later : ∀ value, Respects relation (next value))
    : Respects relation (action >>= next) := by
  intro left right related
  obtain ⟨same, goesOn⟩ := first left right related
  rw [StateT.run_bind, StateT.run_bind]
  change ((next (action.run left).1).run (action.run left).2).1
      = ((next (action.run right).1).run (action.run right).2).1
    ∧ relation ((next (action.run left).1).run (action.run left).2).2
        ((next (action.run right).1).run (action.run right).2).2
  rw [same]
  exact later _ _ _ goesOn

end

/-- A change of a tree sees and changes the places only. -/
def IsLocalChange (home : Place) (places : List Place) (operation : Tree.Change Value) : Prop :=
  ∀ left right, AgreeAt home places left right →
    (∃ code, operation left = .error code ∧ operation right = .error code)
    ∨ ∃ value leftAfter rightAfter,
        operation left = .ok (value, leftAfter) ∧ operation right = .ok (value, rightAfter)
        ∧ AgreeAt home places leftAfter rightAfter

theorem Respects.change {operation : Tree.Change Value}
    (isLocal : IsLocalChange home places operation) (path : Path) (target : Option Path)
    : Respects (AgreeAt home places) (Tree.change path target operation) := by
  intro left right agree
  change (Tree.change path target operation left).1 = (Tree.change path target operation right).1
    ∧ AgreeAt home places (Tree.change path target operation left).2
        (Tree.change path target operation right).2
  rw [Tree.change, Tree.change]
  split
  next => exact ⟨rfl, agree⟩
  next =>
    rcases isLocal left right agree with
      ⟨code, atLeft, atRight⟩ | ⟨value, _, _, atLeft, atRight, after⟩
    · rw [atLeft, atRight]
      exact ⟨rfl, agree⟩
    · rw [atLeft, atRight]
      exact ⟨rfl, after⟩

-----------------------------------------------------------------------------------------
-- Changes
-----------------------------------------------------------------------------------------

namespace AgreeAt

variable {left right : Tree} {path : Path} (agree : AgreeAt home places left right)
  (onWay : path.way home ⊆ places)

include agree onWay

theorem locate : left.locate path = right.locate path := by
  refine Tree.locate_congr (agree.leftHome.trans agree.rightHome.symm) ?_
  rw [agree.rightHome]
  exact fun place member => agree.nodes place (onWay (List.dropLast_subset _ member))

/-- The path leads to the same place, where the same node stands. -/
theorem node?_located {place : Place} (located : right.locate path = .ok place)
    : left.node? place = right.node? place := by
  obtain rfl := Tree.locate_eq located
  rw [agree.rightHome]
  exact agree.nodes _ (onWay (path.place_mem_way home))

theorem look : left.look path = right.look path := by
  rw [Tree.look, Tree.look, agree.locate onWay]
  cases located : right.locate path with
  | error code => rfl
  | ok place =>
      simp only [bind, Except.bind]
      rw [agree.node?_located onWay located]

end AgreeAt

namespace Tree

variable {path target : Path} (onWay : path.way home ⊆ places)

include onWay

theorem isLocal_kind : IsLocalChange home places (kind path) := by
  intro left right agree
  rw [kind, kind, agree.look onWay]
  cases right.look path with
  | error code => exact .inl ⟨code, rfl, rfl⟩
  | ok found => exact .inr ⟨_, left, right, rfl, rfl, agree⟩

theorem isLocal_read : IsLocalChange home places (read path) := by
  intro left right agree
  rw [read, read, agree.look onWay]
  cases right.look path with
  | error code => exact .inl ⟨code, rfl, rfl⟩
  | ok found =>
      obtain ⟨place, node⟩ := found
      cases node with
      | directory => exact .inl ⟨_, rfl, rfl⟩
      | file content => exact .inr ⟨_, left, right, rfl, rfl, agree⟩

theorem isLocal_makeDirectory : IsLocalChange home places (makeDirectory path) := by
  intro left right agree
  rw [makeDirectory, makeDirectory, agree.locate onWay]
  cases located : right.locate path with
  | error code => exact .inl ⟨code, rfl, rfl⟩
  | ok place =>
      simp only [bind, Except.bind]
      rw [agree.node?_located onWay located]
      cases right.node? place with
      | some node => exact .inl ⟨_, rfl, rfl⟩
      | none => exact .inr ⟨(), _, _, rfl, rfl, agree.put place .directory⟩

/-- A file is written in the directory around its place. -/
theorem isLocal_write (around : (path.place home).dropLast ∈ places) (content : Text.Bytes)
    : IsLocalChange home places (write path content) := by
  intro left right agree
  rw [write, write, agree.locate onWay]
  cases located : right.locate path with
  | error code => exact .inl ⟨code, rfl, rfl⟩
  | ok place =>
      have same : left.hasParent place = right.hasParent place := by
        obtain rfl := locate_eq located
        rw [hasParent, hasParent, agree.rightHome, agree.nodes _ around]
      simp only [bind, Except.bind]
      rw [agree.node?_located onWay located, same]
      split
      next => exact .inl ⟨_, rfl, rfl⟩
      next =>
        split
        next => exact .inr ⟨(), _, _, rfl, rfl, agree.put place _⟩
        next => exact .inl ⟨_, rfl, rfl⟩

theorem isLocal_rename (targetOnWay : target.way home ⊆ places)
    : IsLocalChange home places (rename path target) := by
  intro left right agree
  rw [rename, rename, agree.look onWay, agree.locate targetOnWay]
  cases right.look path with
  | error code => exact .inl ⟨code, rfl, rfl⟩
  | ok found =>
      obtain ⟨source, node⟩ := found
      simp only [bind, Except.bind]
      cases located : right.locate target with
      | error code => exact .inl ⟨code, rfl, rfl⟩
      | ok place =>
          dsimp only
          rw [agree.node?_located targetOnWay located]
          split
          next => exact .inl ⟨_, rfl, rfl⟩
          next =>
            split
            next => exact .inl ⟨_, rfl, rfl⟩
            next =>
              split
              next => exact .inr ⟨(), _, _, rfl, rfl, agree⟩
              next => exact .inr ⟨(), _, _, rfl, rfl, (agree.erase source).put place node⟩

theorem isLocal_remove : IsLocalChange home places (remove path) := by
  intro left right agree
  rw [remove, remove, agree.look onWay]
  cases right.look path with
  | error code => exact .inl ⟨code, rfl, rfl⟩
  | ok found =>
      obtain ⟨place, node⟩ := found
      cases node with
      | directory => exact .inl ⟨_, rfl, rfl⟩
      | file content => exact .inr ⟨(), _, _, rfl, rfl, agree.erase place⟩

-----------------------------------------------------------------------------------------
-- Operations
-----------------------------------------------------------------------------------------

theorem respects_kind? : Respects (AgreeAt home places) (disk.kind? path) := by
  refine .bind (.change (isLocal_kind onWay) path none) fun answer => ?_
  split
  next => exact .pure _
  next => exact .pure _

theorem respects_settle (fault : Fault)
    : Respects (AgreeAt home places) (disk.settle path fault) := by
  refine .bind (respects_kind? onWay) fun answer => ?_
  split
  next => exact .pure _
  next => exact .pure _

theorem respects_makeLast : Respects (AgreeAt home places) (disk.makeLast path) := by
  refine .bind (.change (isLocal_makeDirectory onWay) path none) fun answer => ?_
  split
  next fault =>
    split
    next => exact .pure _
    next => exact respects_settle onWay fault
  next => exact .pure _

omit onWay in
/-- Directories are made on the way of the path, by induction on the levels. -/
theorem respects_makeDirectories (levels : Nat) {path : Path} (onWay : path.way home ⊆ places)
    : Respects (AgreeAt home places) (disk.makeDirectories levels path) := by
  induction levels generalizing path with
  | zero =>
      rw [Disk.makeDirectories]
      refine .bind (.change (isLocal_makeDirectory onWay) path none) fun answer => ?_
      split
      next fault =>
        split
        next => exact respects_settle onWay fault
        next => exact .pure _
      next => exact .pure _
  | succ levels ih =>
      rw [Disk.makeDirectories]
      refine .bind (.change (isLocal_makeDirectory onWay) path none) fun answer => ?_
      split
      next fault =>
        split
        next => exact respects_settle onWay fault
        next =>
          refine .bind (ih (List.Subset.trans (path.way_parent_subset home) onWay)) fun answer => ?_
          split
          next => exact respects_makeLast onWay
          next => exact .pure _
      next => exact .pure _

theorem respects_read : Respects (AgreeAt home places) (disk.read path) :=
  .change (isLocal_read onWay) path none

theorem respects_discard : Respects (AgreeAt home places) (disk.discard path) := by
  refine .bind (.change (isLocal_remove onWay) path none) fun answer => ?_
  split
  next => exact .pure _
  next => exact .pure _

theorem respects_writeThrough {second : Path} (secondOnWay : second.way home ⊆ places)
    (around : (second.place home).dropLast ∈ places) (content : Text.Bytes)
    : Respects (AgreeAt home places) (disk.writeThrough path second content) := by
  refine .bind (.bind (.change (isLocal_write secondOnWay around content) second none)
    fun answer => ?_) fun answer => ?_
  · split
    next => exact .pure _
    next => exact .change (isLocal_rename secondOnWay onWay) second (some path)
  · split
    next => exact .pure _
    next =>
      refine .bind (respects_discard secondOnWay) fun answer => ?_
      split
      next => exact .pure _
      next => exact .pure _

end Tree

end LiteralEnum.Files
