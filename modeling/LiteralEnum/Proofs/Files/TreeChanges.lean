import LiteralEnum.Files.Atomic
import LiteralEnum.Files.Tree
import Mathlib.Data.List.Basic
import Mathlib.Order.Defs.Unbundled

/-! What operations change in a tree of files. An operation touches the files at the places of
the paths it is given and no others, and a file that is written stands where its path leads.
-/

namespace LiteralEnum.Files

/-- The place one name further. Two dots lead back. -/
def Place.next (place : Place) (name : String) : Place :=
  if name = ".." then place.dropLast else place ++ [name]

/-- The place that a path leads to, whatever is on its way. -/
def Path.place (home : Place) (path : Path) : Place :=
  path.steps.foldl Place.next (if path.root = "" then home else [])

namespace Tree

/-- Names that can be followed lead from place to place, by induction on the names. -/
theorem follow_eq {tree : Tree} {start found : Place} {names : List String}
    (followed : tree.follow start names = .ok found)
    : found = names.foldl Place.next start := by
  induction names generalizing start with
  | nil => exact (Except.ok.inj followed).symm
  | cons name rest ih =>
      rw [follow] at followed
      split at followed
      next => cases followed
      next => cases followed
      next =>
        split at followed
        next => cases followed
        next => exact ih followed

/-- A path that can be followed leads to its place. -/
theorem locate_eq {tree : Tree} {path : Path} {place : Place}
    (located : tree.locate path = .ok place)
    : place = path.place tree.home := by
  rw [locate] at located
  split at located
  next => cases located
  next => exact follow_eq located

/-- What succeeds has succeeded at each step. -/
theorem exists_of_bind {Value Result : Type} {first : Except ErrorCode Value}
    {next : Value → Except ErrorCode Result} {result : Result}
    (done : (first >>= next) = .ok result)
    : ∃ value, first = .ok value ∧ next value = .ok result := by
  cases first with
  | error code => cases done
  | ok value => exact ⟨value, rfl, done⟩

/-- What is found at a path is what stands at its place. -/
theorem look_eq {tree : Tree} {path : Path} {place : Place} {node : Node}
    (found : tree.look path = .ok (place, node))
    : place = path.place tree.home ∧ tree.node? place = some node := by
  obtain ⟨other, located, found⟩ := exists_of_bind found
  split at found
  next stands =>
    obtain ⟨rfl, rfl⟩ := Prod.mk.inj (Except.ok.inj found)
    exact ⟨locate_eq located, stands⟩
  next => cases found

/-- Taking away the entries of one place leaves the others, by induction on the entries. -/
theorem lookup_filter_ne {place other : Place} (apart : other ≠ place)
    (nodes : List (Place × Node))
    : (nodes.filter (·.1 ≠ place)).lookup other = nodes.lookup other := by
  induction nodes with
  | nil => rfl
  | cons entry rest ih =>
      obtain ⟨here, node⟩ := entry
      by_cases same : here = place
      · subst same
        have absent : (other == here) = false := beq_eq_false_iff_ne.mpr apart
        simpa [List.lookup_cons, absent] using ih
      · simp only [List.filter_cons, same, ne_eq, not_false_eq_true, decide_true, if_true,
          List.lookup_cons]
        split
        next => rfl
        next => exact ih

theorem node?_put_self {tree : Tree} {place : Place} (inner : place ≠ []) (node : Node)
    : (tree.put place node).node? place = some node := by
  simp [node?, put, inner]

theorem node?_erase_of_ne {tree : Tree} {place other : Place} (apart : other ≠ place)
    : (tree.erase place).node? other = tree.node? other := by
  simp only [node?, erase, lookup_filter_ne apart]

theorem node?_put_of_ne {tree : Tree} {place other : Place} (apart : other ≠ place) (node : Node)
    : (tree.put place node).node? other = tree.node? other := by
  have absent : (other == place) = false := beq_eq_false_iff_ne.mpr apart
  simp only [node?, put, List.lookup_cons, absent, lookup_filter_ne apart]

/-- The root stays a directory. -/
theorem ne_nil_of_node? {tree : Tree} {place : Place}
    (free : tree.node? place ≠ some .directory)
    : place ≠ [] := by
  intro same
  subst same
  exact free rfl

end Tree

-----------------------------------------------------------------------------------------
-- Files that are kept
-----------------------------------------------------------------------------------------

/-- Beside the places of the paths there are the same files before and after. -/
structure KeepsFiles (paths : List Path) (before after : Tree) : Prop where
  home : after.home = before.home
  files
    : ∀ place,
        (∀ path ∈ paths, place ≠ path.place before.home)
        → ∀ content,
            after.node? place = some (.file content) ↔ before.node? place = some (.file content)

instance (paths : List Path) : IsPreorder Tree (KeepsFiles paths) where
  refl _ := ⟨rfl, fun _ _ _ => Iff.rfl⟩
  trans before middle after first second := by
    refine ⟨second.home.trans first.home, ?_⟩
    intro place beside content
    have stillBeside : ∀ path ∈ paths, place ≠ path.place middle.home := by
      rw [first.home]
      exact beside
    exact (second.files place stillBeside content).trans (first.files place beside content)

/-- More paths leave fewer places to be kept. -/
theorem KeepsFiles.mono {paths more : List Path} {before after : Tree}
    (keeps : KeepsFiles paths before after) (subset : paths ⊆ more)
    : KeepsFiles more before after := by
  refine ⟨keeps.home, ?_⟩
  intro place beside content
  exact keeps.files place (fun path member => beside path (subset member)) content

namespace Tree

/-- A file is written at the place of its path. -/
theorem write_eq {path : Path} {content : Text.Bytes} {before after : Tree} {value : Unit}
    (written : write path content before = .ok (value, after))
    : path.place before.home ≠ []
      ∧ after = before.put (path.place before.home) (.file content) := by
  obtain ⟨place, located, written⟩ := exists_of_bind written
  obtain rfl := locate_eq located
  split at written
  next => cases written
  next free =>
    split at written
    next =>
      obtain ⟨-, rfl⟩ := Prod.mk.inj (Except.ok.inj written)
      exact ⟨ne_nil_of_node? free, rfl⟩
    next => cases written

theorem keepsFiles_write {path : Path} {content : Text.Bytes} {before after : Tree} {value : Unit}
    (written : write path content before = .ok (value, after))
    : KeepsFiles [path] before after := by
  obtain ⟨-, rfl⟩ := write_eq written
  refine ⟨rfl, ?_⟩
  intro place beside other
  rw [node?_put_of_ne (beside path (List.mem_singleton_self path))]

/-- What was at the first path is at the second, and nothing else has moved. -/
theorem rename_eq {path target : Path} {before after : Tree} {value : Unit}
    (renamed : rename path target before = .ok (value, after))
    : ∃ node,
        before.node? (path.place before.home) = some node
        ∧ after.node? (target.place before.home) = some node
        ∧ KeepsFiles [path, target] before after := by
  obtain ⟨⟨source, node⟩, found, renamed⟩ := exists_of_bind renamed
  obtain ⟨rfl, stands⟩ := look_eq found
  obtain ⟨place, located, renamed⟩ := exists_of_bind renamed
  obtain rfl := locate_eq located
  refine ⟨node, stands, ?_⟩
  split at renamed
  next => cases renamed
  next =>
    split at renamed
    next => cases renamed
    next free =>
      split at renamed
      next same =>
        obtain ⟨-, rfl⟩ := Prod.mk.inj (Except.ok.inj renamed)
        exact ⟨same ▸ stands, refl_of _ _⟩
      next =>
        obtain ⟨-, rfl⟩ := Prod.mk.inj (Except.ok.inj renamed)
        refine ⟨node?_put_self (ne_nil_of_node? free) node, rfl, ?_⟩
        intro other beside content
        have notTarget := beside target (by simp)
        have notSource := beside path (by simp)
        rw [node?_put_of_ne notTarget, node?_erase_of_ne notSource]

theorem keepsFiles_remove {path : Path} {before after : Tree} {value : Unit}
    (removed : remove path before = .ok (value, after))
    : KeepsFiles [path] before after := by
  obtain ⟨⟨place, node⟩, found, removed⟩ := exists_of_bind removed
  obtain ⟨rfl, -⟩ := look_eq found
  cases node with
  | directory => cases removed
  | file content =>
      obtain ⟨-, rfl⟩ := Prod.mk.inj (Except.ok.inj removed)
      refine ⟨rfl, ?_⟩
      intro other beside bytes
      rw [node?_erase_of_ne (beside path (List.mem_singleton_self path))]

end Tree

-----------------------------------------------------------------------------------------
-- Steps of operations
-----------------------------------------------------------------------------------------

variable {Value Other : Type}

/-- Whatever the answer is, the tree after is related to the tree before. -/
def Relates (relation : Tree → Tree → Prop) (action : StateM Tree Value) : Prop :=
  ∀ tree, relation tree (action.run tree).2

/-- A run of two steps goes over the tree between them. -/
theorem exists_of_run_bind {action : StateM Tree Value} {next : Value → StateM Tree Other}
    {before after : Tree} {result : Other}
    (done : (action >>= next).run before = (result, after))
    : ∃ value middle,
        action.run before = (value, middle) ∧ (next value).run middle = (result, after) :=
  ⟨_, _, rfl, done⟩

section

variable {relation : Tree → Tree → Prop} [IsPreorder Tree relation]

theorem Relates.pure (value : Value) : Relates relation (Pure.pure value : StateM Tree Value) :=
  fun tree => refl_of relation tree

theorem Relates.bind {action : StateM Tree Value} {next : Value → StateM Tree Other}
    (first : Relates relation action) (later : ∀ value, Relates relation (next value))
    : Relates relation (action >>= next) := by
  intro tree
  exact trans_of relation (first tree) (later _ _)

/-- What follows an operation, by how it ended. -/
theorem Relates.bind_result {action : StateM Tree (Except Failure Value)}
    {next : Except Failure Value → StateM Tree Other} (first : Relates relation action)
    (done : ∀ value, Relates relation (next (.ok value)))
    (null : Relates relation (next (.error .nullCharacter)))
    (failed : ∀ fault, Relates relation (next (.error (.fault fault))))
    : Relates relation (action >>= next) := by
  refine first.bind ?_
  intro result
  cases result with
  | ok value => exact done value
  | error failure =>
      cases failure with
      | nullCharacter => exact null
      | fault fault => exact failed fault

/-- An answer of an operation is the answer of its change. -/
theorem Tree.change_eq_ok {path : Path} {target : Option Path} {operation : Tree.Change Value}
    {before after : Tree} {value : Value}
    (done : Tree.change path target operation before = (.ok value, after))
    : operation before = .ok (value, after) := by
  rw [Tree.change] at done
  split at done
  next => cases done
  next =>
    split at done
    next result next succeeded =>
      obtain ⟨answer, rfl⟩ := Prod.mk.inj done
      exact Except.ok.inj answer ▸ succeeded
    next => cases done

/-- An operation changes the tree only where it succeeds. -/
theorem Relates.change {path : Path} {target : Option Path} {operation : Tree.Change Value}
    (succeeds
      : ∀ before value after, operation before = .ok (value, after) → relation before after)
    : Relates relation (Tree.change path target operation) := by
  intro tree
  change relation tree (Tree.change path target operation tree).2
  rw [Tree.change]
  split
  next => exact refl_of relation tree
  next =>
    split
    next value next done => exact succeeds tree value next done
    next => exact refl_of relation tree

end

theorem Relates.mono {paths more : List Path} {action : StateM Tree Value}
    (keeps : Relates (KeepsFiles paths) action) (subset : paths ⊆ more)
    : Relates (KeepsFiles more) action :=
  fun tree => (keeps tree).mono subset

end LiteralEnum.Files
