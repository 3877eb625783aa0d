import LiteralEnum.Files.Search
import LiteralEnum.Proofs.Files.Looking

/-! Searches in a tree. A search only looks, and it comes to an end unless one of the paths that
it looks at is too long.
-/

namespace LiteralEnum.Files

open Disk (Found)

variable {Value Other : Type}

namespace Tree

-----------------------------------------------------------------------------------------
-- Searches only look
-----------------------------------------------------------------------------------------

section

variable {relation : Tree → Tree → Prop} [IsPreorder Tree relation]

theorem relates_found_bind {search : Found (StateM Tree) Value}
    {next : Value → Found (StateM Tree) Other} (first : Relates relation search.run)
    (later : ∀ value, Relates relation (next value).run)
    : Relates relation (search >>= next).run := by
  rw [ExceptT.run_bind]
  refine first.bind ?_
  intro answer
  cases answer with
  | ok value => exact later value
  | error failure => exact .pure _

theorem relates_isKind (kind : Kind) (path : Path)
    : Relates relation (disk.isKind kind path).run := by
  refine relates_found_bind (relates_kind? path) ?_
  intro found
  exact .pure _

theorem relates_someAt (path : Path) : Relates relation (disk.someAt path).run := by
  refine relates_found_bind (relates_kind? path) ?_
  intro found
  exact .pure _

theorem relates_children (path : Path) : Relates relation (disk.children path).run := by
  refine relates_found_bind (relates_entries path) ?_
  intro names
  exact .pure _

/-- A test of paths one by one only looks if the test does, by induction on the paths. -/
theorem relates_keep {test : Path → Found (StateM Tree) Bool} (paths : List Path)
    (looks : ∀ path, Relates relation (test path).run)
    : Relates relation (Disk.keep test paths).run := by
  induction paths with
  | nil => exact .pure _
  | cons path rest ih =>
      refine relates_found_bind (looks path) ?_
      intro passes
      refine relates_found_bind ih ?_
      intro others
      exact .pure _

theorem relates_gather {search : Path → Found (StateM Tree) (List Path)} (paths : List Path)
    (looks : ∀ path, Relates relation (search path).run)
    : Relates relation (Disk.gather search paths).run := by
  induction paths with
  | nil => exact .pure _
  | cons path rest ih =>
      refine relates_found_bind (looks path) ?_
      intro found
      refine relates_found_bind ih ?_
      intro others
      exact .pure _

theorem relates_directories (depth : Nat) (path : Path)
    : Relates relation (disk.directories depth path).run := by
  induction depth generalizing path with
  | zero => exact .pure _
  | succ depth ih =>
      refine relates_found_bind (relates_children path) ?_
      intro all
      refine relates_found_bind (relates_keep all (relates_isKind .directory)) ?_
      intro inner
      refine relates_found_bind (relates_gather inner ih) ?_
      intro below
      exact .pure _

theorem relates_select (path : Path) (steps : List String)
    : Relates relation (disk.select path steps).run := by
  induction steps generalizing path with
  | nil => exact .pure _
  | cons step rest ih =>
      rw [Disk.select]
      split
      next => exact .pure _
      next =>
        split
        next =>
          refine relates_found_bind (relates_directories Disk.maxDepth path) ?_
          intro starts
          refine relates_found_bind (relates_gather starts ih) ?_
          intro found
          exact .pure _
        next =>
          split
          next =>
            refine relates_found_bind (relates_children path) ?_
            intro all
            split
            next => exact relates_gather _ ih
            next =>
              refine relates_found_bind (relates_keep all (relates_isKind .directory)) ?_
              intro candidates
              exact relates_gather _ ih
          next =>
            split
            next =>
              refine relates_found_bind (relates_someAt _) ?_
              intro isThere
              cases isThere with
              | true => exact ih _
              | false => exact .pure _
            next =>
              refine relates_found_bind (relates_isKind .directory _) ?_
              intro isThere
              cases isThere with
              | true => exact ih _
              | false => exact .pure _

/-- A search leaves the tree as it is. -/
theorem relates_search (path : Path) (pattern : String)
    : Relates relation (disk.search path pattern).run := by
  refine relates_found_bind (relates_select path _) ?_
  intro found
  refine relates_found_bind (relates_keep found (relates_isKind .file)) ?_
  intro files
  exact .pure _

end

/-- The name is one of those in the directory at the path. -/
def IsListed (tree : Tree) (path : Path) (name : String) : Prop :=
  ∃ names, (disk.entries path).run tree = (.ok names, tree) ∧ name ∈ names

/-- A search by steps from a path looks at another path: it follows the names that are steps,
those in a directory that match a step, and at two stars those of all directories below.
-/
inductive Visits (tree : Tree) : Path → List String → Path → Prop where
  | start (path : Path) (steps : List String) : Visits tree path steps path
  | named {path other : Path} {step : String} {rest : List String}
    (isName : isPattern step = false) (visits : Visits tree (path.child step) rest other)
    : Visits tree path (step :: rest) other
  | passed {path : Path} {step name : String} {rest : List String}
    (listed : IsListed tree path name) (further : rest ≠ [])
    : Visits tree path (step :: rest) (path.child name)
  | matched {path other : Path} {step name : String} {rest : List String}
    (listed : IsListed tree path name) (isMatch : matchesPattern step name = true)
    (visits : Visits tree (path.child name) rest other)
    : Visits tree path (step :: rest) other
  | deeper {path other : Path} {name : String} {rest : List String}
    (listed : IsListed tree path name) (visits : Visits tree (path.child name) ("**" :: rest) other)
    : Visits tree path ("**" :: rest) other
  | ended {path other : Path} {rest : List String} (visits : Visits tree path rest other)
    : Visits tree path ("**" :: rest) other

-----------------------------------------------------------------------------------------
-- Searches that come to an end
-----------------------------------------------------------------------------------------

/-- The search comes to an answer with the property, and leaves the tree as it is. -/
def Finds (tree : Tree) (search : Found (StateM Tree) Value) (property : Value → Prop) : Prop :=
  ∃ answer, search.run.run tree = (.ok answer, tree) ∧ property answer

variable {tree : Tree}

theorem Finds.pure {property : Value → Prop} {answer : Value} (holds : property answer)
    : Finds tree (Pure.pure answer) property :=
  ⟨answer, rfl, holds⟩

theorem Finds.bind {search : Found (StateM Tree) Value} {next : Value → Found (StateM Tree) Other}
    {property : Value → Prop} {goal : Other → Prop} (first : Finds tree search property)
    (later : ∀ value, property value → Finds tree (next value) goal)
    : Finds tree (search >>= next) goal := by
  obtain ⟨value, found, holds⟩ := first
  obtain ⟨answer, foundLater, reached⟩ := later value holds
  refine ⟨answer, ?_, reached⟩
  rw [ExceptT.run_bind, StateT.run_bind, found]
  exact foundLater

/-- A step that is one of two. -/
theorem Finds.bind_ite {condition : Prop} [Decidable condition]
    {first second : Found (StateM Tree) Value} {next : Value → Found (StateM Tree) Other}
    {property : Value → Prop} {goal : Other → Prop}
    (finds : Finds tree (if condition then first else second) property)
    (later : ∀ value, property value → Finds tree (next value) goal)
    : Finds tree (if condition then first >>= next else second >>= next) goal := by
  split at finds
  next holds =>
    rw [if_pos holds]
    exact finds.bind later
  next fails =>
    rw [if_neg fails]
    exact finds.bind later

theorem finds_isKind {path : Path} (isShort : IsShort path) (kind : Kind)
    : Finds tree (disk.isKind kind path) fun answer =>
        answer = true → (disk.kind? path).run tree = (.ok (some kind), tree) := by
  obtain ⟨found, looked⟩ := exists_kind? isShort tree
  refine .bind ⟨found, looked, rfl⟩ ?_
  rintro _ rfl
  refine .pure ?_
  intro same
  rw [looked, of_decide_eq_true same]

theorem finds_someAt {path : Path} (isShort : IsShort path)
    : Finds tree (disk.someAt path) fun _ => True := by
  obtain ⟨found, looked⟩ := exists_kind? isShort tree
  have finds : Finds tree (ExceptT.mk (disk.kind? path)) fun _ => True := ⟨found, looked, trivial⟩
  refine finds.bind ?_
  intro _ _
  exact .pure trivial

theorem finds_children {path : Path} (isDirectory : IsDirectoryAt tree path)
    : Finds tree (disk.children path) fun all =>
        ∀ child ∈ all, ∃ name, IsListed tree path name ∧ child = path.child name := by
  obtain ⟨names, listed⟩ := isDirectory.exists_entries
  refine .bind ⟨names, listed, rfl⟩ ?_
  rintro _ rfl
  refine .pure ?_
  intro child member
  obtain ⟨name, isName, same⟩ := List.mem_map.mp member
  exact ⟨name, ⟨_, listed, isName⟩, same.symm⟩

/-- Paths are tested one by one, by induction on them. -/
theorem finds_keep {test : Path → Found (StateM Tree) Bool} {property : Path → Prop}
    {paths : List Path}
    (tests : ∀ path ∈ paths, Finds tree (test path) fun passes => passes = true → property path)
    : Finds tree (Disk.keep test paths) fun kept => ∀ path ∈ kept, path ∈ paths ∧ property path := by
  induction paths with
  | nil => exact .pure (List.forall_mem_nil _)
  | cons path rest ih =>
      obtain ⟨test, tests⟩ := List.forall_mem_cons.mp tests
      refine .bind test ?_
      intro passes isFit
      refine .bind (ih tests) ?_
      intro others areFit
      have later : ∀ other ∈ others, other ∈ path :: rest ∧ property other := by
        intro other member
        obtain ⟨inRest, fits⟩ := areFit other member
        exact ⟨List.mem_cons_of_mem path inRest, fits⟩
      refine .pure ?_
      cases passes with
      | false => exact later
      | true => exact List.forall_mem_cons.mpr ⟨⟨List.mem_cons_self, isFit rfl⟩, later⟩

theorem finds_gather {search : Path → Found (StateM Tree) (List Path)} {property : Path → Prop}
    {paths : List Path}
    (searches
      : ∀ path ∈ paths, Finds tree (search path) fun found => ∀ other ∈ found, property other)
    : Finds tree (Disk.gather search paths) fun found => ∀ other ∈ found, property other := by
  induction paths with
  | nil => exact .pure (List.forall_mem_nil _)
  | cons path rest ih =>
      obtain ⟨first, searches⟩ := List.forall_mem_cons.mp searches
      refine .bind first ?_
      intro found areFit
      refine .bind (ih searches) ?_
      intro others othersFit
      exact .pure (List.forall_mem_append.mpr ⟨areFit, othersFit⟩)

/-- The directories below a directory are found, by induction on the depth. From each of them
the search goes on with what follows the two stars.
-/
theorem finds_directories {path : Path} {rest : List String} (depth : Nat)
    (isDirectory : IsDirectoryAt tree path)
    (areShort : ∀ other, Visits tree path ("**" :: rest) other → IsShort other)
    : Finds tree (disk.directories depth path) fun found =>
        ∀ start ∈ found,
          IsDirectoryAt tree start ∧ ∀ other, Visits tree start rest other → IsShort other := by
  -- Stated for the list of one, so that both cases of the depth can use it as it is.
  have here : ∀ start ∈ [path],
      IsDirectoryAt tree start ∧ ∀ other, Visits tree start rest other → IsShort other := by
    intro start member
    obtain rfl := List.mem_singleton.mp member
    exact ⟨isDirectory, fun other visits => areShort other visits.ended⟩
  induction depth generalizing path with
  | zero => exact .pure here
  | succ depth ih =>
      refine .bind (finds_children isDirectory) ?_
      intro all areChildren
      have below : ∀ child ∈ all, ∀ other, Visits tree child ("**" :: rest) other → IsShort other := by
        intro child member other visits
        obtain ⟨name, listed, rfl⟩ := areChildren child member
        exact areShort other (.deeper listed visits)
      refine .bind (finds_keep fun child member =>
        finds_isKind (below child member child (.start _ _)) .directory) ?_
      intro inner areInner
      refine .bind (finds_gather fun child member => ?_) fun found areFit =>
        .pure (List.forall_mem_cons.mpr ⟨here path (List.mem_singleton_self path), areFit⟩)
      obtain ⟨inAll, childDirectory⟩ := areInner child member
      refine ih childDirectory (below child inAll) ?_
      intro start isChild
      obtain rfl := List.mem_singleton.mp isChild
      exact ⟨childDirectory, fun other visits => below _ inAll other visits.ended⟩

theorem name_child (path : Path) (name : String) : (path.child name).name = name := by
  simp [Path.child, Path.name]

/-- The children of a directory where the steps go on, which must be directories themselves
unless the steps end there.
-/
theorem finds_candidates {path : Path} {step : String} {rest : List String} {all : List Path}
    (areChildren : ∀ child ∈ all, ∃ name, IsListed tree path name ∧ child = path.child name)
    (areShort : ∀ other, Visits tree path (step :: rest) other → IsShort other)
    : Finds tree (if rest.isEmpty then pure all else Disk.keep (disk.isKind .directory) all)
        fun candidates =>
          ∀ child ∈ candidates,
            (∃ name, IsListed tree path name ∧ child = path.child name)
            ∧ (rest ≠ [] → IsDirectoryAt tree child) := by
  split
  next ended =>
    refine .pure ?_
    intro child member
    exact ⟨areChildren child member, fun further => absurd (List.isEmpty_iff.mp ended) further⟩
  next further =>
    have further : rest ≠ [] := by simpa using further
    have tests : ∀ child ∈ all, Finds tree (disk.isKind .directory child) fun passes =>
        passes = true → IsDirectoryAt tree child := by
      intro child member
      obtain ⟨name, listed, rfl⟩ := areChildren child member
      exact finds_isKind (areShort _ (.passed listed further)) .directory
    obtain ⟨kept, found, areKept⟩ := finds_keep tests
    refine ⟨kept, found, ?_⟩
    intro child member
    obtain ⟨inAll, childDirectory⟩ := areKept child member
    exact ⟨areChildren child inAll, fun _ => childDirectory⟩

/-- A search that looks at short paths comes to an end, by induction on the steps. It finds
paths that it has looked at.
-/
theorem finds_select {path : Path} {steps : List String}
    (isDirectory : steps ≠ [] → IsDirectoryAt tree path)
    (areShort : ∀ other, Visits tree path steps other → IsShort other)
    : Finds tree (disk.select path steps) fun found => ∀ other ∈ found, IsShort other := by
  induction steps generalizing path with
  | nil =>
      refine .pure ?_
      intro other member
      obtain rfl := List.mem_singleton.mp member
      exact areShort other (.start other [])
  | cons step rest ih =>
      have here : IsDirectoryAt tree path := isDirectory (List.cons_ne_nil step rest)
      rw [Disk.select]
      split
      next =>
        refine .pure ?_
        intro other member
        obtain rfl := List.mem_singleton.mp member
        exact areShort other (.start other _)
      next =>
        split
        next same =>
          subst same
          -- At two stars the rest is searched for from every directory below.
          refine .bind (finds_directories Disk.maxDepth here areShort) ?_
          intro starts areStarts
          have gathered : Finds tree (Disk.gather (fun start => disk.select start rest) starts)
              fun found => ∀ other ∈ found, IsShort other := by
            refine finds_gather ?_
            intro start member
            obtain ⟨startDirectory, startShort⟩ := areStarts start member
            exact ih (fun _ => startDirectory) startShort
          refine gathered.bind ?_
          intro found areFit
          refine .pure ?_
          intro other member
          exact areFit other (List.mem_eraseDups.mp member)
        next =>
          split
          next =>
            refine .bind (finds_children here) ?_
            intro all areChildren
            refine .bind_ite (finds_candidates areChildren areShort) ?_
            intro candidates areCandidates
            refine finds_gather ?_
            intro child member
            obtain ⟨inCandidates, isMatch⟩ := List.mem_filter.mp member
            obtain ⟨⟨name, listed, rfl⟩, childDirectory⟩ := areCandidates child inCandidates
            rw [name_child] at isMatch
            exact ih childDirectory fun other visits => areShort other (.matched listed isMatch visits)
          next isName =>
            have isName : isPattern step = false := by simpa using isName
            have below : ∀ other, Visits tree (path.child step) rest other → IsShort other :=
              fun other visits => areShort other (.named isName visits)
            have childShort : IsShort (path.child step) := below _ (.start _ rest)
            -- A last name may be that of a file; any other must lead to a directory.
            have isThere : Finds tree
                (if rest.isEmpty then disk.someAt (path.child step)
                  else disk.isKind .directory (path.child step))
                fun answer =>
                  answer = true → rest ≠ [] → IsDirectoryAt tree (path.child step) := by
              split
              next ended =>
                obtain ⟨answer, found, -⟩ := finds_someAt childShort
                exact ⟨answer, found, fun _ further => absurd (List.isEmpty_iff.mp ended) further⟩
              next =>
                obtain ⟨answer, found, isFit⟩ := finds_isKind childShort .directory
                exact ⟨answer, found, fun same _ => isFit same⟩
            refine isThere.bind_ite ?_
            intro answer childDirectory
            cases answer with
            | true => exact ih (childDirectory rfl) below
            | false => exact .pure (List.forall_mem_nil _)

/-- A search in a directory comes to an end if the paths that it looks at are short. -/
theorem finds_search {path : Path} {pattern : String} (isDirectory : IsDirectoryAt tree path)
    (areShort : ∀ other, Visits tree path (searchSteps pattern) other → IsShort other)
    : Finds tree (disk.search path pattern) fun found => ∀ other ∈ found, IsShort other := by
  refine .bind (finds_select (fun _ => isDirectory) areShort) ?_
  intro found areFit
  refine .bind (finds_keep fun other member => finds_isKind (areFit other member) .file) ?_
  intro files areFiles
  refine .pure ?_
  intro other member
  have inFiles : other ∈ files := List.mem_mergeSort.mp member
  obtain ⟨inFound, -⟩ := areFiles other inFiles
  exact areFit other inFound

end Tree

end LiteralEnum.Files
