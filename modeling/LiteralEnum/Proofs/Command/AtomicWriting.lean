import LiteralEnum.Proofs.Command.Attempts
import LiteralEnum.Proofs.Files.Names
import LiteralEnum.Proofs.Files.Replacing

/-! Writing a file as a whole or not at all. The file holds the text and its directories are there,
or the writing is refused and nothing new is in the tree but some of these directories.
-/

namespace LiteralEnum.Command.Generate

open Files Files.Tree

-----------------------------------------------------------------------------------------
-- The second file
-----------------------------------------------------------------------------------------

/-- The second file has one name more than the parent. The name of the file is the same without its
ending, or it is no name.
-/
theorem exists_last_name {path second : Path} (named : secondPath? path = some second)
    : ∃ last : String,
        second.root = path.root
        ∧ second.steps = path.parent.steps ++ [last ++ ".tmp"]
        ∧ (path.steps = path.parent.steps ∨ path.steps = path.parent.steps ++ [last]) := by
  rw [secondPath?, Path.withName?] at named
  split at named
  next => cases named
  next single =>
    obtain rfl := Option.some.inj named
    simp only [not_or, not_not] at single
    obtain ⟨isNamed, -, -, single⟩ := single
    have slash : '/' ∉ ".tmp".toList := by decide
    obtain ⟨front, last, short, long⟩ := Text.exists_splitAt_append slash path.name.toList
    have isName : last ++ ".tmp".toList ≠ [] ∧ last ++ ".tmp".toList ≠ ['.'] := by
      constructor
      · simp
      · intro same
        have size := congrArg List.length same
        simp at size
    rw [String.toList_append, Path.names_eq long, if_pos isName, List.length_append,
      List.length_map, List.length_singleton] at single
    have noNames : front.filter (fun name => name ≠ [] ∧ name ≠ ['.']) = [] :=
      List.length_eq_zero_iff.mp (by omega)
    refine ⟨String.ofList last, rfl, ?_, ?_⟩
    · rw [Path.steps_child, String.toList_append, Path.names_eq long, if_pos isName, noNames]
      simp
    · have steps : path.steps = path.parent.steps ++ Path.names path.name.toList := by
        rw [← Path.steps_child, Path.child_name isNamed]
      rw [steps, Path.names_eq short, noNames]
      split
      · exact .inr rfl
      · exact .inl (List.append_nil _)

/-- A name without a slash has a second one. -/
theorem mem_of_secondPath?_eq_none {path : Path} (isNamed : path.name ≠ "")
    (nameless : secondPath? path = none) : '/' ∈ path.name.toList := by
  by_contra free
  have free : '/' ∉ (path.name ++ ".tmp").toList := by
    rw [String.toList_append]
    simpa using free
  have isName : (path.name ++ ".tmp").toList ≠ [] ∧ (path.name ++ ".tmp").toList ≠ ['.'] := by
    rw [String.toList_append]
    constructor
    · simp
    · intro same
      have size := congrArg List.length same
      simp at size
  rw [secondPath?, Path.withName?_of_not_mem isNamed free isName] at nameless
  cases nameless

/-- The second file is one place behind the way to the parent. -/
theorem second_way {path second : Path} (named : secondPath? path = some second) (home : Place)
    : ∃ last : String,
        second.way home = path.parent.way home ++ [path.parent.place home ++ [last ++ ".tmp"]]
        ∧ second.place home = path.parent.place home ++ [last ++ ".tmp"]
        ∧ (path.place home = path.parent.place home
          ∨ path.place home = (path.parent.place home).next last) := by
  obtain ⟨last, root, steps, same⟩ := exists_last_name named
  have parentRoot : path.parent.root = path.root := rfl
  have ending : last ++ ".tmp" ≠ ".." := by
    intro dots
    have last := congrArg (·.toList.getLast?) dots
    simp [String.toList_append] at last
  have next : Place.next (path.parent.place home) (last ++ ".tmp")
      = path.parent.place home ++ [last ++ ".tmp"] := if_neg ending
  refine ⟨last, ?_, ?_, same.imp (fun same => ?_) (fun same => ?_)⟩
  · rw [Path.way, root, steps, Place.through_concat, ← next]
    rfl
  · rw [Path.place, root, steps, List.foldl_append, ← next]
    rfl
  · rw [Path.place, same]
    rfl
  · rw [Path.place, same, List.foldl_append]
    rfl

/-- The file and the second one have two places. -/
theorem place_ne_second {path second : Path} (named : secondPath? path = some second)
    (home : Place) : path.place home ≠ second.place home := by
  obtain ⟨last, -, secondPlace, same | same⟩ := second_way named home
  · rw [same, secondPlace]
    simp
  · rw [same, secondPlace, Place.next]
    split
    · intro equal
      have size := congrArg List.length equal
      rw [List.length_dropLast, List.length_append] at size
      simp at size
    · intro equal
      have equal := List.append_cancel_left equal
      have size := congrArg (fun names => (names.headD "").toList.length) equal
      simp [String.toList_append] at size

-----------------------------------------------------------------------------------------
-- The tree after the writing
-----------------------------------------------------------------------------------------

/-- The node is the same before and after, or it is a new directory on the way to the parent. -/
def IsKept (path : Path) (before after : Tree) (place : Place) : Prop :=
  after.node? place = before.node? place
  ∨ place ∈ path.parent.way before.home ∧ before.node? place = none
    ∧ after.node? place = some .directory

/-- The file holds the content, its directories are there, the second file is not, and everything
else is the same.
-/
structure IsWritten (path : Path) (content : Text.Bytes) (before after : Tree) : Prop where
  home : after.home = before.home
  stores : after.node? (path.place before.home) = some (.file content)
  noSecond : ∀ second ∈ secondPath? path, after.node? (second.place before.home) = none
  parents : ∀ place ∈ path.parent.way before.home, after.node? place = some .directory
  others
    : ∀ place, place ≠ path.place before.home
        → (∀ second ∈ secondPath? path, place ≠ second.place before.home)
        → IsKept path before after place

/-- What was at the path is still there, and nothing is new but directories on the way to the
parent. At most what has the second name is missing.
-/
structure IsSpared (path : Path) (before after : Tree) : Prop where
  home : after.home = before.home
  stands
    : ∀ node,
        before.node? (path.place before.home) = some node
        → after.node? (path.place before.home) = some node
  nothingNew
    : ∀ place node,
        after.node? place = some node
        → before.node? place = some node
          ∨ place ∈ path.parent.way before.home ∧ before.node? place = none ∧ node = .directory
  others
    : ∀ place, (∀ second ∈ secondPath? path, place ≠ second.place before.home)
        → IsKept path before after place

/-- The system refuses the writing, or the path is one that no file can have. -/
def IsRefusal (path : Path) : Except Escape (Except Failure Unit) → Prop
  | .ok (.ok ()) => False
  | .ok (.error (.fault _)) => True
  | .ok (.error .nullCharacter) => hasNull path = true
  | .error _ => '/' ∈ path.name.toList

theorem isRefusal_of_writing {path : Path} (isNamed : path.name ≠ "") {text : String}
    {before after : World} {ending : Except Escape (Except Failure Unit)}
    (writing : Writing path text before ending after) (failed : ending ≠ .ok (.ok ()))
    : IsRefusal path ending := by
  cases writing with
  | done => exact absurd rfl failed
  | refused => trivial
  | null hasNull => exact hasNull
  | nameless nameless => exact mem_of_secondPath?_eq_none isNamed nameless

variable {path second : Path} {before middle after : Tree}

/-- New directories take the place of nothing. -/
theorem isSpared_of_adds (adds : AddsDirectories path.parent before after)
    : IsSpared path before after := by
  refine ⟨adds.home, fun node => adds.node?_eq, fun place node stands => ?_,
    fun place _ => adds.nodes place⟩
  rcases adds.nodes place with same | ⟨onWay, none, directory⟩
  · exact .inl (same ▸ stands)
  · exact .inr ⟨onWay, none, Option.some.inj (stands.symm.trans directory)⟩

/-- After the directories the second file is lost at most. -/
theorem isSpared_of_mayLose (named : secondPath? path = some second)
    (adds : AddsDirectories path.parent before middle)
    (loses : MayLose (second.place middle.home) middle after) : IsSpared path before after := by
  have spared := isSpared_of_adds adds
  rw [adds.home] at loses
  refine ⟨loses.home.trans adds.home, fun node stands => ?_, fun place node stands => ?_,
    fun place beside => ?_⟩
  · rw [loses.others _ (place_ne_second named _)]
    exact spared.stands node stands
  · refine spared.nothingNew place node ?_
    by_cases isSecond : place = second.place before.home
    · subst isSecond
      rcases loses.here with same | ⟨-, gone⟩
      · rwa [← same]
      · cases gone.symm.trans stands
    · rwa [← loses.others place isSecond]
  · rw [IsKept, loses.others _ (beside second named)]
    exact adds.nodes place

/-- A file that is replaced after the directories are made is written. -/
theorem isWritten_of_replaces {content : Text.Bytes} (named : secondPath? path = some second)
    (adds : AddsDirectories path.parent before middle)
    (replaces : Replaces path second content middle after)
    : IsWritten path content before after := by
  have around := directory_of_locate replaces.located
  obtain ⟨last, way, -, -⟩ := second_way named middle.home
  rw [way, List.dropLast_concat] at around
  obtain ⟨home, stores, noSecond, others, free, secondFree, -⟩ := replaces
  rw [adds.home] at around stores noSecond others free secondFree
  refine ⟨home.trans adds.home, stores, ?_, fun place onWay => ?_, fun place notPath beside => ?_⟩
  · rintro other same
    rwa [Option.some.inj (named.symm.trans same)] at noSecond
  · have directory := around place onWay
    rw [others place (by rintro rfl; exact free directory)
      (by rintro rfl; exact secondFree directory), directory]
  · rw [IsKept, others place notPath (beside second named)]
    exact adds.nodes place

/-- However the writing of a file ends, the file is written as a whole or what was there is spared. -/
theorem tree_of_writeFile {text : String} {before after : World}
    {ending : Except Escape (Except Failure Unit)}
    (done : (writeFile disk path text).on before = (ending, after))
    : ending = .ok (.ok ())
        ∧ IsWritten path (Text.Utf8.encode text.toList) before.tree after.tree
      ∨ ending ≠ .ok (.ok ()) ∧ IsSpared path before.tree after.tree := by
  rw [writeFile, Act.on_bind, Act.on_onFiles] at done
  have adds := addsDirectories_makeDirectories path.parent.parts.length path.parent before.tree
  cases made : (disk.makeDirectories path.parent.parts.length path.parent).run before.tree with
  | mk answer tree =>
      rw [made] at done adds
      cases answer with
      | error failure =>
          cases done
          exact .inr ⟨by rintro ⟨⟩, isSpared_of_adds adds⟩
      | ok value =>
          dsimp only at done
          rw [rename] at done
          cases named : secondPath? path with
          | none =>
              rw [show path.withName? (path.name ++ ".tmp") = none from named] at done
              cases done
              exact .inr ⟨by rintro ⟨⟩, isSpared_of_adds adds⟩
          | some second =>
              rw [show path.withName? (path.name ++ ".tmp") = some second from named] at done
              dsimp only at done
              rw [pure_bind, Act.on_onFiles] at done
              have apart := (place_ne_second named tree.home).symm
              cases written : (disk.writeThrough path second (Text.Utf8.encode text.toList)).run
                  tree with
              | mk answer last =>
                  have same : (before.withTree tree).tree = tree := rfl
                  rw [same, written] at done
                  cases done
                  rcases writeThrough_cases apart written with
                    ⟨rfl, replaces⟩ | ⟨⟨failure, rfl⟩, loses⟩
                  · exact .inl ⟨rfl, isWritten_of_replaces named adds replaces⟩
                  · exact .inr ⟨by rintro ⟨⟩, isSpared_of_mayLose named adds loses⟩

/-- A directory where a file should go, and a file with the second name. -/
def occupiedTree : Tree where
  nodes := [(["out"], .directory), (["out", "a.py"], .directory),
    (["out", "a.py.tmp"], .file (Text.Utf8.encode "mine".toList))]

end LiteralEnum.Command.Generate
