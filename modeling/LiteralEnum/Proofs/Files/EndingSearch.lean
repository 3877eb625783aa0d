import LiteralEnum.Proofs.Files.MakingAgain
import LiteralEnum.Proofs.Files.Searching
import Mathlib.Data.List.Infix
import Mathlib.Data.List.Sort

/-! Searches for the files in a directory whose names have an ending. An ending that stands for
itself in a pattern finds the files that end so, each once and in the order of their names.
-/

namespace LiteralEnum.Files

-----------------------------------------------------------------------------------------
-- Endings in patterns
-----------------------------------------------------------------------------------------

namespace Pattern

/-- Each character of a text stands for itself in a pattern. A bracket does so if no other closes
it.
-/
def isLiteral : List Char → Bool
  | [] => true
  | c :: rest =>
      c ≠ '*' && c ≠ '?' && (c ≠ '[' || (brackets? rest).isNone) && isLiteral rest

theorem isLiteral_cons {c : Char} {rest : List Char} (literal : isLiteral (c :: rest) = true)
    : c ≠ '*' ∧ c ≠ '?' ∧ (c = '[' → brackets? rest = none) ∧ isLiteral rest = true := by
  simp only [isLiteral, Bool.and_eq_true, Bool.or_eq_true, decide_eq_true_eq,
    Option.isNone_iff_eq_none] at literal
  obtain ⟨⟨⟨notStar, notMark⟩, bracket⟩, others⟩ := literal
  exact ⟨notStar, notMark, fun same => bracket.resolve_left (not_not_intro same), others⟩

theorem star_not_mem {text : List Char} (literal : isLiteral text = true) : '*' ∉ text := by
  induction text with
  | nil => exact List.not_mem_nil
  | cons c rest ih =>
      obtain ⟨notStar, -, -, others⟩ := isLiteral_cons literal
      exact List.not_mem_cons_of_ne_of_not_mem (Ne.symm notStar) (ih others)

/-- The items of such a text are its characters, by induction on it. -/
theorem read_of_isLiteral {text : List Char} (literal : isLiteral text = true) {fuel : Nat}
    (enough : text.length ≤ fuel)
    : read fuel text = text.map .one := by
  induction text generalizing fuel with
  | nil => cases fuel <;> rfl
  | cons c rest ih =>
      obtain ⟨notStar, notMark, unclosed, others⟩ := isLiteral_cons literal
      cases fuel with
      | zero => cases enough
      | succ fuel =>
          have read_rest := ih others (Nat.le_of_succ_le_succ enough)
          rw [read, if_neg notStar, if_neg notMark, List.map_cons, ← read_rest]
          split
          next bracket =>
            rw [unclosed bracket, bracket]
          next => rfl

theorem matchItems_ones (text name : List Char)
    : matchItems (text.map .one) name = true ↔ text = name := by
  induction text generalizing name with
  | nil => cases name <;> simp [matchItems]
  | cons c rest ih =>
      cases name with
      | nil => simp [matchItems]
      | cons d others => simp [matchItems, Item.allows, ih, eq_comm (a := d)]

theorem someRest_iff (test : List Char → Bool) (text : List Char)
    : someRest test text = true ↔ ∃ rest, rest <:+ text ∧ test rest = true := by
  induction text with
  | nil => simp [someRest]
  | cons c text ih =>
      simp only [someRest, Bool.or_eq_true, ih, List.suffix_cons_iff, or_and_right, exists_or,
        exists_eq_left]

end Pattern

/-- A star and such an ending match the names that end so. -/
theorem matchesPattern_ending {ending : String}
    (literal : Pattern.isLiteral ending.toList = true) (name : String)
    : matchesPattern ("*" ++ ending) name = true ↔ ending.toList <:+ name.toList := by
  have star : ("*" ++ ending).toList = '*' :: ending.toList := by simp
  have size : ("*" ++ ending).length = ending.toList.length + 1 := by
    rw [← String.length_toList, star, List.length_cons]
  have items : Pattern.read ("*" ++ ending).length ("*" ++ ending).toList
      = .anyText :: ending.toList.map .one := by
    rw [size, star, Pattern.read, if_pos rfl, Pattern.read_of_isLiteral literal le_rfl]
  rw [matchesPattern, items, Pattern.matchItems, Pattern.someRest_iff]
  simp only [Pattern.matchItems_ones]
  exact exists_eq_right'

theorem hasTwoStars_eq_false {text : List Char} (free : '*' ∉ text) : hasTwoStars text = false := by
  induction text with
  | nil => rfl
  | cons c rest ih =>
      rw [hasTwoStars]
      · exact ih (List.not_mem_of_not_mem_cons free)
      · rintro more rfl
        exact absurd List.mem_cons_self free

/-- The pattern for an ending is one step, which is neither a name nor two stars. -/
structure IsEnding (ending : String) : Prop where
  literal : Pattern.isLiteral ending.toList = true
  single : '/' ∉ ending.toList

namespace IsEnding

variable {ending : String} (isEnding : IsEnding ending)

include isEnding

theorem ne_twoStars : "*" ++ ending ≠ "**" := by
  intro same
  have stars : "*".toList ++ ending.toList = "*".toList ++ "*".toList := by
    rw [← String.toList_append, same]
    rfl
  have star := List.append_cancel_left stars
  refine Pattern.star_not_mem isEnding.literal ?_
  rw [star]
  decide

theorem searchSteps_eq : searchSteps ("*" ++ ending) = ["*" ++ ending] := by
  have star : ("*" ++ ending).toList = '*' :: ending.toList := by simp
  have free : '/' ∉ ("*" ++ ending).toList := by
    rw [star]
    exact List.not_mem_cons_of_ne_of_not_mem (by decide) isEnding.single
  have unended : ("*" ++ ending).toList.getLast? ≠ some '/' :=
    fun last => free (List.mem_of_getLast? last)
  rw [searchSteps, if_neg unended, Path.names_of_not_mem free (by simp [star]),
    String.ofList_toList, List.append_nil]

theorem isSearchable : isSearchable ("*" ++ ending) = true := by
  have star : ("*" ++ ending).toList = '*' :: ending.toList := by simp
  have noTwo : hasTwoStars ("*" ++ ending).toList = false := by
    rw [star, hasTwoStars]
    · exact hasTwoStars_eq_false (Pattern.star_not_mem isEnding.literal)
    · rintro more - same
      exact Pattern.star_not_mem isEnding.literal (same ▸ List.mem_cons_self)
  rw [Files.isSearchable, isEnding.searchSteps_eq, List.all_cons, List.all_nil, noTwo,
    Bool.not_false, Bool.or_true, Bool.and_true]

end IsEnding

-----------------------------------------------------------------------------------------
-- Names in a directory
-----------------------------------------------------------------------------------------

/-- A name that a file can have. -/
structure IsFileName (name : String) : Prop where
  single : Path.names name.toList = [name]
  inside : name ≠ ".."
  clean : '\x00' ∉ name.toList

instance (name : String) : Decidable (IsFileName name) :=
  decidable_of_iff (Path.names name.toList = [name] ∧ name ≠ ".." ∧ '\x00' ∉ name.toList)
    ⟨fun ⟨single, inside, clean⟩ => ⟨single, inside, clean⟩,
      fun isName => ⟨isName.single, isName.inside, isName.clean⟩⟩

namespace Tree

/-- Each place stands in the tree once, and its names are those of files. -/
structure IsSound (tree : Tree) : Prop where
  once : (tree.nodes.map (·.1)).Nodup
  named : ∀ entry ∈ tree.nodes, ∀ name ∈ entry.1, IsFileName name

/-- What stands in a list of entries with different keys is what is looked up, by induction on the
entries.
-/
theorem lookup_eq_some_iff {nodes : List (Place × Node)} (once : (nodes.map (·.1)).Nodup)
    (place : Place) (node : Node)
    : nodes.lookup place = some node ↔ (place, node) ∈ nodes := by
  induction nodes with
  | nil => simp
  | cons entry rest ih =>
      obtain ⟨here, other⟩ := entry
      rw [List.map_cons, List.nodup_cons] at once
      rw [List.lookup_cons, List.mem_cons, Prod.mk.injEq]
      by_cases same : place = here
      · subst same
        have absent : (place, node) ∉ rest :=
          fun member => once.1 (List.mem_map_of_mem (f := (·.1)) member)
        simp [absent, eq_comm]
      · have apart : (place == here) = false := beq_eq_false_iff_ne.mpr same
        simp [apart, same, ih once.2]

/-- The last name of a place that is right below another. -/
def nameBelow? (place other : Place) : Option String :=
  if other ≠ [] ∧ other.dropLast = place then other.getLast? else none

theorem nameBelow?_eq_some_iff (place other : Place) (name : String)
    : nameBelow? place other = some name ↔ other = place ++ [name] := by
  rw [nameBelow?]
  rcases List.eq_nil_or_concat' other with rfl | ⟨front, last, rfl⟩
  · simp
  · by_cases same : front = place <;> simp [same]

theorem childNames_eq (tree : Tree) (place : Place)
    : tree.childNames place = (tree.nodes.map (·.1)).filterMap (nameBelow? place) := by
  rw [List.filterMap_map]
  rfl

namespace IsSound

variable {tree : Tree} (sound : tree.IsSound)

include sound

/-- The names in a directory are those that something stands at. -/
theorem mem_childNames_iff (place : Place) (name : String)
    : name ∈ tree.childNames place ↔ ∃ node, tree.node? (place ++ [name]) = some node := by
  have inner : place ++ [name] ≠ [] := by simp
  simp only [node?, if_neg inner, lookup_eq_some_iff sound.once, childNames_eq, List.mem_filterMap,
    nameBelow?_eq_some_iff, exists_eq_right, List.mem_map, Prod.exists]
  constructor
  · rintro ⟨other, node, member, rfl⟩
    exact ⟨node, member⟩
  · rintro ⟨node, member⟩
    exact ⟨_, node, member, rfl⟩

theorem nodup_childNames (place : Place) : (tree.childNames place).Nodup := by
  rw [childNames_eq]
  refine List.Nodup.filterMap ?_ sound.once
  intro first second name below alsoBelow
  rw [Option.mem_def, nameBelow?_eq_some_iff] at below alsoBelow
  exact below.trans alsoBelow.symm

theorem isFileName {place : Place} {name : String} (member : name ∈ tree.childNames place)
    : IsFileName name := by
  obtain ⟨node, stands⟩ := (sound.mem_childNames_iff place name).mp member
  rw [node?, if_neg (by simp), lookup_eq_some_iff sound.once] at stands
  exact sound.named _ stands name (List.mem_append_right place List.mem_cons_self)

end IsSound

-----------------------------------------------------------------------------------------
-- Paths to names in a directory
-----------------------------------------------------------------------------------------

/-- More names are followed from where the first ones lead, by induction on the first. -/
theorem follow_append {tree : Tree} {start middle : Place} {names : List String}
    (followed : tree.follow start names = .ok middle) (more : List String)
    : tree.follow start (names ++ more) = tree.follow middle more := by
  induction names generalizing start with
  | nil =>
      obtain rfl := Except.ok.inj followed
      rfl
  | cons name rest ih =>
      rw [List.cons_append, follow]
      rw [follow] at followed
      split at followed
      next => cases followed
      next => cases followed
      next =>
        split at followed
        next => cases followed
        next fits =>
          rw [if_neg fits]
          exact ih followed

/-- Names that are followed are short, by induction on them. -/
theorem isTooLong_of_follow {tree : Tree} {start found : Place} {names : List String}
    (followed : tree.follow start names = .ok found)
    : ∀ name ∈ names, isTooLong maxNameBytes name = false := by
  induction names generalizing start with
  | nil => exact List.forall_mem_nil _
  | cons name rest ih =>
      rw [follow] at followed
      split at followed
      next => cases followed
      next => cases followed
      next =>
        split at followed
        next => cases followed
        next fits => exact List.forall_mem_cons.mpr ⟨Bool.eq_false_iff.mpr fits, ih followed⟩

theorem hasNull_child {name : String} (isName : IsFileName name) {path : Path}
    (clean : hasNull path = false) : hasNull (path.child name) = false := by
  rw [hasNull, List.any_eq_false] at clean ⊢
  intro part member
  rcases List.mem_append.mp member with before | last
  · exact clean part before
  · rw [List.mem_singleton.mp last]
    simpa using isName.clean

section

variable {tree : Tree} {path : Path} (isDirectory : IsDirectoryAt tree path)

include isDirectory

/-- A directory is followed to its place. -/
theorem IsDirectoryAt.followed
    : tree.follow (tree.origin path) path.steps = .ok (path.place tree.home) := by
  obtain ⟨-, found⟩ := isDirectoryAt_iff_look.mp isDirectory
  obtain ⟨place, located, -⟩ := exists_of_bind found
  rw [locate] at located
  split at located
  next => cases located
  next =>
    obtain rfl := follow_eq located
    exact located

theorem IsDirectoryAt.node? : tree.node? (path.place tree.home) = some .directory :=
  (look_eq (isDirectoryAt_iff_look.mp isDirectory).2).2

theorem IsDirectoryAt.run_entries
    : (disk.entries path).run tree = (.ok (tree.childNames (path.place tree.home)), tree) := by
  obtain ⟨clean, found⟩ := isDirectoryAt_iff_look.mp isDirectory
  rw [Tree.run_entries, clean, found]
  rfl

variable {name : String} (isName : IsFileName name)

include isName

/-- A name in a directory is followed unless it is too long. -/
theorem IsDirectoryAt.follow_child
    : tree.follow (tree.origin path) (path.child name).steps
      = if isTooLong maxNameBytes name then .error .nameTooLong
        else .ok (path.place tree.home ++ [name]) := by
  rw [Path.steps_child, isName.single, follow_append isDirectory.followed, follow,
    isDirectory.node?, if_neg isName.inside]
  rfl

/-- What stands at a name in a directory can be told if the path to it is short. -/
theorem IsDirectoryAt.run_kind?_child (isShort : IsShort (path.child name))
    : (disk.kind? (path.child name)).run tree
      = (.ok ((tree.node? (path.place tree.home ++ [name])).map kindOf), tree) := by
  have nameShort : isTooLong maxNameBytes name = false := by
    refine isShort.names name ?_
    rw [Path.steps_child, isName.single]
    exact List.mem_append_right _ List.mem_cons_self
  have located : tree.locate (path.child name) = .ok (path.place tree.home ++ [name]) := by
    rw [locate, isShort.whole]
    exact (isDirectory.follow_child isName).trans (if_neg (by simp [nameShort]))
  rw [run_kind?, hasNull_child isName (isDirectoryAt_iff_look.mp isDirectory).1, look, located]
  cases stands : tree.node? (path.place tree.home ++ [name]) with
  | none => simp [bind, Except.bind, stands]
  | some node => simp [bind, Except.bind, stands]

/-- What stands at a name in a directory cannot be told if the path to it is too long. -/
theorem IsDirectoryAt.exists_failure_child (tooLong : ¬ IsShort (path.child name))
    : ∃ failure, (disk.kind? (path.child name)).run tree = (.error failure, tree) := by
  have located : tree.locate (path.child name) = .error .nameTooLong := by
    rw [locate]
    split
    next => rfl
    next fits =>
      have followed := isDirectory.follow_child isName
      split at followed
      next => exact followed
      next nameFits =>
        refine absurd ⟨Bool.eq_false_iff.mpr fits, ?_⟩ tooLong
        exact isTooLong_of_follow followed
  rw [run_kind?, hasNull_child isName (isDirectoryAt_iff_look.mp isDirectory).1, look, located]
  exact ⟨_, rfl⟩

end

-----------------------------------------------------------------------------------------
-- Files in a directory
-----------------------------------------------------------------------------------------

/-- A file stands right inside a directory. -/
def IsFileIn (tree : Tree) (path : Path) (name : String) : Prop :=
  ∃ content, tree.node? (path.place tree.home ++ [name]) = some (.file content)

theorem isFileIn_iff (tree : Tree) (path : Path) (name : String)
    : IsFileIn tree path name
      ↔ (tree.node? (path.place tree.home ++ [name])).map kindOf = some .file := by
  rw [IsFileIn]
  cases tree.node? (path.place tree.home ++ [name]) with
  | none => simp
  | some node => cases node <;> simp [kindOf]

instance (tree : Tree) (path : Path) (name : String) : Decidable (IsFileIn tree path name) :=
  decidable_of_iff _ (isFileIn_iff tree path name).symm

/-- The first code point in which two names differ is less in the first name, or the first name
starts the other.
-/
def ComesBefore (first second : String) : Prop :=
  List.Lex (fun c d => c.toNat < d.toNat) first.toList second.toList

/-- The names of the files in a directory that have an ending, each once and in their order. -/
structure ListsEnding (tree : Tree) (path : Path) (ending : String) (names : List String)
    : Prop where
  sorted : names.Pairwise ComesBefore
  members : ∀ name, name ∈ names ↔ IsFileIn tree path name ∧ ending.toList <:+ name.toList

/-- Paths in one directory are in the order of their names. -/
theorem precedes_child (path : Path) (first second : String)
    : Path.precedes (path.child first) (path.child second) = !decide (second < first) := by
  have last (parts : List String)
      : (parts ++ [second]).lex (parts ++ [first]) (fun x y => decide (x < y))
        = decide (second < first) := by
    induction parts with
    | nil => simp [List.lex]
    | cons part parts ih =>
        have equal : decide (part < part) = false := decide_eq_false (String.lt_irrefl part)
        rw [List.cons_append, List.cons_append, List.cons_lex_cons, equal, ih, Bool.false_or,
          beq_self_eq_true, Bool.true_and]
  rw [Path.precedes, Path.child, Path.child, last]

/-- Names in their order. -/
def sortNames (names : List String) : List String :=
  names.mergeSort fun first second => !decide (second < first)

theorem mergeSort_children (path : Path) (names : List String)
    : (names.map path.child).mergeSort Path.precedes = (sortNames names).map path.child := by
  rw [sortNames, List.map_mergeSort]
  intro first _ second _
  exact (precedes_child path first second).symm

theorem pairwise_sortNames {names : List String} (once : names.Nodup)
    : (sortNames names).Pairwise ComesBefore := by
  have isOrder {first second : String} : (!decide (second < first)) = true ↔ first ≤ second := by
    rw [Bool.not_eq_true', decide_eq_false_iff_not, String.not_lt]
  have sorted : (sortNames names).Pairwise fun first second => !decide (second < first) := by
    refine List.pairwise_mergeSort ?_ ?_ names
    · intro first second third
      rw [isOrder, isOrder, isOrder]
      exact String.le_trans
    · intro first second
      rw [Bool.or_eq_true, isOrder, isOrder]
      exact String.le_total first second
  have once : (sortNames names).Nodup := (List.mergeSort_perm _ _).nodup_iff.mpr once
  refine (sorted.and once).imp ?_
  rintro first second ⟨ordered, apart⟩
  by_contra notBefore
  exact apart (String.le_antisymm (isOrder.mp ordered) (String.not_lt.mp notBefore))

open Disk (Found)

variable {Value Other : Type}

/-- A search that fails leaves the tree as it is too. -/
def Fails (tree : Tree) (search : Found (StateM Tree) Value) : Prop :=
  ∃ failure, search.run.run tree = (.error failure, tree)

theorem Fails.bind {tree : Tree} {search : Found (StateM Tree) Value} (fails : Fails tree search)
    (next : Value → Found (StateM Tree) Other) : Fails tree (search >>= next) := by
  obtain ⟨failure, failed⟩ := fails
  refine ⟨failure, ?_⟩
  rw [ExceptT.run_bind, StateT.run_bind, failed]
  rfl

/-- A search that fails behind a step. -/
theorem Finds.bind_fails {tree : Tree} {search : Found (StateM Tree) Value} {answer : Value}
    {next : Value → Found (StateM Tree) Other} (finds : Finds tree search (· = answer))
    (fails : Fails tree (next answer)) : Fails tree (search >>= next) := by
  obtain ⟨_, found, rfl⟩ := finds
  obtain ⟨failure, failed⟩ := fails
  refine ⟨failure, ?_⟩
  rw [ExceptT.run_bind, StateT.run_bind, found]
  exact failed

/-- A step after which the answer is known. -/
theorem Finds.bind_eq {tree : Tree} {search : Found (StateM Tree) Value} {answer : Value}
    {next : Value → Found (StateM Tree) Other} {property : Other → Prop}
    (finds : Finds tree search (· = answer)) (later : Finds tree (next answer) property)
    : Finds tree (search >>= next) property :=
  finds.bind fun _ same => same ▸ later

section

variable {tree : Tree} {path : Path} (isDirectory : IsDirectoryAt tree path)

include isDirectory

theorem IsDirectoryAt.finds_isKind_child {name : String} (isName : IsFileName name)
    (isShort : IsShort (path.child name))
    : Finds tree (disk.isKind .file (path.child name)) (· = decide (IsFileIn tree path name)) := by
  have looked : Finds tree (ExceptT.mk (disk.kind? (path.child name)))
      (· = (tree.node? (path.place tree.home ++ [name])).map kindOf) :=
    ⟨_, isDirectory.run_kind?_child isName isShort, rfl⟩
  refine looked.bind_eq (.pure ?_)
  rw [decide_eq_decide, isFileIn_iff]

/-- The files among names in a directory are kept, by induction on the names. -/
theorem IsDirectoryAt.finds_keep {names : List String}
    (areNames : ∀ name ∈ names, IsFileName name)
    (areShort : ∀ name ∈ names, IsShort (path.child name))
    : Finds tree (Disk.keep (disk.isKind .file) (names.map path.child))
        (· = (names.filter (IsFileIn tree path)).map path.child) := by
  induction names with
  | nil => exact .pure rfl
  | cons name rest ih =>
      obtain ⟨isName, areNames⟩ := List.forall_mem_cons.mp areNames
      obtain ⟨isShort, areShort⟩ := List.forall_mem_cons.mp areShort
      rw [List.map_cons, Disk.keep]
      refine (isDirectory.finds_isKind_child isName isShort).bind_eq ?_
      refine (ih areNames areShort).bind_eq (.pure ?_)
      by_cases isFile : IsFileIn tree path name <;> simp [isFile]

/-- If one of the names is too long, the first such name fails. By induction on the names. -/
theorem IsDirectoryAt.fails_keep {names : List String}
    (areNames : ∀ name ∈ names, IsFileName name)
    (tooLong : ∃ name ∈ names, ¬ IsShort (path.child name))
    : Fails tree (Disk.keep (disk.isKind .file) (names.map path.child)) := by
  induction names with
  | nil =>
      obtain ⟨name, member, -⟩ := tooLong
      cases member
  | cons name rest ih =>
      obtain ⟨isName, areNames⟩ := List.forall_mem_cons.mp areNames
      rw [List.map_cons, Disk.keep]
      by_cases isShort : IsShort (path.child name)
      · obtain ⟨other, member, otherLong⟩ := tooLong
        have later : other ∈ rest := (List.mem_cons.mp member).resolve_left fun same =>
          otherLong (same ▸ isShort)
        refine (isDirectory.finds_isKind_child isName isShort).bind_fails ?_
        exact (ih areNames ⟨other, later, otherLong⟩).bind _
      · have failed : Fails tree (disk.isKind .file (path.child name)) :=
          .bind (isDirectory.exists_failure_child isName isShort) _
        exact failed.bind _

end

/-- Paths that are searched for no further are found. -/
theorem finds_gather_here {tree : Tree} (paths : List Path)
    : Finds tree (Disk.gather (fun path => disk.select path []) paths) (· = paths) := by
  induction paths with
  | nil => exact .pure rfl
  | cons path rest ih =>
      have here : Finds tree (disk.select path []) (· = [path]) := .pure rfl
      exact here.bind_eq (ih.bind_eq (.pure rfl))

section

variable {tree : Tree} {path : Path} {ending : String}

/-- The names in a directory that have an ending. -/
def namesEnding (tree : Tree) (path : Path) (ending : String) : List String :=
  (tree.childNames (path.place tree.home)).filter fun name => ending.toList <:+ name.toList

theorem finds_select_ending (isEnding : IsEnding ending) (isDirectory : IsDirectoryAt tree path)
    : Finds tree (disk.select path (searchSteps ("*" ++ ending)))
        (· = (namesEnding tree path ending).map path.child) := by
  have children : Finds tree (disk.children path)
      (· = (tree.childNames (path.place tree.home)).map path.child) := by
    have listed : Finds tree (ExceptT.mk (disk.entries path))
        (· = tree.childNames (path.place tree.home)) := ⟨_, isDirectory.run_entries, rfl⟩
    exact listed.bind_eq (.pure rfl)
  have isStep : "*" ++ ending ≠ "" := by simp
  have isMatched : isPattern ("*" ++ ending) = true := by simp [isPattern]
  have candidates : ((tree.childNames (path.place tree.home)).map path.child).filter
        (fun child => matchesPattern ("*" ++ ending) child.name)
      = (namesEnding tree path ending).map path.child := by
    rw [namesEnding, List.filter_map]
    congr 1
    refine List.filter_congr fun name _ => ?_
    rw [Function.comp_apply, Path.name_child, Bool.eq_iff_iff,
      matchesPattern_ending isEnding.literal, decide_eq_true_eq]
  rw [isEnding.searchSteps_eq, Disk.select, if_neg isStep, if_neg isEnding.ne_twoStars,
    if_pos isMatched]
  refine children.bind_eq ?_
  dsimp only
  rw [if_pos List.isEmpty_nil, pure_bind, candidates]
  exact finds_gather_here _

/-- The names of the files in a directory that have an ending, in their order. -/
def filesEnding (tree : Tree) (path : Path) (ending : String) : List String :=
  sortNames ((namesEnding tree path ending).filter (IsFileIn tree path))

theorem mem_namesEnding {name : String}
    : name ∈ namesEnding tree path ending
      ↔ name ∈ tree.childNames (path.place tree.home) ∧ ending.toList <:+ name.toList := by
  rw [namesEnding, List.mem_filter, decide_eq_true_eq]

variable (sound : tree.IsSound)

include sound

theorem isFileName_of_mem_namesEnding
    : ∀ name ∈ namesEnding tree path ending, IsFileName name :=
  fun _ member => sound.isFileName (mem_namesEnding.mp member).1

theorem listsEnding_filesEnding : ListsEnding tree path ending (filesEnding tree path ending) := by
  refine ⟨pairwise_sortNames (((sound.nodup_childNames _).filter _).filter _), fun name => ?_⟩
  rw [filesEnding, sortNames, List.mem_mergeSort, List.mem_filter, mem_namesEnding,
    sound.mem_childNames_iff, decide_eq_true_eq]
  constructor
  · rintro ⟨⟨-, ends⟩, isFile⟩
    exact ⟨isFile, ends⟩
  · rintro ⟨isFile, ends⟩
    obtain ⟨content, stands⟩ := isFile
    exact ⟨⟨⟨_, stands⟩, ends⟩, ⟨content, stands⟩⟩

variable (isEnding : IsEnding ending) (isDirectory : IsDirectoryAt tree path)

include isEnding isDirectory

/-- A search by an ending finds the files that have it, if the paths to them are short. -/
theorem finds_search_ending
    (areShort : ∀ name ∈ namesEnding tree path ending, IsShort (path.child name))
    : Finds tree (disk.search path ("*" ++ ending))
        (· = (filesEnding tree path ending).map path.child) := by
  have areNames : ∀ name ∈ namesEnding tree path ending, IsFileName name :=
    isFileName_of_mem_namesEnding sound
  refine (finds_select_ending isEnding isDirectory).bind_eq ?_
  refine (isDirectory.finds_keep areNames areShort).bind_eq (.pure ?_)
  exact mergeSort_children path _

theorem fails_search_ending
    (tooLong : ∃ name ∈ namesEnding tree path ending, ¬ IsShort (path.child name))
    : Fails tree (disk.search path ("*" ++ ending)) := by
  have areNames : ∀ name ∈ namesEnding tree path ending, IsFileName name :=
    isFileName_of_mem_namesEnding sound
  refine (finds_select_ending isEnding isDirectory).bind_fails ?_
  exact (isDirectory.fails_keep areNames tooLong).bind _

end

end Tree

end LiteralEnum.Files
