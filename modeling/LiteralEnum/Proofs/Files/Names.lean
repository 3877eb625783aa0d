import LiteralEnum.Proofs.Files.NewDirectories
import LiteralEnum.Proofs.Text.Lines

/-! Names in paths. A text without a slash is one name, and a path that is made of single names
leads through one place for each of them.
-/

namespace LiteralEnum.Files.Path

theorem steps_child (path : Path) (name : String)
    : (path.child name).steps = path.steps ++ names name.toList := by
  simp [Path.child, Path.steps]

/-- A path with a name is its parent with the name. -/
theorem child_name {path : Path} (isNamed : path.name ≠ "")
    : path.parent.child path.name = path := by
  rw [Path.name, List.getLastD_eq_getLast?] at isNamed ⊢
  rcases List.eq_nil_or_concat' path.parts with none | ⟨front, last, same⟩
  · simp [none] at isNamed
  · obtain ⟨root, parts⟩ := path
    subst same
    simp [Path.parent, Path.child]

/-- The names of a text come from its pieces, one after the other. -/
theorem names_eq {text last : List Char} {front : List (List Char)}
    (split : Text.splitAt '/' text = front ++ [last])
    : names text
      = (front.filter fun name => name ≠ [] ∧ name ≠ ['.']).map String.ofList
        ++ if last ≠ [] ∧ last ≠ ['.'] then [String.ofList last] else [] := by
  rw [names, split, List.filter_append, List.map_append]
  by_cases isName : last ≠ [] ∧ last ≠ ['.']
  · rw [if_pos isName, List.filter_cons_of_pos (by simpa using isName)]
    rfl
  · rw [if_neg isName, List.filter_cons_of_neg (by simpa using isName)]
    rfl

/-- A text without a slash is one name. -/
theorem names_of_not_mem {text : List Char} (free : '/' ∉ text) (isName : text ≠ [] ∧ text ≠ ['.'])
    : names text = [String.ofList text] := by
  have whole : Text.splitAt '/' text = [] ++ [text] := Text.splitAt_of_not_mem free
  rw [names_eq whole, if_pos isName]
  rfl

theorem rootOf_of_not_mem {text : List Char} (free : '/' ∉ text) : rootOf text = "" := by
  have none : slashes text = 0 := by
    cases text with
    | nil => rfl
    | cons c rest =>
        have apart : c ≠ '/' := Ne.symm (List.ne_of_not_mem_cons free)
        simp [slashes, apart]
  rw [rootOf, none]
  rfl

/-- A name can take the place of another. -/
theorem withName?_of_not_mem {path : Path} (isNamed : path.name ≠ "") {name : String}
    (free : '/' ∉ name.toList) (isName : name.toList ≠ [] ∧ name.toList ≠ ['.'])
    : path.withName? name = some (path.parent.child name) := by
  have single : (names name.toList).length = 1 := by rw [names_of_not_mem free isName]; rfl
  rw [Path.withName?, if_neg]
  rintro (noName | rooted | last | several)
  · exact isNamed noName
  · exact rooted (rootOf_of_not_mem free)
  · exact free (List.mem_of_getLast? last)
  · exact several single

-----------------------------------------------------------------------------------------
-- Paths of single names
-----------------------------------------------------------------------------------------

/-- Each part of the path is one name. -/
def IsPlain (path : Path) : Prop := ∀ part ∈ path.parts, names part.toList = [part]

theorem IsPlain.parent {path : Path} (plain : path.IsPlain) : path.parent.IsPlain :=
  fun part member => plain part (List.dropLast_subset _ member)

theorem IsPlain.steps {path : Path} (plain : path.IsPlain) : path.steps = path.parts := by
  rw [Path.steps, List.flatMap_congr plain, List.flatMap_singleton']

/-- The text of the parent starts the text of the path, or it is a dot. -/
theorem text_parent (path : Path)
    : path.parent.text = "." ∨ path.parent.text.toList <+: path.text.toList := by
  obtain ⟨root, parts⟩ := path
  rcases List.eq_nil_or_concat' parts with rfl | ⟨front, last, rfl⟩
  · exact .inr List.prefix_rfl
  · rw [text, text, parent]
    dsimp only
    rw [List.dropLast_concat, if_neg (c := root = "" ∧ front ++ [last] = []) (by simp)]
    split
    next => exact .inl rfl
    next =>
      refine .inr ?_
      rw [String.toList_append, String.toList_append, List.prefix_append_right_inj]
      cases front with
      | nil => simp
      | cons first later =>
          have slash : "/".toList = ['/'] := rfl
          simp only [String.toList_intercalate, slash, List.map_append, List.map_cons,
            List.cons_append, Text.intercalate_cons, List.flatMap_append, ← List.append_assoc]
          exact List.prefix_append _ _

/-- The names of a text hold no slashes. -/
theorem slash_not_mem_names {text : List Char} {name : String} (member : name ∈ names text)
    : '/' ∉ name.toList := by
  obtain ⟨piece, isPiece, rfl⟩ := List.mem_map.mp member
  rw [String.toList_ofList]
  exact Text.not_mem_of_mem_splitAt (List.mem_of_mem_filter isPiece)

/-- A name of a text is one name. -/
theorem names_of_mem_names {text : List Char} {name : String} (member : name ∈ names text)
    : names name.toList = [name] := by
  have free := slash_not_mem_names member
  obtain ⟨piece, isPiece, rfl⟩ := List.mem_map.mp member
  have isName : piece ≠ [] ∧ piece ≠ ['.'] := by simpa using List.of_mem_filter isPiece
  rw [String.toList_ofList] at free ⊢
  exact names_of_not_mem free isName

theorem isPlain_ofText (text : String) : (ofText text).IsPlain :=
  fun _ member => names_of_mem_names member

@[simp]
theorem parent_child (path : Path) (name : String) : (path.child name).parent = path := by
  simp [child, parent]

@[simp]
theorem name_child (path : Path) (name : String) : (path.child name).name = name := by
  simp [child, Path.name]

/-- The path to a name in a directory is one place longer than the path to the directory. -/
theorem way_child (home : Place) (path : Path) {name : String}
    (single : names name.toList = [name])
    : (path.child name).way home = path.way home ++ [(path.child name).place home] := by
  have steps : (path.child name).steps = path.steps ++ [name] := by
    rw [steps_child, single]
  rw [way, place, steps, Place.through_concat, List.foldl_append]
  rfl

-----------------------------------------------------------------------------------------
-- Names of modules
-----------------------------------------------------------------------------------------

/-- The stem is the start of the name, and something is left of a name. -/
theorem exists_stem_eq_take (path : Path)
    : ∃ size, size ≠ 0 ∧ path.stem.toList = path.name.toList.take size := by
  rw [stem]
  split
  next => exact ⟨path.name.toList.length + 1, by simp, by simp [List.take_of_length_le]⟩
  next kept =>
    rw [not_or] at kept
    exact ⟨_, kept.1, String.toList_ofList⟩

/-- The last of single names. -/
theorem IsPlain.names_name {path : Path} (plain : path.IsPlain) (parts : path.parts ≠ [])
    : names path.name.toList = [path.name] := by
  rw [Path.name, List.getLastD_eq_getLast?, List.getLast?_eq_some_getLast parts]
  exact plain _ (List.getLast_mem parts)

theorem ne_empty_of_names {name : String} (single : names name.toList = [name]) : name ≠ "" := by
  rintro rfl
  cases single

/-- The name of a module is one name. -/
theorem names_stem_append {path : Path} (single : names path.name.toList = [path.name])
    {suffix : String} (isSuffix : suffix ≠ "") (suffixFree : '/' ∉ suffix.toList)
    : names (path.stem ++ suffix).toList = [path.stem ++ suffix] := by
  have free := slash_not_mem_names (single ▸ List.mem_singleton_self path.name)
  obtain ⟨size, positive, stem⟩ := path.exists_stem_eq_take
  have suffixed : suffix.toList ≠ [] := by simpa using isSuffix
  have stemmed : path.stem.toList ≠ [] := by
    rw [stem, Ne, List.take_eq_nil_iff, not_or]
    exact ⟨positive, by simpa using ne_empty_of_names single⟩
  have nameFree : '/' ∉ (path.stem ++ suffix).toList := by
    rw [String.toList_append, List.mem_append, not_or, stem]
    exact ⟨fun member => free (List.mem_of_mem_take member), suffixFree⟩
  have isName : (path.stem ++ suffix).toList ≠ [] ∧ (path.stem ++ suffix).toList ≠ ['.'] := by
    rw [String.toList_append]
    constructor
    · exact List.append_ne_nil_of_left_ne_nil stemmed _
    · intro dot
      have size := congrArg List.length dot
      have stemSize := List.length_pos_of_ne_nil stemmed
      have suffixSize := List.length_pos_of_ne_nil suffixed
      rw [List.length_append, List.length_singleton] at size
      omega
  rw [names_of_not_mem nameFree isName, String.ofList_toList]

/-- A single name stays one with a longer ending. -/
theorem names_append {name ending : String} (single : names name.toList = [name])
    (isLong : 2 ≤ ending.toList.length) (free : '/' ∉ ending.toList)
    : names (name ++ ending).toList = [name ++ ending] := by
  have nameFree := slash_not_mem_names (single ▸ List.mem_singleton_self name)
  have bothFree : '/' ∉ (name ++ ending).toList := by
    rw [String.toList_append, List.mem_append, not_or]
    exact ⟨nameFree, free⟩
  have size : 2 ≤ (name ++ ending).toList.length := by
    rw [String.toList_append, List.length_append]
    omega
  have isName : (name ++ ending).toList ≠ [] ∧ (name ++ ending).toList ≠ ['.'] := by
    constructor
    · intro none
      rw [none] at size
      exact absurd size (by decide)
    · intro dot
      rw [dot] at size
      exact absurd size (by decide)
  rw [names_of_not_mem bothFree isName, String.ofList_toList]

/-- A path can end with another single name. -/
theorem withName?_of_names {path : Path} (isNamed : path.name ≠ "") {name : String}
    (single : names name.toList = [name])
    : path.withName? name = some (path.parent.child name) := by
  have free := slash_not_mem_names (single ▸ List.mem_singleton_self name)
  refine withName?_of_not_mem isNamed free ⟨?_, ?_⟩
  · intro none
    rw [none] at single
    cases single
  · intro dot
    rw [dot] at single
    cases single

end LiteralEnum.Files.Path
