import LiteralEnum.Proofs.Module.LineReading

/-! The reader goes through the definitions of a module part by part: every part leads back
to where it starts, and says its members or its entries and nothing else.
-/

namespace LiteralEnum.Module.Reading

open Text

/-- The indent of a width. -/
def spaces (width : Nat) : String := String.ofList (List.replicate width ' ')

theorem toList_spaces (width : Nat) : (spaces width).toList = List.replicate width ' ' :=
  String.toList_ofList

theorem spaces_append (width more : Nat) : spaces width ++ spaces more = spaces (width + more) := by
  rw [spaces, spaces, spaces, ← String.ofList_append, List.replicate_append_replicate]

variable {typeName : String}

-----------------------------------------------------------------------------------------
-- Lines that say nothing
-----------------------------------------------------------------------------------------

/-- Parts that say nothing say nothing together. -/
theorem Reads.silent {Part : Type} {place : Place} {lines : Part → List String}
    {parts : List Part} (areRead : ∀ part ∈ parts, Reads typeName place (lines part) place {})
    : Reads typeName place (parts.flatMap lines) place {} := by
  have nothing : Tables.concat (parts.map fun _ => {}) = {} := by
    ext1 <;> simp [Tables.concat]
  exact nothing ▸ Reads.flatMap areRead

/-- Lines of code, one by one. -/
theorem Reads.code {lines : List String} (areCode : ∀ line ∈ lines, line = "" ∨ IsCode line)
    : Reads typeName .outside lines .outside {} := by
  have singles : lines.flatMap ([·]) = lines := by simp
  rw [← singles]
  refine .silent fun line member => .line ?_
  rcases areCode line member with rfl | isCode
  · exact readLine?_empty
  · exact isCode.readLine?

/-- A string literal that is open goes on in a sealed line. -/
theorem readLine?_sealed {line : String} (isSealed : Docstring.Sealed line.toList)
    : readLine? typeName .docstring line = some (.docstring, {}) := by
  simp [readLine?, placeBehind, isSealed.closeTriple?_eq_none]

/-- The closing quotes end the string literal. -/
theorem readLine?_closing (width : Nat)
    : readLine? typeName .docstring
        (String.ofList (List.replicate width ' ' ++ Docstring.quotes))
      = some (.outside, {}) := by
  have closes := (Docstring.Sealed.nil.append_spaces width).isSome_closeTriple? []
  rw [List.append_nil] at closes
  simp [readLine?, placeBehind, closes]

/-- The line of the opening quotes, by what follows them. -/
theorem readLine?_opening (width : Nat) (text : List Char)
    : readLine? typeName .outside
        (String.ofList (List.replicate width ' ' ++ Docstring.quotes ++ text))
      = some (placeBehind text, {}) := by
  have start : (Docstring.quotes ++ text).head? ≠ some ' ' := by simp [Docstring.quotes]
  simp only [readLine?, String.toList_ofList, List.append_assoc, dropWhile_spaces width start]
  rfl

/-- A string literal in three quotes is left out as a whole. -/
theorem Reads.docstring (width : Nat) (text : String)
    : Reads typeName .outside (docstring (spaces width) text) .outside {} := by
  rw [Module.docstring, toList_spaces]
  rcases Docstring.lines_cases width text.toList with
    ⟨line, isSealed, shape⟩ | ⟨first, later, isSealed, areSealed, shape⟩
  · rw [shape]
    refine .line ?_
    rw [List.append_assoc, readLine?_opening]
    simp [placeBehind, isSealed.isSome_closeTriple?]
  · rw [shape]
    have opening : readLine? typeName .outside
        (String.ofList (List.replicate width ' ' ++ Docstring.quotes ++ first))
        = some (.docstring, {}) := by
      rw [readLine?_opening, placeBehind, isSealed.closeTriple?_eq_none]
      rfl
    have middle : Reads typeName .docstring (later.map String.ofList) .docstring {} := by
      rw [List.map_eq_flatMap]
      exact .silent fun line member =>
        .line (readLine?_sealed (by simpa using areSealed line member))
    have whole := ((Reads.line opening).append middle).append (.line (readLine?_closing width))
    simpa using whole

-----------------------------------------------------------------------------------------
-- Class
-----------------------------------------------------------------------------------------

/-- A doc text, if there is one. -/
theorem Reads.docstring? (width : Nat) (doc : Option String)
    : Reads typeName .outside ((doc.map (Module.docstring (spaces width))).getD []) .outside {} := by
  cases doc with
  | none => exact .nil .outside
  | some text => exact .docstring width text

/-- A keyword and a name make a line of code, whatever follows. -/
theorem isCode_keyword (keyword : String) (word : List Char) {name : String}
    (span : keyword.toList.span isNameContinue = (word, [' ']))
    (starts : keyword.toList.head? = some 'd' ∨ keyword.toList.head? = some 'c')
    (isName : isName name.toList = true)
    : IsCode (keyword ++ name) := by
  obtain ⟨first, rest, name⟩ := List.exists_cons_of_ne_nil (l := name.toList) (by
    intro empty
    rw [empty] at isName
    cases isName)
  have notEqual : first ≠ '=' := by
    rintro rfl
    rw [name, Text.isName, Bool.and_eq_true] at isName
    exact absurd isName.1 (by decide)
  refine ⟨0, keyword.toList ++ [first], rest, by simp [name], ?_⟩
  rw [isCodeStart, span_append span (by simp), List.head?_append]
  rcases starts with same | same <;> simp [same, isQuiet, notEqual]

/-- A method of code only. -/
structure IsCodeMethod (method : Method) : Prop where
  decorator : ∀ decorator ∈ method.decorator, IsCode decorator
  signature : IsCode method.signature
  body : ∀ line ∈ method.body, IsCode line

theorem IsCode.spaces {line : String} (isCode : IsCode line) (width : Nat)
    : IsCode (Reading.spaces width ++ line) :=
  isCode.indent width

/-- A method says nothing. -/
theorem Reads.method (width : Nat) {method : Method} (isCode : IsCodeMethod method)
    : Reads typeName .outside (method.lines (spaces width)) .outside {} := by
  have top : Reads typeName .outside
      ([""] ++ method.decorator.toList.map (spaces width ++ ·) ++ [spaces width ++ method.signature])
      .outside {} := by
    refine .code ?_
    simp only [List.forall_mem_append, List.forall_mem_cons, List.forall_mem_map,
      Option.mem_toList]
    refine ⟨⟨⟨Or.inl trivial, by simp⟩, ?_⟩, Or.inr (isCode.signature.spaces width), by simp⟩
    exact fun decorator member => Or.inr ((isCode.decorator decorator member).spaces width)
  have body : Reads typeName .outside (method.body.map (spaces (width + width) ++ ·))
      .outside {} := by
    refine .code ?_
    rw [List.forall_mem_map]
    exact fun line member => Or.inr ((isCode.body line member).spaces _)
  rw [Method.lines, spaces_append]
  exact (top.append (.docstring? (width + width) method.doc)).append body

/-- The decorator of a method that is called on the class. -/
theorem isCode_classmethod : ∀ decorator ∈ some "@classmethod", IsCode decorator := by
  rintro _ ⟨⟩
  exact .of_start _ (by decide)

theorem isCode_singleton {only : String} (isCode : isCodeStart only.toList = true)
    : ∀ line ∈ [only], IsCode line :=
  fun _ member => List.mem_singleton.mp member ▸ .of_start only isCode

/-- The methods that every class has are code only. -/
theorem isCodeMethod_of_mem_standardMethods (width : Nat) (name : String)
    : ∀ method ∈ standardMethods (spaces width) name, IsCodeMethod method := by
  intro method member
  rcases List.mem_cons.mp member with rfl | member
  · have signature : IsCode "def __lt__(self, other: object) -> bool:" :=
      .of_start _ (by decide)
    refine ⟨nofun, signature, fun line inBody => ?_⟩
    rcases List.mem_cons.mp inBody with rfl | inBody
    · exact .of_start _ (by decide)
    rcases List.mem_cons.mp inBody with rfl | inBody
    · exact (IsCode.of_start _ (by decide)).spaces width
    · exact isCode_singleton (by decide) line inBody
  rcases List.mem_cons.mp member with rfl | member
  · exact ⟨nofun, .of_start _ (by decide +kernel), isCode_singleton (by decide)⟩
  rcases List.mem_cons.mp member with rfl | member
  · have signature : IsCode "def lookup(cls, text: str) -> " := .of_start _ (by decide)
    exact ⟨isCode_classmethod, (signature.append name).append _,
      isCode_singleton (by decide +kernel)⟩
  rcases List.mem_cons.mp member with rfl | member
  · exact ⟨isCode_classmethod, .of_start _ (by decide),
      isCode_singleton (by decide)⟩
  rcases List.mem_cons.mp member with rfl | member
  · exact ⟨nofun, .of_start _ (by decide), isCode_singleton (by decide)⟩
  rw [List.mem_singleton.mp member]
  exact ⟨nofun, .of_start _ (by decide +kernel), isCode_singleton (by decide +kernel)⟩

/-- The data accessor is code only, whatever its type is. -/
theorem isCodeMethod_accessor {field : Model.Field} (isName : isName field.name.toList = true)
    : IsCodeMethod (accessor field) where
  decorator := fun _ member => nomatch member
  signature := by
    have keyword := isCode_keyword "def " "def".toList (by decide +kernel) (by decide +kernel)
      isName
    exact ((keyword.append _).append _).append _
  body := by
    intro line member
    obtain rfl : line = "return _DATA[self.value]" := List.mem_singleton.mp member
    exact .of_start _ (by decide +kernel)

/-- The member of a variant. -/
theorem Reads.member (width : Nat) {variant : Model.Variant} {index : Nat}
    (numbered : variant.index = index) (isName : isName variant.name.toList = true)
    : Reads typeName .outside (memberLines (spaces width) variant) .outside
        { members := [(variant.name, index)] } := by
  have number : toString variant.index = toString index := by
    rw [numbered]
    rfl
  have line : readLine? typeName .outside
      (spaces width ++ variant.name ++ " = " ++ toString variant.index)
      = some (.outside, { members := [(variant.name, index)] }) := by
    refine readLine?_member width isName ?_
    rw [number]
    simp only [String.toList_append, toList_spaces, List.append_assoc]
    rfl
  exact (Reads.line line).append (.docstring? width (spoken? variant.doc))

/-- The class says its members, in order. -/
theorem Reads.classLines (width : Nat) {model : Model}
    (isType : isName model.name.toList = true)
    (numbered : ∀ variant ∈ model.variants, 0 ≤ variant.index)
    (areNames : ∀ variant ∈ model.variants, isName variant.name.toList = true)
    (field : ∀ field ∈ model.field, isName field.name.toList = true)
    : Reads typeName .outside (classLines (spaces width) model) .outside
        { members := model.variants.map fun variant => (variant.name, variant.index.toNat) } := by
  have head : Reads typeName .outside
      ["", "", "@functools.total_ordering", "class " ++ model.name ++ "(enum.Enum):"]
      .outside {} := by
    refine .code ?_
    have decorator : IsCode "@functools.total_ordering" := .of_start _ (by decide +kernel)
    have type : IsCode ("class " ++ model.name ++ "(enum.Enum):") :=
      (isCode_keyword "class " "class".toList (by decide +kernel) (by decide +kernel)
        isType).append _
    simp [decorator, type]
  have doc : Reads typeName .outside (classDocLines (spaces width) model.doc) .outside {} := by
    rw [classDocLines]
    split
    next text _ => exact (Reads.docstring width text).append (.line readLine?_empty)
    next => exact .nil .outside
  have members : Reads typeName .outside (model.variants.flatMap (memberLines (spaces width)))
      .outside (Tables.concat (model.variants.map fun variant =>
        { members := [(variant.name, variant.index.toNat)] })) := by
    refine .flatMap fun variant member => ?_
    exact .member width (Int.toNat_of_nonneg (numbered variant member)).symm
      (areNames variant member)
  have methods : Reads typeName .outside
      ((standardMethods (spaces width) model.name ++ model.field.toList.map accessor).flatMap
        (Method.lines (spaces width))) .outside {} := by
    refine .silent fun method member => .method width ?_
    rcases List.mem_append.mp member with standard | added
    · exact isCodeMethod_of_mem_standardMethods width model.name method standard
    · obtain ⟨field', isField, rfl⟩ := List.mem_map.mp added
      exact isCodeMethod_accessor (field field' (Option.mem_toList.mp isField))
  have whole := ((head.append doc).append members).append methods
  have said : Tables.concat (model.variants.map fun variant =>
        { members := [(variant.name, variant.index.toNat)] })
      = { members := model.variants.map fun variant => (variant.name, variant.index.toNat) } := by
    ext1 <;> simp [Tables.concat, List.flatMap_map, ← List.map_eq_flatMap]
  rw [Tables.nil_append, Tables.nil_append, Tables.append_nil, said] at whole
  exact whole

-----------------------------------------------------------------------------------------
-- Tables
-----------------------------------------------------------------------------------------

/-- The closing line of a table is none of its entries. -/
theorem entry?_closing (table : Table) : table.entry? typeName table.closing = none := by
  cases table <;> rfl

/-- A table says its entries, in order. -/
theorem Reads.table {Part : Type} {parts : List Part} {line : Part → String}
    {said : Part → Tables} {heading : String} {table : Table}
    (opens : readLine? typeName .outside heading = some (.inside table, {}))
    (entries : ∀ part ∈ parts, table.entry? typeName (line part) = some (said part))
    : Reads typeName .outside ([heading] ++ parts.map line ++ [table.closing]) .outside
        (Tables.concat (parts.map said)) := by
  have inside : Reads typeName (.inside table) (parts.map line) (.inside table)
      (Tables.concat (parts.map said)) := by
    refine .map fun part member => readLine?_inside (entries part member) fun closes => ?_
    have entry := entries part member
    rw [closes, entry?_closing] at entry
    cases entry
  have closed : readLine? typeName (.inside table) table.closing = some (.outside, {}) := by
    simp [readLine?]
  have whole := ((Reads.line opens).append inside).append (.line closed)
  rwa [Tables.nil_append, Tables.append_nil] at whole

/-- The line that opens a table of members of a type. -/
theorem readLine?_headingOf (name : String) (rest : List Char) {type start finish : String}
    {table : Table}
    (named : Table.named? name = some table) (tableName : isName name.toList = true)
    (begins : start.toList = name.toList ++ ':' :: rest)
    (oneLine : ∀ c ∈ rest ++ finish.toList, isLineBreak c = false)
    (isType : isName type.toList = true)
    : readLine? typeName .outside (start ++ type ++ finish) = some (.inside table, {}) := by
  obtain ⟨before, behind⟩ := List.forall_mem_append.mp oneLine
  refine readLine?_heading name (rest ++ (type.toList ++ finish.toList)) named tableName ?_ ?_
  · simp only [String.toList_append, begins, List.append_assoc, List.cons_append]
  · simp only [List.forall_mem_append]
    exact ⟨before, oneLine_of_isName isType, behind⟩

/-- The name of the variant at an index. -/
def ownerName (model : Model) (index : Int) : String :=
  (variantAt? model.variants index).elim "" (·.name)

/-- Lines that can all be written are written one by one, by induction on the entries. -/
theorem mapM_eq_ok {Entry Line Failure : Type} {write : Entry → Except Failure Line}
    {line : Entry → Line} {entries : List Entry}
    (written : ∀ entry ∈ entries, write entry = .ok (line entry))
    : entries.mapM write = .ok (entries.map line) := by
  induction entries with
  | nil => rfl
  | cons entry rest ih =>
      obtain ⟨first, written⟩ := List.forall_mem_cons.mp written
      rw [List.mapM_cons, first, ih written]
      rfl

/-- The lookup table is written where every literal has an owner, and says the literals with
the names of their owners.
-/
theorem exists_reads_lookupLines (width : Nat) {model : Model}
    (isType : isName model.name.toList = true)
    (areNames : ∀ variant ∈ model.variants, isName variant.name.toList = true)
    (owned : ∀ entry ∈ model.owners,
      ∃ variant ∈ model.variants, variantAt? model.variants entry.2 = some variant)
    : ∃ lines, lookupLines (spaces width) model = .ok lines
      ∧ Reads model.name .outside lines .outside
          { entries := model.owners.map fun entry =>
              (codePoints entry.1, ownerName model entry.2) } := by
  let line := fun entry : String × Int =>
    spaces width ++ quoted entry.1 ++ ": " ++ model.name ++ "." ++ ownerName model entry.2 ++ ","
  have written : ∀ entry ∈ model.owners, lookupLine (spaces width) model entry = .ok (line entry) := by
    intro entry member
    obtain ⟨variant, -, found⟩ := owned entry member
    simp only [lookupLine, found, line, ownerName]
    rfl
  have entries : ∀ entry ∈ model.owners, Table.lookup.entry? model.name (line entry)
      = some { entries := [(codePoints entry.1, ownerName model entry.2)] } := by
    intro entry member
    obtain ⟨variant, isVariant, found⟩ := owned entry member
    refine entry?_lookup width entry.1 isType ?_ ?_
    · rw [ownerName, found]
      exact areNames variant isVariant
    · simp only [line, quoted, String.toList_append, toList_spaces, String.toList_ofList,
        List.append_assoc]
      rfl
  have opens : readLine? model.name .outside ("_LOOKUP: dict[str, " ++ model.name ++ "] = \x7b")
      = some (.inside .lookup, {}) :=
    readLine?_headingOf "_LOOKUP" " dict[str, ".toList rfl (by decide +kernel)
      (by decide +kernel) (oneLine_of_all (by decide +kernel)) isType
  have blank : Reads model.name .outside ["", ""] .outside {} := .code (by simp)
  have whole := blank.append (.table opens entries)
  have said : Tables.concat (model.owners.map fun entry =>
        { entries := [(codePoints entry.1, ownerName model entry.2)] })
      = { entries := model.owners.map fun entry =>
          (codePoints entry.1, ownerName model entry.2) } := by
    ext1 <;> simp [Tables.concat, List.flatMap_map, ← List.map_eq_flatMap]
  rw [Tables.nil_append, said] at whole
  refine ⟨_, ?_, whole⟩
  rw [lookupLines, mapM_eq_ok written]
  rfl

/-- The table of canonical texts says the primary literals. -/
theorem Reads.canonicalLines (width : Nat) (variants : List Model.Variant)
    : Reads typeName .outside (canonicalLines (spaces width) variants) .outside
        { canonical := variants.map fun variant => codePoints variant.primary } := by
  have opens : readLine? typeName .outside "_CANONICAL: tuple[str, ...] = ("
      = some (.inside .canonical, {}) :=
    readLine?_heading "_CANONICAL" " tuple[str, ...] = (".toList rfl (by decide +kernel)
      (by decide +kernel) (oneLine_of_all (by decide +kernel))
  have entries : ∀ variant ∈ variants, Table.canonical.entry? typeName
      (spaces width ++ quoted variant.primary ++ ",")
      = some { canonical := [codePoints variant.primary] } := by
    intro variant _
    refine entry?_canonical width variant.primary ?_
    simp only [quoted, String.toList_append, toList_spaces, String.toList_ofList,
      List.append_assoc]
    rfl
  have whole := (Reads.line readLine?_empty).append (.table opens entries)
  have said : Tables.concat (variants.map fun variant =>
        { canonical := [codePoints variant.primary] })
      = { canonical := variants.map fun variant => codePoints variant.primary } := by
    ext1 <;> simp [Tables.concat, List.flatMap_map, ← List.map_eq_flatMap]
  rw [Tables.nil_append, said] at whole
  exact whole

/-- The tuple of variants says their names. -/
theorem Reads.variantLines (width : Nat) {model : Model}
    (isType : isName model.name.toList = true)
    (areNames : ∀ variant ∈ model.variants, isName variant.name.toList = true)
    : Reads model.name .outside (variantLines (spaces width) model) .outside
        { order := model.variants.map (·.name) } := by
  have opens : readLine? model.name .outside
      ("VARIANTS: typing.Final[tuple[" ++ model.name ++ ", ...]] = (")
      = some (.inside .order, {}) :=
    readLine?_headingOf "VARIANTS" " typing.Final[tuple[".toList rfl (by decide +kernel)
      (by decide) (oneLine_of_all (by decide +kernel)) isType
  have entries : ∀ variant ∈ model.variants, Table.order.entry? model.name
      (spaces width ++ model.name ++ "." ++ variant.name ++ ",")
      = some { order := [variant.name] } := by
    intro variant member
    refine entry?_order width isType (areNames variant member) ?_
    simp only [String.toList_append, toList_spaces, List.append_assoc]
    rfl
  have comments : Reads model.name .outside
      ["", "# Every variant in declaration order; VARIANTS[i].index() == i.",
        "# Indexing is not bounds-checked here: an out-of-range index raises the",
        "# tuple's IndexError and negative indices wrap. Callers own range checks."]
      .outside {} := by
    refine .code ?_
    simp only [List.forall_mem_cons]
    exact ⟨Or.inl trivial, Or.inr (.of_start _ (by decide +kernel)),
      Or.inr (.of_start _ (by decide +kernel)), Or.inr (.of_start _ (by decide +kernel)), by simp⟩
  have whole := comments.append (.table opens entries)
  have said : Tables.concat (model.variants.map fun variant => { order := [variant.name] })
      = { order := model.variants.map (·.name) } := by
    ext1 <;> simp [Tables.concat, List.flatMap_map, ← List.map_eq_flatMap]
  rw [Tables.nil_append, said] at whole
  exact whole

/-- The data table says nothing: the reader does not look into expressions. -/
theorem Reads.dataLines (width : Nat) (model : Model)
    : Reads typeName .outside (dataLines (spaces width) model) .outside {} := by
  rw [Module.dataLines]
  split
  next => exact .nil .outside
  next field _ =>
    refine .code ?_
    have heading : IsCode "_DATA: tuple[" := .of_start _ (by decide +kernel)
    have closing : IsCode ")" := .of_start _ (by decide)
    have element : ∀ data, IsCode (spaces width ++ dataElement data ++ ",") := by
      intro data
      rw [String.append_assoc]
      refine IsCode.spaces ?_ width
      cases data with
      | none => exact .of_start "None," (by decide +kernel)
      | some expression =>
          have start : IsCode "(" := .of_start _ (by decide +kernel)
          exact ((start.append expression).append ")").append ","
    simp only [List.forall_mem_append, List.forall_mem_cons, List.forall_mem_map]
    exact ⟨⟨⟨Or.inl trivial, Or.inr ((heading.append _).append _), by simp⟩,
      fun variant _ => Or.inr (element variant.data)⟩, Or.inr closing, by simp⟩

end LiteralEnum.Module.Reading
