import LiteralEnum.Proofs.Model.Building
import LiteralEnum.Proofs.Module.DefinitionReading

/-! The tables of a module mean the declaration that the module was made from: they are read
back as the names and literals of the declaration, and looking a text up in them finds the
variant that declares it.
-/

namespace LiteralEnum.Module

open Reading

-----------------------------------------------------------------------------------------
-- Meaning
-----------------------------------------------------------------------------------------

/-- The tables say what the declaration says: they number the variants, list every literal
once, where it first occurs, with the variant that declares it, and keep the order.
-/
structure Tables.Describes (tables : Tables) (declaration : Declaration) : Prop where
  members : tables.members = declaration.variants.mapIdx fun i variant => (variant.name, i)
  literals : tables.entries.map Prod.fst
    = (declaration.variants.flatMap VariantDeclaration.literals).eraseDups.map codePoints
  once : (tables.entries.map Prod.fst).Nodup
  owners : ∀ (literal : String) (name : String),
    (codePoints literal, name) ∈ tables.entries
      ↔ ∃ variant ∈ declaration.variants, literal ∈ variant.literals ∧ variant.name = name
  canonical : tables.canonical = declaration.variants.map fun variant => codePoints variant.primary
  order : tables.order = declaration.variants.map (·.name)

/-- What the methods of the class give: the index and the canonical text of every variant,
every variant for each of its literals, and no variant for any other text.
-/
structure Tables.Behaves (tables : Tables) (declaration : Declaration) : Prop where
  index : ∀ (i : Nat) (variant : VariantDeclaration), declaration.variants[i]? = some variant →
    tables.order[i]? = some variant.name ∧ tables.index? variant.name = some i
  canonical : ∀ variant ∈ declaration.variants,
    tables.canonical? variant.name = some (codePoints variant.primary)
  lookup_canonical : ∀ variant ∈ declaration.variants,
    (tables.canonical? variant.name).bind tables.lookup? = some variant.name
  lookup_literal : ∀ variant ∈ declaration.variants, ∀ literal ∈ variant.literals,
    tables.lookup? (codePoints literal) = some variant.name
  lookup_other : ∀ text : CodePoints,
    (∀ variant ∈ declaration.variants, ∀ literal ∈ variant.literals, codePoints literal ≠ text) →
      tables.lookup? text = none
  isMatch : ∀ text : CodePoints, tables.isMatch text = true ↔ tables.lookup? text ≠ none

/-- Texts with the same code points are the same. -/
theorem codePoints_injective : Function.Injective codePoints := by
  intro left right same
  have chars : left.toList = right.toList :=
    List.map_injective_iff.mpr (fun _ _ => Char.toNat_inj.mp) same
  exact String.toList_inj.mp chars

/-- An entry is found by its key if no key occurs twice. -/
theorem lookup_eq_some_of_mem {Key Value : Type} [BEq Key] [LawfulBEq Key]
    {entries : List (Key × Value)} {key : Key} {value : Value}
    (once : (entries.map Prod.fst).Nodup) (member : (key, value) ∈ entries)
    : entries.lookup key = some value := by
  obtain ⟨before, after, rfl⟩ := List.append_of_mem member
  refine List.lookup_eq_some_iff.mpr ⟨before, after, rfl, fun other inFront => ?_⟩
  rw [List.map_append, List.nodup_append] at once
  have apart := once.2.2 other.1 (List.mem_map_of_mem inFront) key (by simp)
  exact bne_iff_ne.mpr apart.symm

variable {tables : Tables} {declaration : Declaration}

/-- Looking up finds exactly the entry of a text. -/
theorem Tables.Describes.lookup? (describes : tables.Describes declaration) {text : CodePoints}
    {name : String} (member : (text, name) ∈ tables.entries)
    : tables.lookup? text = some name := by
  refine lookup_eq_some_of_mem ?_ (List.mem_reverse.mpr member)
  rw [List.map_reverse, List.nodup_reverse]
  exact describes.once

/-- Tables that describe a declaration with distinct names behave as it says. -/
theorem Tables.Describes.behaves (describes : tables.Describes declaration)
    (names : (declaration.variants.map (·.name)).Nodup)
    : tables.Behaves declaration := by
  have distinct : (tables.members.map Prod.fst).Nodup := by
    have same : tables.members.map Prod.fst = declaration.variants.map (·.name) := by
      rw [describes.members]
      exact List.ext_getElem? fun i => by simp [Function.comp_def]
    rwa [same]
  have value : ∀ (i : Nat) (variant : VariantDeclaration),
      declaration.variants[i]? = some variant → tables.value? variant.name = some i := by
    intro i variant found
    refine lookup_eq_some_of_mem distinct ?_
    rw [describes.members]
    refine List.mem_iff_getElem?.mpr ⟨i, ?_⟩
    simp [found]
  have canonical : ∀ variant ∈ declaration.variants,
      tables.canonical? variant.name = some (codePoints variant.primary) := by
    intro variant member
    obtain ⟨i, found⟩ := List.mem_iff_getElem?.mp member
    simp [Tables.canonical?, value i variant found, describes.canonical, found]
  have literal : ∀ variant ∈ declaration.variants, ∀ literal ∈ variant.literals,
      tables.lookup? (codePoints literal) = some variant.name := fun variant member literal declared =>
    describes.lookup? ((describes.owners literal variant.name).mpr ⟨variant, member, declared, rfl⟩)
  refine ⟨fun i variant found => ⟨?_, value i variant found⟩, canonical, ?_, literal, ?_, ?_⟩
  · simp [describes.order, found]
  · intro variant member
    rw [canonical variant member, Option.bind_some]
    exact literal variant member variant.primary List.mem_cons_self
  · intro text other
    refine List.lookup_eq_none_iff.mpr fun entry member => bne_iff_ne.mpr fun same => ?_
    have key := List.mem_map_of_mem (f := Prod.fst) (List.mem_reverse.mp member)
    rw [describes.literals] at key
    obtain ⟨literal, declared, code⟩ := List.mem_map.mp key
    obtain ⟨variant, isVariant, declared⟩ := List.mem_flatMap.mp (List.mem_eraseDups.mp declared)
    exact other variant isVariant literal declared (code.trans same.symm)
  · intro text
    simp only [Tables.isMatch, List.any_eq_true, decide_eq_true_eq, Tables.lookup?, ne_eq,
      List.lookup_eq_none_iff, List.mem_reverse, bne_iff_ne, not_forall, not_not]
    constructor
    · rintro ⟨entry, member, same⟩
      exact ⟨entry, member, same.symm⟩
    · rintro ⟨entry, member, same⟩
      exact ⟨entry, member, same.symm⟩

-----------------------------------------------------------------------------------------
-- Reading back
-----------------------------------------------------------------------------------------

/-- What the definitions of a model say. -/
def tablesOf (model : Model) : Tables where
  members := model.variants.map fun variant => (variant.name, variant.index.toNat)
  entries := model.owners.map fun entry => (codePoints entry.1, ownerName model entry.2)
  canonical := model.variants.map fun variant => codePoints variant.primary
  order := model.variants.map (·.name)

/-- What the lines of a module take: names that are names, variants that are numbered from zero
on, and an owner for every literal.
-/
structure IsWritable (model : Model) : Prop where
  type : Text.isName model.name.toList = true
  variants : ∀ variant ∈ model.variants, Text.isName variant.name.toList = true
  field : ∀ field ∈ model.field, Text.isName field.name.toList = true
  numbered : ∀ variant ∈ model.variants, 0 ≤ variant.index
  owned
    : ∀ entry ∈ model.owners,
        ∃ variant ∈ model.variants, variantAt? model.variants entry.2 = some variant

/-- The definitions of a writable model can be written, and are read back. -/
theorem exists_read_definitionLines (width : Nat) {model : Model} (writable : IsWritable model)
    : ∃ lines, definitionLines (spaces width) model = .ok lines
      ∧ read? model.name .outside lines = some (tablesOf model) := by
  obtain ⟨isType, areNames, field, numbered, owned⟩ := writable
  obtain ⟨lookup, written, isLookup⟩ := exists_reads_lookupLines width isType areNames owned
  have class_ : Reads model.name .outside _ _ _ :=
    .classLines width isType numbered areNames field
  have whole := (((class_.append isLookup).append (.canonicalLines width model.variants)).append
    (.dataLines width model)).append (.variantLines width isType areNames)
  refine ⟨_, ?_, whole.read?.trans ?_⟩
  · rw [definitionLines, written]
    rfl
  · congr 1
    ext1 <;> simp [tablesOf]

/-- A natural index counts from the first variant. -/
theorem variantAt?_natCast (variants : List Model.Variant) (i : Nat)
    : variantAt? variants i = variants[i]? := by
  have natural : ¬ (i : Int) < 0 := Int.not_lt.mpr (Int.natCast_nonneg i)
  simp only [variantAt?, if_neg natural, Int.toNat_natCast]

/-- What the definitions of a faithful model say describes the declaration. -/
theorem describes_tablesOf {declaration : Declaration} {model : Model}
    (faithful : Model.IsFaithful declaration model)
    : (tablesOf model).Describes declaration := by
  have owner : ∀ (i : Nat) (variant : VariantDeclaration),
      declaration.variants[i]? = some variant → ownerName model i = variant.name := by
    intro i variant found
    rw [ownerName, variantAt?_natCast, faithful.variants, found]
    rfl
  have keys : (tablesOf model).entries.map Prod.fst = (model.owners.map Prod.fst).map codePoints := by
    simp [tablesOf]
  refine ⟨?_, ?_, ?_, ?_, ?_, ?_⟩
  · refine List.ext_getElem? fun i => ?_
    simp [tablesOf, faithful.variants, Model.numbered, Function.comp_def]
  · rw [keys, faithful.literals]
  · rw [keys]
    exact faithful.once.map codePoints_injective
  · intro literal name
    constructor
    · intro member
      obtain ⟨⟨text, index⟩, isOwned, same⟩ := List.mem_map.mp member
      obtain ⟨sameText, rfl⟩ := Prod.mk.inj same
      obtain rfl : text = literal := codePoints_injective sameText
      obtain ⟨i, variant, found, declared, rfl⟩ := (faithful.owners text index).mp isOwned
      exact ⟨variant, List.mem_of_getElem? found, declared, (owner i variant found).symm⟩
    · rintro ⟨variant, isVariant, declared, rfl⟩
      obtain ⟨i, found⟩ := List.mem_iff_getElem?.mp isVariant
      refine List.mem_map.mpr ⟨(literal, i), ?_, by rw [owner i variant found]⟩
      exact (faithful.owners literal i).mpr ⟨i, variant, found, declared, rfl⟩
  · refine List.ext_getElem? fun i => ?_
    simp [tablesOf, faithful.variants, Model.numbered, Function.comp_def]
  · refine List.ext_getElem? fun i => ?_
    simp [tablesOf, faithful.variants, Model.numbered, Function.comp_def]

-----------------------------------------------------------------------------------------
-- Modules of declarations
-----------------------------------------------------------------------------------------

/-- A faithful model of an admissible declaration is writable. -/
theorem isWritable_of_faithful {compiler : Target.Compiler} {declaration : Declaration}
    {model : Model} (admissible : Model.IsAdmissible compiler declaration)
    (faithful : Model.IsFaithful declaration model) : IsWritable model := by
  have variant : ∀ variant ∈ model.variants,
      ∃ i declared, declaration.variants[i]? = some declared
        ∧ variant = Model.numbered i declared := by
    intro variant member
    obtain ⟨i, found⟩ := List.mem_iff_getElem?.mp member
    rw [faithful.variants, Option.map_eq_some_iff] at found
    obtain ⟨declared, isDeclared, rfl⟩ := found
    exact ⟨i, declared, isDeclared, rfl⟩
  refine ⟨?_, ?_, ?_, ?_, ?_⟩
  · rw [faithful.name]
    exact admissible.usable.type.isName
  · intro other member
    obtain ⟨i, declared, isDeclared, rfl⟩ := variant other member
    exact (admissible.usable.variants declared (List.mem_of_getElem? isDeclared)).isName
  · intro field isField
    rw [faithful.field] at isField
    obtain ⟨declared, isDeclared, rfl⟩ := Option.map_eq_some_iff.mp isField
    exact (admissible.usable.field declared isDeclared).isName
  · intro other member
    obtain ⟨i, declared, -, rfl⟩ := variant other member
    exact Int.natCast_nonneg i
  · rintro ⟨literal, index⟩ member
    obtain ⟨i, declared, found, -, rfl⟩ := (faithful.owners literal index).mp member
    have numbered : model.variants[i]? = some (Model.numbered i declared) := by
      rw [faithful.variants, found]
      rfl
    exact ⟨_, List.mem_of_getElem? numbered, by rw [variantAt?_natCast, numbered]⟩

/-- Such a model can be written and is read back. -/
theorem exists_tables {compiler : Target.Compiler} {declaration : Declaration} {model : Model}
    (admissible : Model.IsAdmissible compiler declaration)
    (faithful : Model.IsFaithful declaration model) (settings : Settings)
    : ∃ definitions,
        definitionLines settings.indent model = .ok definitions
        ∧ read? model.name .outside definitions = some (tablesOf model) :=
  exists_read_definitionLines settings.indentWidth.toNat
    (isWritable_of_faithful admissible faithful)

/-- The module around its definitions. -/
theorem lines_of_definitionLines {settings : Settings} {model : Model} {definitions : List String}
    (written : definitionLines settings.indent model = .ok definitions)
    : lines settings model
      = .ok (headerLines settings ++ preambleLines model ++ definitions
          ++ allLines settings model.name) := by
  cases lookup : lookupLines settings.indent model with
  | error failure => simp [definitionLines, lookup, bind, Except.bind] at written
  | ok entries =>
      have whole : classLines settings.indent model ++ entries
          ++ canonicalLines settings.indent model.variants ++ dataLines settings.indent model
          ++ variantLines settings.indent model = definitions := by
        simpa [definitionLines, lookup, bind, Except.bind, pure, Except.pure] using written
      simp only [lines, bodyLines, lookup, bind, Except.bind, pure, Except.pure, ← whole,
        List.append_assoc]

/-- A source of two variants, the first with an alternate literal that has a quote. -/
def twoVariants : String := "T = A \"a\" \"it's\" B \"c\""

def twoVariantsModel : Model where
  name := "T"
  variants := [
    { index := 0, name := "A", primary := "a", alternates := ["it's"] },
    { index := 1, name := "B", primary := "c" }]
  owners := [("a", 0), ("it's", 0), ("c", 1)]

end LiteralEnum.Module
