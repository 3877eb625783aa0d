import LiteralEnum.Module
import LiteralEnum.Proofs.Model.Building
import LiteralEnum.Proofs.Text.Blank

/-! The names that the body of the generated class binds. The target language compares names by
their compatibility form, the checks of a declaration by their characters: the names stay apart
and free of reserved ones exactly where the form tells the declared names apart.
-/

namespace LiteralEnum.Module

/-- The letter of a fullwidth letter. -/
def narrowChar (c : Char) : Char :=
  if (0xFF21 ≤ c.toNat ∧ c.toNat ≤ 0xFF3A) ∨ (0xFF41 ≤ c.toNat ∧ c.toNat ≤ 0xFF5A) then
    Char.ofNat (c.toNat - 0xFEE0)
  else c

def narrow (text : String) : String := String.ofList (text.toList.map narrowChar)

/-- What is known of the compatibility form of a name: an ASCII name is its own form, and a
fullwidth letter counts as the letter.
-/
structure IsCompatibilityForm (form : String → String) : Prop where
  ascii : ∀ name : String, (∀ c ∈ name.toList, c.toNat < 0x80) → form name = name
  fullwidth : ∀ name, form name = form (narrow name)

/-- The name that the signature of a method binds, behind `def` and before the parenthesis. -/
def Method.boundName (method : Method) : String :=
  String.ofList ((method.signature.toList.drop 4).takeWhile (· ≠ '('))

/-- The names that the body of the class binds: its members and its methods. -/
def boundNames (indent : String) (model : Model) : List String :=
  model.variants.map (·.name)
    ++ (standardMethods indent model.name ++ model.field.toList.map accessor).map Method.boundName

/-- The names that a declaration gives to the class. -/
def memberNames (declaration : Declaration) : List String :=
  declaration.variants.map (·.name) ++ declaration.field.toList.map (·.name)

/-- The names of the methods that every class has. -/
def standardNames : List String := ["__lt__", "__str__", "lookup", "is_match", "canonical", "index"]

theorem boundName_standardMethods (indent name : String)
    : (standardMethods indent name).map Method.boundName = standardNames := by
  simp [standardMethods, Method.boundName, standardNames, toString]

/-- The data accessor is bound to the name of the field, in which there is no parenthesis. -/
theorem boundName_accessor {field : Model.Field} (isName : Text.isName field.name.toList = true)
    : (accessor field).boundName = field.name := by
  have inside : ∀ c ∈ field.name.toList, decide (c ≠ '(') = true := by
    intro c member
    have continues := Text.isNameContinue_of_mem isName member
    refine decide_eq_true ?_
    rintro rfl
    exact absurd continues (by decide)
  have signature : (accessor field).signature.toList.drop 4
      = field.name.toList
        ++ '(' :: ("self) -> ".toList ++ field.typeText.toList ++ " | None:".toList) := by
    simp [accessor, toString]
  rw [Method.boundName, signature, List.takeWhile_append_of_pos inside, List.takeWhile_cons]
  simp

-----------------------------------------------------------------------------------------
-- Names that stay apart
-----------------------------------------------------------------------------------------

/-- By their forms, the names that the class binds are distinct, and its members and its type
leave the reserved names alone.
-/
structure StaysApart (form : String → String) (indent : String) (declaration : Declaration)
    (model : Model) : Prop where
  distinct : ((boundNames indent model).map form).Nodup
  members : ∀ name ∈ memberNames declaration, form name ∉ Model.reservedMembers
  shown : ∀ name ∈ memberNames declaration, (form name).toList.head? ≠ some '_'
  type : form model.name ∉ Model.reservedTypes

/-- The form tells the declared names apart from one another and from the reserved ones. -/
structure TellsApart (form : String → String) (declaration : Declaration) : Prop where
  members
    : ∀ name ∈ memberNames declaration,
        ∀ other ∈ memberNames declaration ++ Model.reservedMembers,
          form name = form other → name = other
  shown
    : ∀ name ∈ memberNames declaration,
        (form name).toList.head? = some '_' → name.toList.head? = some '_'
  type
    : ∀ other ∈ Model.reservedTypes, form declaration.name = form other → declaration.name = other

variable {form : String → String} {compiler : Target.Compiler} {declaration : Declaration}
  {model : Model}

/-- The bound names are the declared ones and those of the standard methods. -/
theorem boundNames_perm (admissible : Model.IsAdmissible compiler declaration)
    (faithful : Model.IsFaithful declaration model) (indent : String)
    : (boundNames indent model).Perm (memberNames declaration ++ standardNames) := by
  have variants : model.variants.map (·.name) = declaration.variants.map (·.name) := by
    refine List.ext_getElem? ?_
    intro i
    simp [faithful.variants, Model.numbered, Function.comp_def]
  have field : (model.field.toList.map accessor).map Method.boundName
      = declaration.field.toList.map (·.name) := by
    rw [faithful.field]
    cases given : declaration.field with
    | none => rfl
    | some field =>
        have isName := (admissible.usable.field field given).isName
        have bound : (accessor ⟨field.name, field.typeText⟩).boundName = field.name :=
          boundName_accessor isName
        simp [bound]
  rw [boundNames, memberNames, List.map_append, boundName_standardMethods, variants, field,
    List.append_assoc]
  exact List.perm_append_comm.append_left _

/-- The declared members are distinct and usable. -/
theorem usable_memberNames (admissible : Model.IsAdmissible compiler declaration)
    : (memberNames declaration).Nodup
      ∧ ∀ name ∈ memberNames declaration, Model.IsUsable Model.reservedMembers name := by
  refine ⟨List.nodup_append.mpr ⟨admissible.names, ?_, ?_⟩, ?_⟩
  · cases declaration.field <;> simp
  · intro name isVariant other isField same
    obtain ⟨variant, member, rfl⟩ := List.mem_map.mp isVariant
    obtain ⟨field, given, rfl⟩ := List.mem_map.mp isField
    exact admissible.usable.apart field (Option.mem_toList.mp given) variant member same
  · intro name member
    rcases List.mem_append.mp member with isVariant | isField
    · obtain ⟨variant, inVariants, rfl⟩ := List.mem_map.mp isVariant
      exact admissible.usable.variants variant inVariants
    · obtain ⟨field, given, rfl⟩ := List.mem_map.mp isField
      exact admissible.usable.field field (Option.mem_toList.mp given)

theorem IsCompatibilityForm.fixed (isForm : IsCompatibilityForm form) {names : List String}
    (ascii : (names.all fun name => name.toList.all fun c => c.toNat < 0x80) = true)
    : ∀ name ∈ names, form name = name := by
  intro name member
  refine isForm.ascii name ?_
  intro c inName
  exact of_decide_eq_true (List.all_eq_true.mp (List.all_eq_true.mp ascii name member) c inName)

/-- Reserved names are their own forms. -/
theorem IsCompatibilityForm.member (isForm : IsCompatibilityForm form)
    : ∀ name ∈ Model.reservedMembers, form name = name :=
  isForm.fixed (by decide +kernel)

theorem IsCompatibilityForm.type (isForm : IsCompatibilityForm form)
    : ∀ name ∈ Model.reservedTypes, form name = name :=
  isForm.fixed (by decide +kernel)

theorem IsCompatibilityForm.standard (isForm : IsCompatibilityForm form)
    : standardNames.map form = standardNames := by
  have same : standardNames.map form = standardNames.map id :=
    List.map_congr_left (isForm.fixed (by decide +kernel))
  rw [same, List.map_id]

/-- A standard method has a reserved name, or one that starts with an underscore. -/
theorem reserved_of_mem_standardNames
    : ∀ name ∈ standardNames, name ∈ Model.reservedMembers ∨ name.toList.head? = some '_' := by
  decide

/-- Names that stay apart are told apart by the form. -/
theorem StaysApart.tellsApart {indent : String} (isForm : IsCompatibilityForm form)
    (admissible : Model.IsAdmissible compiler declaration)
    (faithful : Model.IsFaithful declaration model)
    (apart : StaysApart form indent declaration model)
    : TellsApart form declaration := by
  have bound := boundNames_perm admissible faithful indent
  have distinct := (bound.map form).nodup_iff.mp apart.distinct
  refine ⟨?_, fun name member isHidden => absurd isHidden (apart.shown name member), ?_⟩
  · intro name member other isOther same
    rcases List.mem_append.mp isOther with declared | reserved
    · exact List.inj_on_of_nodup_map distinct (List.mem_append_left _ member)
        (List.mem_append_left _ declared) same
    · rw [isForm.member _ reserved] at same
      exact absurd reserved (same ▸ apart.members name member)
  · intro other reserved same
    rw [isForm.type _ reserved, ← faithful.name] at same
    exact absurd reserved (same ▸ apart.type)

/-- Names that the form tells apart stay apart, because the checks have told them apart. -/
theorem TellsApart.staysApart (indent : String) (isForm : IsCompatibilityForm form)
    (admissible : Model.IsAdmissible compiler declaration)
    (faithful : Model.IsFaithful declaration model) (tells : TellsApart form declaration)
    : StaysApart form indent declaration model := by
  obtain ⟨distinct, usable⟩ := usable_memberNames admissible
  have bound := boundNames_perm admissible faithful indent
  have free : ∀ name ∈ memberNames declaration, form name ∉ Model.reservedMembers := by
    intro name member reserved
    have same := tells.members name member (form name) (List.mem_append_right _ reserved)
      (isForm.member _ reserved).symm
    rw [← same] at reserved
    exact (usable name member).notReserved reserved
  have shown : ∀ name ∈ memberNames declaration, (form name).toList.head? ≠ some '_' := by
    intro name member isHidden
    exact (usable name member).notPrivate (tells.shown name member isHidden)
  refine ⟨?_, free, shown, ?_⟩
  · rw [(bound.map form).nodup_iff, List.map_append, isForm.standard, List.nodup_append]
    refine ⟨distinct.map_on ?_, by decide +kernel, ?_⟩
    · intro name member other isOther same
      exact tells.members name member other (List.mem_append_left _ isOther) same
    -- A member with the form of a standard method would have a reserved form or a hidden one.
    · intro _ isMember other isStandard same
      obtain ⟨name, member, rfl⟩ := List.mem_map.mp isMember
      rw [← same] at isStandard
      rcases reserved_of_mem_standardNames _ isStandard with reserved | isHidden
      · exact free name member reserved
      · exact shown name member isHidden
  · intro reserved
    rw [faithful.name] at reserved
    have same := tells.type _ reserved (isForm.type _ reserved).symm
    rw [← same] at reserved
    exact admissible.usable.type.notReserved reserved

/-- In the class of a declaration that is accepted, the bound names stay apart by their forms
exactly where the form tells the declared names apart.
-/
theorem staysApart_iff_tellsApart (isForm : IsCompatibilityForm form)
    (built : Model.ofDeclaration compiler declaration = .ok model) (indent : String)
    : StaysApart form indent declaration model ↔ TellsApart form declaration := by
  obtain ⟨admissible, faithful⟩ := Model.sound_of_ok built
  exact ⟨fun apart => apart.tellsApart isForm admissible faithful,
    fun tells => tells.staysApart indent isForm admissible faithful⟩

/-- A form that leaves the declared names as they are tells them apart. -/
theorem tellsApart_of_fixed (isForm : IsCompatibilityForm form)
    (fixed : ∀ name ∈ declaration.name :: memberNames declaration, form name = name)
    : TellsApart form declaration := by
  obtain ⟨typeFixed, membersFixed⟩ := List.forall_mem_cons.mp fixed
  refine ⟨?_, ?_, ?_⟩
  · intro name member other isOther same
    rw [membersFixed name member] at same
    rcases List.mem_append.mp isOther with declared | reserved
    · rwa [membersFixed other declared] at same
    · rwa [isForm.member _ reserved] at same
  · intro name member isHidden
    rwa [membersFixed name member] at isHidden
  · intro other reserved same
    rwa [typeFixed, isForm.type _ reserved] at same

-----------------------------------------------------------------------------------------
-- The least form
-----------------------------------------------------------------------------------------

theorem narrowChar_of_ascii {c : Char} (ascii : c.toNat < 0x80) : narrowChar c = c := by
  rw [narrowChar, if_neg (by omega)]

/-- A letter is no fullwidth letter. -/
theorem narrowChar_narrowChar (c : Char) : narrowChar (narrowChar c) = narrowChar c := by
  by_cases isWide : (0xFF21 ≤ c.toNat ∧ c.toNat ≤ 0xFF3A) ∨ (0xFF41 ≤ c.toNat ∧ c.toNat ≤ 0xFF5A)
  · refine narrowChar_of_ascii ?_
    have small : c.toNat - 0xFEE0 < 0x80 := by omega
    have valid : (c.toNat - 0xFEE0).isValidChar := Or.inl (by omega)
    rw [narrowChar, if_pos isWide, Char.ofNat, dif_pos valid]
    exact small
  · have same : narrowChar c = c := by rw [narrowChar, if_neg isWide]
    rw [same, same]

/-- The form that does nothing but what is known of all. -/
theorem isCompatibilityForm_narrow : IsCompatibilityForm narrow := by
  refine ⟨?_, ?_⟩
  · intro name ascii
    have same : name.toList.map narrowChar = name.toList.map id :=
      List.map_congr_left fun c member => narrowChar_of_ascii (ascii c member)
    rw [narrow, same, List.map_id, String.ofList_toList]
  · intro name
    simp only [narrow, String.toList_ofList, List.map_map]
    congr 1
    refine List.map_congr_left ?_
    intro c _
    exact (narrowChar_narrowChar c).symm

/-- Two variants, one of which is named by a letter. -/
def pairOf (second : String) : Declaration where
  name := "T"
  variants := [
    { name := "A", primary := "a", line := 1 },
    { name := second, primary := "b", line := 1 }]
  line := 1

def pairModelOf (second : String) : Model where
  name := "T"
  variants := [
    { index := 0, name := "A", primary := "a" },
    { index := 1, name := second, primary := "b" }]
  owners := [("a", 0), ("b", 1)]

/-- Two letters that are their own forms are told apart, so that they stay apart. -/
theorem staysApart_iff_tellsApart_pair
    : Model.ofDeclaration .standard (pairOf "B") = .ok (pairModelOf "B")
      ∧ StaysApart narrow "" (pairOf "B") (pairModelOf "B") := by
  have built : Model.ofDeclaration .standard (pairOf "B") = .ok (pairModelOf "B") := by
    decide +kernel
  have told : TellsApart narrow (pairOf "B") :=
    tellsApart_of_fixed isCompatibilityForm_narrow (by decide +kernel)
  exact ⟨built, (staysApart_iff_tellsApart isCompatibilityForm_narrow built "").mpr told⟩

/-- A letter and the fullwidth letter are accepted as two variants, and have one form. -/
theorem not_staysApart_pair
    : Declaration.ofSource "T = A \"a\" \uFF21 \"b\"" = .ok (pairOf "\uFF21")
      ∧ Model.ofDeclaration .standard (pairOf "\uFF21") = .ok (pairModelOf "\uFF21")
      ∧ ∀ form,
          IsCompatibilityForm form
          → ¬ ((boundNames "" (pairModelOf "\uFF21")).map form).Nodup := by
  refine ⟨by decide +kernel, by decide +kernel, ?_⟩
  intro form isForm distinct
  have narrowed : narrow "\uFF21" = "A" := by decide +kernel
  have same : form "A" = form "\uFF21" := by rw [isForm.fullwidth "\uFF21", narrowed]
  obtain ⟨notAgain, -⟩ := List.nodup_cons.mp distinct
  exact notAgain (same ▸ List.mem_cons_self)

end LiteralEnum.Module
