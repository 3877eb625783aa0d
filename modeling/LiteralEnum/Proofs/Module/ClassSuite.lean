import LiteralEnum.Proofs.Module.TableMeaning
import LiteralEnum.Proofs.Target.StatementTexts
import LiteralEnum.Proofs.Target.Suites
import LiteralEnum.Proofs.Text.Lines

/-! The class of a module as a suite: its lines are rows at levels, and the class and each of its
methods is the heading of a block, whatever the width of the indent.
-/

namespace LiteralEnum.Module

open Reading (spaces toList_spaces spaces_append)
open Target (Row Suite HasBlock statement? startsStatement essence stepIn stepOut isPlain balance)

-----------------------------------------------------------------------------------------
-- Names and numbers
-----------------------------------------------------------------------------------------

/-- The text can stand in a line of plain text without changing its brackets. -/
structure IsInert (text : List Char) : Prop where
  plain : ∀ c ∈ text, isPlain c = true
  flat : balance text = 0

theorem isInert_of {property : Char → Bool} {text : List Char}
    (holds : ∀ c ∈ text, property c = true)
    (excludes : (Target.marking ++ Target.brackets).all (!property ·) = true) : IsInert text := by
  rw [List.all_append, Bool.and_eq_true] at excludes
  exact ⟨fun c member => Target.isPlain_of excludes.1 (holds c member),
    Target.balance_eq_zero fun c member =>
      Target.bracket_eq_zero_of excludes.2 (holds c member)⟩

theorem isInert_name {name : String} (isName : Text.isName name.toList = true)
    : IsInert name.toList :=
  isInert_of (fun _ member => Text.isNameContinue_of_mem isName member) (by decide)

theorem isInert_number (value : Nat) : IsInert (toString value).toList :=
  isInert_of (Reading.isDigit_of_mem_toString value) (by decide)

theorem IsInert.append {text more : List Char} (first : IsInert text) (second : IsInert more)
    : IsInert (text ++ more) where
  plain := List.forall_mem_append.mpr ⟨first.plain, second.plain⟩
  flat := by rw [Target.balance_append, first.flat, second.flat, Int.add_zero]

/-- Plain text with as many opening brackets as closing ones more than the other way round. -/
def isPlainWith (turn : Int) (text : List Char) : Bool := text.all isPlain && balance text = turn

/-- Inert text between two others leaves them plain and their brackets as they are. -/
theorem IsInert.between {inner : List Char} (isInert : IsInert inner) (turn : Int)
    (before after : List Char) (frame : isPlainWith turn (before ++ after) = true)
    : (∀ c ∈ before ++ inner ++ after, isPlain c = true)
      ∧ balance (before ++ inner ++ after) = turn := by
  simp only [isPlainWith, Bool.and_eq_true, List.all_eq_true, List.forall_mem_append,
    decide_eq_true_eq, Target.balance_append] at frame
  obtain ⟨⟨front, back⟩, flat⟩ := frame
  constructor
  · simp only [List.forall_mem_append]
    exact ⟨⟨front, isInert.plain⟩, back⟩
  · rw [Target.balance_append, Target.balance_append, isInert.flat, Int.add_zero, flat]

/-- The line is a statement. -/
def IsStatement (line : String) : Prop := ∃ tokens, statement? line.toList = some tokens

/-- Plain text with balanced brackets around inert text is a statement. -/
theorem isStatement_around {before inner after : String} (isInert : IsInert inner.toList)
    (starts : startsStatement (before.toList ++ inner.toList) = true)
    (frame : isPlainWith 0 (before.toList ++ after.toList) = true)
    : IsStatement (before ++ inner ++ after) := by
  obtain ⟨plain, flat⟩ := isInert.between 0 _ _ frame
  rw [IsStatement, String.toList_append, String.toList_append]
  exact Target.exists_statement_plain (Target.startsStatement_append starts _) plain flat

/-- A line that is plain text with balanced brackets. -/
def isPlainStatement (line : String) : Bool :=
  startsStatement line.toList && isPlainWith 0 line.toList

theorem isStatement_of_plain {line : String} (checked : isPlainStatement line = true)
    : IsStatement line := by
  rw [isPlainStatement, Bool.and_eq_true] at checked
  obtain ⟨starts, frame⟩ := checked
  rw [isPlainWith, Bool.and_eq_true, List.all_eq_true, decide_eq_true_eq] at frame
  exact Target.exists_statement_plain starts frame.1 frame.2

theorem startsStatement_name {name : String} (isName : Text.isName name.toList = true)
    : startsStatement name.toList = true := by
  obtain ⟨c, rest, chars⟩ := List.exists_cons_of_ne_nil (l := name.toList) (by
    intro empty
    rw [empty] at isName
    cases isName)
  rw [chars] at isName ⊢
  have continues := Text.isNameContinue_of_mem isName List.mem_cons_self
  have other : ∀ d ∈ [' ', '\t', '\x0c', '#', '\r', '\n'], c ≠ d := by
    rintro d member rfl
    have stops : ([' ', '\t', '\x0c', '#', '\r', '\n'].all (!Text.isNameContinue ·)) = true := by
      decide
    have stop := List.all_eq_true.mp stops c member
    rw [continues] at stop
    cases stop
  simp only [List.forall_mem_cons, List.not_mem_nil, false_implies, implies_true, and_true]
    at other
  simp [startsStatement, Target.isSpacing, Target.isBreak, other]

-----------------------------------------------------------------------------------------
-- Doc texts on one line
-----------------------------------------------------------------------------------------

namespace Docstring

theorem exists_statement_line {text : List Char} (single : '\n' ∉ text)
    : ∃ tokens, statement? (line text) = some tokens :=
  Target.exists_statement_doc (sealed_body text) (not_mem_body (by decide) single)

end Docstring

/-- A doc text on a line of its own. -/
def docRow (level : Nat) (text : String) : Row := .code level (Docstring.line text.toList)

theorem toList_docstring {text : String} (single : '\n' ∉ text.toList) (level width : Nat)
    : (docstring (spaces (level * width)) text).map String.toList
      = [(docRow level text).line width] := by
  rw [docstring, Docstring.lines_of_single single, toList_spaces]
  simp [docRow, Row.line]

/-- The doc text, if there is one. -/
theorem toList_docstring? {doc : Option String} (single : ∀ text ∈ doc, '\n' ∉ text.toList)
    (level width : Nat)
    : ((doc.map (docstring (spaces (level * width)))).getD []).map String.toList
      = (doc.toList.map (docRow level)).map (Row.line width) := by
  cases doc with
  | none => rfl
  | some text => exact toList_docstring (single text rfl) level width

theorem single_spoken {doc : Option String} (single : ∀ text ∈ doc, '\n' ∉ text.toList)
    : ∀ text ∈ spoken? doc, '\n' ∉ text.toList :=
  fun text member => single text (Option.filter_eq_some_iff.mp member).1

-----------------------------------------------------------------------------------------
-- Suites of one-line statements
-----------------------------------------------------------------------------------------

/-- The row of a line of code. -/
def codeRow (level : Nat) (line : String) : Row := .code level line.toList

theorem toList_codeLine (level width : Nat) (line : String)
    : (spaces (level * width) ++ line).toList = (codeRow level line).line width := by
  rw [String.toList_append, toList_spaces]
  rfl

/-- Statements one after the other, by induction on them. -/
theorem exists_suite_texts (level : Nat) {texts : List (List Char)}
    (areStatements : ∀ text ∈ texts, ∃ tokens, statement? text = some tokens)
    : ∃ tokens, Suite level (texts.map (.code level ·)) tokens := by
  induction texts with
  | nil => exact ⟨[], .nil level⟩
  | cons text rest ih =>
      obtain ⟨⟨read, isStatement⟩, areStatements⟩ := List.forall_mem_cons.mp areStatements
      obtain ⟨tokens, suite⟩ := ih areStatements
      exact ⟨_, .statement isStatement suite⟩

theorem exists_suite_lines (level : Nat) {lines : List String}
    (areStatements : ∀ line ∈ lines, IsStatement line)
    : ∃ tokens, Suite level (lines.map (codeRow level)) tokens := by
  have statements : ∀ text ∈ lines.map String.toList, ∃ tokens, statement? text = some tokens :=
    List.forall_mem_map.mpr areStatements
  obtain ⟨tokens, suite⟩ := exists_suite_texts level statements
  rw [List.map_map] at suite
  exact ⟨tokens, suite⟩

theorem exists_suite_docs (level : Nat) {doc : Option String}
    (single : ∀ text ∈ doc, '\n' ∉ text.toList)
    : ∃ tokens, Suite level (doc.toList.map (docRow level)) tokens := by
  have areStatements : ∀ line ∈ doc.toList.map fun text => Docstring.line text.toList,
      ∃ tokens, statement? line = some tokens := by
    simp only [List.forall_mem_map, Option.mem_toList]
    exact fun text member => Docstring.exists_statement_line (single text member)
  obtain ⟨tokens, suite⟩ := exists_suite_texts level areStatements
  rw [List.map_map] at suite
  exact ⟨tokens, suite⟩

/-- The tokens of a block alone. -/
def blockTokens (heading inside : List Target.Token) : List Target.Token :=
  essence heading ++ stepIn :: (inside ++ [stepOut])

theorem suite_block {level : Nat} {heading : List Char} {body : List Row}
    {read inside : List Target.Token} (isStatement : statement? heading = some read)
    (isBody : Suite (level + 1) body inside) (filled : ∃ row ∈ body, row ≠ .blank)
    : Suite level (.code level heading :: body) (blockTokens read inside) := by
  have suite := Suite.block isStatement isBody filled (.nil level)
  rwa [List.append_nil] at suite

/-- The suite holds the block of a heading. -/
def HeadsBlock (tokens : List Target.Token) (heading : String) : Prop :=
  ∃ read, statement? heading.toList = some read ∧ HasBlock tokens (essence read)

theorem headsBlock_blockTokens {level : Nat} {heading : String} {body : List Row}
    {read inside : List Target.Token} (isStatement : statement? heading.toList = some read)
    (isBody : Suite level body inside) : HeadsBlock (blockTokens read inside) heading :=
  ⟨read, isStatement, [], inside, [], rfl, isBody.isNested⟩

theorem HeadsBlock.append {tokens : List Target.Token} {heading : String}
    (heads : HeadsBlock tokens heading) (before after : List Target.Token)
    : HeadsBlock (before ++ tokens ++ after) heading := by
  obtain ⟨read, isStatement, block⟩ := heads
  exact ⟨read, isStatement, block.append before after⟩

-----------------------------------------------------------------------------------------
-- Methods
-----------------------------------------------------------------------------------------

/-- The rows of a method whose body is flat. -/
def Method.rows (method : Method) : List Row :=
  .blank :: method.decorator.toList.map (codeRow 1)
    ++ codeRow 1 method.signature
      :: (method.doc.toList.map (docRow 2) ++ method.body.map (codeRow 2))

/-- The signature and the lines of the body are statements, and the doc text is one line. -/
structure Method.IsFlat (method : Method) : Prop where
  decorator : ∀ line ∈ method.decorator, IsStatement line
  signature : IsStatement method.signature
  doc : ∀ text ∈ method.doc, '\n' ∉ text.toList
  body : ∀ line ∈ method.body, IsStatement line
  present : method.body ≠ []

theorem Method.toList_lines {method : Method} (doc : ∀ text ∈ method.doc, '\n' ∉ text.toList)
    (width : Nat)
    : (method.lines (spaces width)).map String.toList = method.rows.map (Row.line width) := by
  have docs := toList_docstring? doc 2 width
  have code (level : Nat) (lines : List String)
      : (lines.map (spaces (level * width) ++ ·)).map String.toList
        = (lines.map (codeRow level)).map (Row.line width) := by
    simp only [List.map_map]
    exact List.map_congr_left fun line _ => toList_codeLine level width line
  have decorators := code 1 method.decorator.toList
  have body := code 2 method.body
  have signature := toList_codeLine 1 width method.signature
  rw [Nat.one_mul] at decorators signature
  rw [Nat.two_mul] at body docs
  simp only [Method.lines, spaces_append, Method.rows, List.map_append, List.map_cons,
    List.map_nil, decorators, body, docs, signature]
  simp [Row.line]

/-- A flat method is a suite with the block of its signature. -/
theorem Method.IsFlat.exists_suite {method : Method} (isFlat : method.IsFlat)
    : ∃ tokens, Suite 1 method.rows tokens ∧ HeadsBlock tokens method.signature := by
  obtain ⟨heading, signature⟩ := isFlat.signature
  have decorators : ∀ line ∈ method.decorator.toList, IsStatement line := by
    simpa using isFlat.decorator
  obtain ⟨before, decorated⟩ := exists_suite_lines 1 decorators
  obtain ⟨said, docs⟩ := exists_suite_docs 2 isFlat.doc
  obtain ⟨inside, body⟩ := exists_suite_lines 2 isFlat.body
  obtain ⟨line, member⟩ := List.exists_mem_of_ne_nil _ isFlat.present
  have filled : ∃ row ∈ method.doc.toList.map (docRow 2) ++ method.body.map (codeRow 2),
      row ≠ .blank :=
    ⟨codeRow 2 line, List.mem_append_right _ (List.mem_map_of_mem member), by simp [codeRow]⟩
  have inner := docs.append body
  have heads := (headsBlock_blockTokens signature inner).append before []
  rw [List.append_nil] at heads
  exact ⟨_, .blank (decorated.append (suite_block signature inner filled)), heads⟩

-----------------------------------------------------------------------------------------
-- The comparison
-----------------------------------------------------------------------------------------

/-- The comparison of variants, with a block of its own in its body. -/
def comparison (indent : String) : Method where
  signature := "def __lt__(self, other: object) -> bool:"
  body := ["if self.__class__ is other.__class__:",
    indent ++ "return self.value < other.value  # type: ignore[attr-defined]",
    "return NotImplemented"]

/-- The methods that every class has, without the comparison. -/
def otherMethods (name : String) : List Method := (standardMethods "" name).tail

theorem standardMethods_eq (indent name : String)
    : standardMethods indent name = comparison indent :: otherMethods name := rfl

def comparisonRows : List Row :=
  [.blank, codeRow 1 (comparison "").signature, codeRow 2 "if self.__class__ is other.__class__:",
    codeRow 3 "return self.value < other.value  # type: ignore[attr-defined]",
    codeRow 2 "return NotImplemented"]

theorem toList_comparison (width : Nat)
    : ((comparison (spaces width)).lines (spaces width)).map String.toList
      = comparisonRows.map (Row.line width) := by
  have signature := toList_codeLine 1 width "def __lt__(self, other: object) -> bool:"
  have body := toList_codeLine 2 width
  have further (line : String)
      : (codeRow 2 (spaces width ++ line)).line width = (codeRow 3 line).line width := by
    have three : 2 * width + width = 3 * width := by omega
    rw [codeRow, codeRow, Row.line, Row.line, String.toList_append, toList_spaces,
      ← List.append_assoc, List.replicate_append_replicate, three]
  rw [Nat.one_mul] at signature
  simp only [Nat.two_mul] at body
  simp only [Method.lines, comparison, comparisonRows, List.map_cons, List.map_nil,
    spaces_append, Option.toList, Option.map_none, Option.getD_none, List.append_nil,
    List.cons_append, List.nil_append, signature, body, further]
  rfl

/-- The comparison is a suite with the block of its signature. -/
theorem exists_suite_comparison
    : ∃ tokens, Suite 1 comparisonRows tokens ∧ HeadsBlock tokens (comparison "").signature := by
  obtain ⟨heading, signature⟩ : IsStatement (comparison "").signature :=
    isStatement_of_plain (by decide +kernel)
  obtain ⟨test, isTest⟩ : IsStatement "if self.__class__ is other.__class__:" :=
    isStatement_of_plain (by decide +kernel)
  -- the comment behind the comparison makes its line no plain text
  have compared : (statement? "return self.value < other.value  # type: ignore[attr-defined]".toList
      ).isSome = true := by decide +kernel
  obtain ⟨answer, isAnswer⟩ := Option.isSome_iff_exists.mp compared
  obtain ⟨refusal, isRefusal⟩ : IsStatement "return NotImplemented" :=
    isStatement_of_plain (by decide +kernel)
  have inner : Suite 2 (comparisonRows.drop 2) _ :=
    .block isTest (.statement isAnswer (.nil 3)) ⟨_, List.mem_cons_self, by simp⟩
      (.statement isRefusal (.nil 2))
  have filled : ∃ row ∈ comparisonRows.drop 2, row ≠ .blank := ⟨_, List.mem_cons_self, nofun⟩
  exact ⟨_, .blank (suite_block signature inner filled), headsBlock_blockTokens signature inner⟩

-----------------------------------------------------------------------------------------
-- The other methods
-----------------------------------------------------------------------------------------

theorem isFlat_single {decorator doc : Option String} {signature line : String}
    (decorated : ∀ text ∈ decorator, text = "@classmethod") (isSignature : IsStatement signature)
    (single : ∀ text ∈ doc, '\n' ∉ text.toList) (isLine : isPlainStatement line = true)
    : Method.IsFlat ⟨decorator, signature, doc, [line]⟩ where
  decorator text member := decorated text member ▸ isStatement_of_plain (by decide +kernel)
  signature := isSignature
  doc := single
  body _ member := List.mem_singleton.mp member ▸ isStatement_of_plain isLine
  present := List.cons_ne_nil _ _

theorem not_mem_of_name {name : String} (isName : Text.isName name.toList = true)
    {before after : String} (frame : '\n' ∉ before.toList ++ after.toList)
    : '\n' ∉ (before ++ name ++ after).toList := by
  have inName := Target.noFeed_of_isPlain (isInert_name isName).plain
  simp_all

theorem isFlat_of_mem_otherMethods {name : String} (isName : Text.isName name.toList = true)
    : ∀ method ∈ otherMethods name, method.IsFlat := by
  have single {said : String} (checked : '\n' ∉ said.toList)
      : ∀ text ∈ some said, '\n' ∉ text.toList := by
    rintro _ ⟨⟩
    exact checked
  have called : ∀ text ∈ some "@classmethod", text = "@classmethod" := fun _ same =>
    (Option.some.inj same).symm
  intro method member
  rcases List.mem_cons.mp member with rfl | member
  · exact isFlat_single nofun (isStatement_of_plain (by decide +kernel)) nofun (by decide +kernel)
  rcases List.mem_cons.mp member with rfl | member
  · have starts : startsStatement "def lookup(cls, text: str) -> ".toList = true := by
      decide +kernel
    have signature : IsStatement ("def lookup(cls, text: str) -> " ++ name ++ " | None:") :=
      isStatement_around (isInert_name isName) (Target.startsStatement_append starts _)
        (by decide +kernel)
    exact isFlat_single called signature (single (by decide +kernel)) (by decide +kernel)
  rcases List.mem_cons.mp member with rfl | member
  · exact isFlat_single called (isStatement_of_plain (by decide +kernel))
      (single (by decide +kernel)) (by decide +kernel)
  rcases List.mem_cons.mp member with rfl | member
  · exact isFlat_single nofun (isStatement_of_plain (by decide +kernel))
      (single (by decide +kernel)) (by decide +kernel)
  rw [List.mem_singleton.mp member]
  exact isFlat_single nofun (isStatement_of_plain (by decide +kernel))
    (single (by decide +kernel)) (by decide +kernel)

theorem isFlat_accessor {field : Model.Field} (isName : Text.isName field.name.toList = true)
    (signature : IsStatement (accessor field).signature) : (accessor field).IsFlat := by
  refine isFlat_single nofun signature ?_ (by decide +kernel)
  rintro _ ⟨⟩
  exact not_mem_of_name isName (by decide +kernel)

/-- Flat methods one after the other, by induction on them. -/
theorem exists_suite_methods {methods : List Method} (areFlat : ∀ method ∈ methods, method.IsFlat)
    : ∃ tokens, Suite 1 (methods.flatMap Method.rows) tokens
        ∧ ∀ method ∈ methods, HeadsBlock tokens method.signature := by
  induction methods with
  | nil => exact ⟨[], .nil 1, nofun⟩
  | cons method methods ih =>
      obtain ⟨isFlat, areFlat⟩ := List.forall_mem_cons.mp areFlat
      obtain ⟨first, suite, heads⟩ := isFlat.exists_suite
      obtain ⟨others, suites, allHead⟩ := ih areFlat
      refine ⟨first ++ others, suite.append suites, List.forall_mem_cons.mpr ⟨?_, ?_⟩⟩
      · exact heads.append [] others
      · intro other member
        have behind := (allHead other member).append first []
        rwa [List.append_nil] at behind

theorem toList_methods {methods : List Method} (areFlat : ∀ method ∈ methods, method.IsFlat)
    (width : Nat)
    : (methods.flatMap (Method.lines (spaces width))).map String.toList
      = (methods.flatMap Method.rows).map (Row.line width) := by
  rw [List.map_flatMap, List.map_flatMap]
  exact List.flatMap_congr fun method member =>
    Method.toList_lines (areFlat method member).doc width

-----------------------------------------------------------------------------------------
-- Members
-----------------------------------------------------------------------------------------

/-- The doc texts of a model are single lines. -/
structure HasSingleDocs (model : Model) : Prop where
  type : ∀ text ∈ model.doc, '\n' ∉ text.toList
  variants : ∀ variant ∈ model.variants, ∀ text ∈ variant.doc, '\n' ∉ text.toList

def memberLine (variant : Model.Variant) : String := s!"{variant.name} = {variant.index}"

def memberRows (variant : Model.Variant) : List Row :=
  codeRow 1 (memberLine variant) :: (spoken? variant.doc).toList.map (docRow 1)

theorem toList_memberLines {variant : Model.Variant}
    (single : ∀ text ∈ variant.doc, '\n' ∉ text.toList) (width : Nat)
    : (memberLines (spaces width) variant).map String.toList
      = (memberRows variant).map (Row.line width) := by
  have docs := toList_docstring? (single_spoken single) 1 width
  have line := toList_codeLine 1 width (memberLine variant)
  have parts : spaces width ++ variant.name ++ " = " ++ toString variant.index
      = spaces width ++ memberLine variant := by
    simp only [memberLine, String.append_assoc]
    rfl
  rw [Nat.one_mul, ← parts] at line
  rw [Nat.one_mul] at docs
  rw [memberRows, List.map_cons, ← docs, ← line]
  rfl

theorem isStatement_memberLine {variant : Model.Variant} (natural : 0 ≤ variant.index)
    (isName : Text.isName variant.name.toList = true) : IsStatement (memberLine variant) := by
  have number : toString variant.index = toString variant.index.toNat := by
    rw [← Int.toNat_of_nonneg natural]
    rfl
  have inert := (isInert_name isName).between 0 [] [' ', '=', ' '] (by decide)
  have whole : IsInert (variant.name ++ " = " ++ toString variant.index).toList := by
    rw [number, String.toList_append, String.toList_append]
    exact IsInert.append ⟨inert.1, inert.2⟩ (isInert_number _)
  have starts
      : startsStatement (variant.name ++ " = " ++ toString variant.index).toList = true := by
    rw [String.toList_append, String.toList_append, List.append_assoc]
    exact Target.startsStatement_append (startsStatement_name isName) _
  exact Target.exists_statement_plain starts whole.plain whole.flat

/-- Members are statements, each with its doc text behind it. -/
theorem exists_suite_members {variants : List Model.Variant}
    (names : ∀ variant ∈ variants, Text.isName variant.name.toList = true)
    (numbered : ∀ variant ∈ variants, 0 ≤ variant.index)
    (single : ∀ variant ∈ variants, ∀ text ∈ variant.doc, '\n' ∉ text.toList)
    : ∃ tokens, Suite 1 (variants.flatMap memberRows) tokens := by
  induction variants with
  | nil => exact ⟨[], .nil 1⟩
  | cons variant variants ih =>
      obtain ⟨isName, names⟩ := List.forall_mem_cons.mp names
      obtain ⟨natural, numbered⟩ := List.forall_mem_cons.mp numbered
      obtain ⟨doc, single⟩ := List.forall_mem_cons.mp single
      obtain ⟨read, isStatement⟩ := isStatement_memberLine natural isName
      obtain ⟨said, docs⟩ := exists_suite_docs 1 (single_spoken doc)
      obtain ⟨others, suite⟩ := ih names numbered single
      exact ⟨_, .statement isStatement (docs.append suite)⟩

-----------------------------------------------------------------------------------------
-- The class
-----------------------------------------------------------------------------------------

def classHeading (model : Model) : String := s!"class {model.name}(enum.Enum):"

def classDocRows (doc : Option String) : List Row :=
  (spoken? doc).toList.flatMap fun text => [docRow 1 text, .blank]

/-- The methods of the class other than the comparison. -/
def addedMethods (model : Model) : List Method :=
  otherMethods model.name ++ model.field.toList.map accessor

def bodyRows (model : Model) : List Row :=
  classDocRows model.doc ++ model.variants.flatMap memberRows ++ comparisonRows
    ++ (addedMethods model).flatMap Method.rows

def classRows (model : Model) : List Row :=
  .blank :: .blank :: codeRow 0 "@functools.total_ordering"
    :: codeRow 0 (classHeading model) :: bodyRows model

/-- The headings of the blocks of the class: its own and those of its methods. -/
def headings (model : Model) : List String :=
  classHeading model :: (standardMethods "" model.name ++ model.field.toList.map accessor).map
    (·.signature)

theorem headings_eq (model : Model)
    : headings model
      = classHeading model :: (comparison "").signature :: (addedMethods model).map (·.signature) :=
  rfl

theorem toList_classDocLines {doc : Option String} (single : ∀ text ∈ doc, '\n' ∉ text.toList)
    (width : Nat)
    : (classDocLines (spaces width) doc).map String.toList
      = (classDocRows doc).map (Row.line width) := by
  rw [classDocLines, classDocRows]
  cases said : spoken? doc with
  | none => rfl
  | some text =>
      have docs := toList_docstring (single_spoken single text said) 1 width
      rw [Nat.one_mul] at docs
      rw [List.map_append, docs]
      rfl

theorem exists_suite_classDoc {doc : Option String} (single : ∀ text ∈ doc, '\n' ∉ text.toList)
    : ∃ tokens, Suite 1 (classDocRows doc) tokens := by
  rw [classDocRows]
  cases said : spoken? doc with
  | none => exact ⟨[], .nil 1⟩
  | some text =>
      obtain ⟨read, isStatement⟩ :=
        Docstring.exists_statement_line (single_spoken single text said)
      exact ⟨_, .statement isStatement (.blank (.nil 1))⟩

section

variable {model : Model} (writable : IsWritable model) (single : HasSingleDocs model)
  (field : ∀ field ∈ model.field, IsStatement (accessor field).signature)

include writable field in
theorem isFlat_of_mem_addedMethods : ∀ method ∈ addedMethods model, method.IsFlat := by
  refine List.forall_mem_append.mpr ⟨isFlat_of_mem_otherMethods writable.type, ?_⟩
  simp only [List.forall_mem_map, Option.mem_toList]
  exact fun found member => isFlat_accessor (writable.field found member) (field found member)

include writable single field

/-- The lines of the class are its rows at the width of the indent. -/
theorem toList_classLines (width : Nat)
    : (classLines (spaces width) model).map String.toList
      = (classRows model).map (Row.line width) := by
  have doc := toList_classDocLines single.type width
  have members : (model.variants.flatMap (memberLines (spaces width))).map String.toList
      = (model.variants.flatMap memberRows).map (Row.line width) := by
    rw [List.map_flatMap, List.map_flatMap]
    exact List.flatMap_congr fun variant member =>
      toList_memberLines (single.variants variant member) width
  have methods := toList_methods (isFlat_of_mem_addedMethods writable field) width
  have added : comparison (spaces width) :: otherMethods model.name
        ++ model.field.toList.map accessor = comparison (spaces width) :: addedMethods model := rfl
  simp only [classLines, standardMethods_eq, added, List.flatMap_cons, List.map_append, doc,
    members, toList_comparison, methods, classRows, bodyRows, List.map_cons, codeRow, Row.line,
    Nat.zero_mul, List.replicate_zero, List.nil_append, List.cons_append, List.append_assoc]
  rfl

/-- The class is a suite, and it and its methods head blocks. -/
theorem exists_suite_class
    : ∃ tokens, Suite 0 (classRows model) tokens
        ∧ ∀ heading ∈ headings model, HeadsBlock tokens heading := by
  obtain ⟨decorator, isDecorator⟩ : IsStatement "@functools.total_ordering" :=
    isStatement_of_plain (by decide +kernel)
  have starts : startsStatement "class ".toList = true := by decide +kernel
  have isHeading : IsStatement (classHeading model) :=
    isStatement_around (isInert_name writable.type) (Target.startsStatement_append starts _)
      (by decide +kernel)
  obtain ⟨heading, isHeading⟩ := isHeading
  obtain ⟨said, doc⟩ := exists_suite_classDoc single.type
  obtain ⟨members, areMembers⟩ :=
    exists_suite_members writable.variants writable.numbered single.variants
  obtain ⟨compared, isComparison, comparisonHeads⟩ := exists_suite_comparison
  obtain ⟨added, areAdded, addedHead⟩ :=
    exists_suite_methods (isFlat_of_mem_addedMethods writable field)
  have inner := ((doc.append areMembers).append isComparison).append areAdded
  have filled : ∃ row ∈ bodyRows model, row ≠ .blank := by
    refine ⟨codeRow 1 (comparison "").signature, ?_, nofun⟩
    simp [bodyRows, comparisonRows]
  have heads := headsBlock_blockTokens isHeading inner
  refine ⟨_, .blank (.blank (.statement isDecorator (suite_block isHeading inner filled))), ?_⟩
  rw [headings_eq, List.forall_mem_cons, List.forall_mem_cons, List.forall_mem_map]
  refine ⟨?_, ?_, fun method member => ?_⟩
  · simpa using heads.append (essence decorator) []
  · simpa [blockTokens] using comparisonHeads.append
      (essence decorator ++ essence heading ++ [stepIn] ++ said ++ members) (added ++ [stepOut])
  · simpa [blockTokens] using (addedHead method member).append
      (essence decorator ++ essence heading ++ [stepIn] ++ said ++ members ++ compared) [stepOut]

end

end LiteralEnum.Module
