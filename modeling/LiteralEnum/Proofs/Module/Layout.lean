import LiteralEnum.Module.Compile
import LiteralEnum.Proofs.Declaration.Acceptance
import LiteralEnum.Proofs.Module.FrameLayout
import LiteralEnum.Proofs.Token.LexicalExactness
import LiteralEnum.Settings.Environment

/-! The settings change the layout of a module and nothing else. Between the comments of the header
and the exported names, the tokens of a module are the same at every width of indent, and the class
and its methods are blocks. Only without an indent there are no blocks.
-/

-----------------------------------------------------------------------------------------
-- The name of the type
-----------------------------------------------------------------------------------------

namespace LiteralEnum.Lexer

theorem Piece.exists_isWordStart {position : Position} {piece : Piece} {token : Token}
    (isToken : piece.token? position = some token) (kind : token.kind = .identifier)
    : ∃ first rest, token.value.toList = first :: rest ∧ isWordStart first = true := by
  cases piece with
  | word first rest starts =>
      obtain rfl := Option.some.inj isToken
      exact ⟨first, rest, String.toList_ofList, starts⟩
  | blank | comment => cases isToken
  | _ =>
      obtain rfl := Option.some.inj isToken
      cases kind

/-- The identifiers of pieces start like words, by induction on the pieces. -/
theorem exists_isWordStart_of_mem_tokensFrom {position : Position} {pieces : List Piece}
    {token : Token} (member : token ∈ tokensFrom position pieces) (kind : token.kind = .identifier)
    : ∃ first rest, token.value.toList = first :: rest ∧ isWordStart first = true := by
  induction pieces generalizing position with
  | nil => cases member
  | cons piece pieces ih =>
      rcases List.mem_append.mp member with first | later
      · exact piece.exists_isWordStart (Option.mem_toList.mp first) kind
      · exact ih later

theorem isWordPart_of_isWordStart {c : Char} (starts : isWordStart c = true)
    : isWordPart c = true := by
  rw [isWordStart, Bool.or_eq_true] at starts
  rw [isWordPart, Bool.or_eq_true, Bool.or_eq_true]
  exact starts.imp_left .inl

end LiteralEnum.Lexer

namespace LiteralEnum.Module

open Reading (spaces)
open Target (ReadsTexts essence startsStatement)

/-- A step whose failures are renamed succeeds where the step does. -/
theorem mapError_bind_eq_ok {Fault Other Found Result : Type} {found : Except Fault Found}
    {rename : Fault → Other} {next : Found → Except Other Result} {result : Result}
    (succeeded : (found.mapError rename >>= next) = .ok result)
    : ∃ value, found = .ok value ∧ next value = .ok result := by
  cases found with
  | error fault => cases succeeded
  | ok value => exact ⟨value, rfl, succeeded⟩

theorem mapError_eq_ok {Fault Other Found : Type} {found : Except Fault Found}
    {rename : Fault → Other} {value : Found} (succeeded : found.mapError rename = .ok value)
    : found = .ok value := by
  cases found with
  | error fault => cases succeeded
  | ok other =>
      obtain rfl := Except.ok.inj succeeded
      rfl

theorem exists_declaration_of_ofSource {source : String} {model : Model}
    (built : Model.ofSource source = .ok model)
    : ∃ declaration,
        Declaration.ofSource source = .ok declaration
        ∧ Model.ofDeclaration .standard declaration = .ok model :=
  (mapError_bind_eq_ok built).imp fun _ => .imp_right mapError_eq_ok

theorem isWritable_of_ofSource {source : String} {model : Model}
    (built : Model.ofSource source = .ok model) : IsWritable model := by
  obtain ⟨declaration, -, checked⟩ := exists_declaration_of_ofSource built
  obtain ⟨admissible, faithful⟩ := Model.sound_of_ok checked
  exact isWritable_of_faithful admissible faithful

theorem exists_name_of_ofTokens {tokens : List Token} {declaration : Declaration}
    (parsed : Declaration.ofTokens tokens = .ok declaration)
    : ∃ token ∈ tokens, token.kind = .identifier ∧ token.value = declaration.name := by
  obtain ⟨derivation, yields, rfl⟩ := (Declaration.ofTokens_eq_ok_iff tokens declaration).mp parsed
  have member : derivation.heading.name.val ∈ derivation.tokens := by
    simp [Declaration.Derivation.tokens, Declaration.openingTokens, Declaration.Heading.tokens]
  rw [yields] at member
  exact ⟨_, List.mem_of_mem_filter ((List.takeWhile_sublist _).mem member),
    derivation.heading.name.property, rfl⟩

/-- The name of a type is a word of the source. -/
theorem startsWithWord_of_ofSource {source : String} {model : Model}
    (built : Model.ofSource source = .ok model) : StartsWithWord model := by
  obtain ⟨declaration, parsed, checked⟩ := exists_declaration_of_ofSource built
  have same := (Model.sound_of_ok checked).2.name
  obtain ⟨tokens, lexed, spelled⟩ := mapError_bind_eq_ok parsed
  obtain ⟨token, member, kind, named⟩ := exists_name_of_ofTokens (mapError_eq_ok spelled)
  obtain ⟨pieces, decomposition⟩ := Lexer.exists_decomposition_of_run lexed
  rw [Except.ok.inj (lexed.symm.trans decomposition.ofSource_eq), Lexer.decomposedTokens] at member
  rcases List.mem_append.mp member with inPieces | ending
  · obtain ⟨first, rest, chars, starts⟩ := Lexer.exists_isWordStart_of_mem_tokensFrom inPieces kind
    intro c isFirst
    rw [same, ← named, chars] at isFirst
    obtain rfl := Option.some.inj isFirst
    exact Lexer.isWordPart_of_isWordStart starts
  · rw [List.mem_singleton.mp ending] at kind
    cases kind

-----------------------------------------------------------------------------------------
-- Plain texts
-----------------------------------------------------------------------------------------

theorem isStatement_signature {field : Model.Field} (isName : Text.isName field.name.toList = true)
    (isInert : IsInert field.typeText.toList) : IsStatement (accessor field).signature := by
  have name := (isInert_name isName).between 0 [] "(self) -> ".toList (by decide +kernel)
  have inner : IsInert (field.name ++ "(self) -> " ++ field.typeText).toList := by
    rw [String.toList_append, String.toList_append]
    exact IsInert.append ⟨name.1, name.2⟩ isInert
  have starts : startsStatement "def ".toList = true := by decide +kernel
  have around
      : IsStatement ("def " ++ (field.name ++ "(self) -> " ++ field.typeText) ++ " | None:") :=
    isStatement_around inner (Target.startsStatement_append starts _) (by decide +kernel)
  simpa only [accessor, toString, String.append_assoc] using around

/-- Plain texts with balanced brackets leave the reading where they found it. -/
theorem keepsPlaces_of_plain {model : Model}
    (imports : ∀ text ∈ model.imports, isPlainStatement text = true)
    (names : ∀ field ∈ model.field, Text.isName field.name.toList = true)
    (types : ∀ field ∈ model.field, isPlainWith 0 field.typeText.toList = true)
    (data : ∀ variant ∈ model.variants, ∀ expression ∈ variant.data, IsReadable expression)
    : KeepsPlaces model := by
  have inert : ∀ field ∈ model.field, IsInert field.typeText.toList := by
    intro field declared
    have plain := types field declared
    rw [isPlainWith, Bool.and_eq_true, List.all_eq_true, decide_eq_true_eq] at plain
    exact ⟨plain.1, plain.2⟩
  refine ⟨fun text member => (isStatement_of_plain (imports text member)).standsAlone,
    fun field declared => isStatement_signature (names field declared) (inert field declared),
    fun field declared => ?_, data⟩
  exact (exists_opening_around "_DATA: tuple[" " | None, ...] = (" (inert field declared)
    (by decide +kernel) (by decide +kernel)).2

-----------------------------------------------------------------------------------------
-- Between the header and the exported names
-----------------------------------------------------------------------------------------

section

variable {model : Model} (writable : IsWritable model) (single : HasSingleDocs model)
  (places : KeepsPlaces model)

/-- The lines of a module between its header and its exported names. -/
def innerLines (model : Model) (indent : String) : List String :=
  preambleLines model ++ classLines indent model ++ lookupTable model indent
    ++ canonicalLines indent model.variants ++ dataLines indent model ++ variantLines indent model

theorem bodyLines_eq_ok (writable : IsWritable model) (indent : String)
    : bodyLines indent model = .ok (innerLines model indent) := by
  rw [bodyLines, lookupLines_eq_ok writable]
  rfl

include writable single places in
/-- The class is read alike, and it and its methods head blocks. -/
theorem exists_readsAlike_class
    : ∃ tokens, ReadsAlike (classLines · model) tokens
        ∧ ∀ heading ∈ headings model, HeadsBlock tokens heading := by
  obtain ⟨tokens, suite, heads⟩ := exists_suite_class writable single places.signature
  exact ⟨tokens, readsAlike_suite suite (toList_classLines writable single places.signature), heads⟩

include writable single places in
/-- What stands between the header and the exported names is read alike at every width. -/
theorem exists_readsTexts_inner (word : StartsWithWord model)
    (stays
      : ∀ variant ∈ model.variants, ∀ expression ∈ variant.data,
          Target.escapesParentheses expression.toList = false)
    : ∃ tokens,
        (∀ width, 0 < width
          → ∃ next, ReadsTexts width 0 next 0
              ((innerLines model (spaces width)).map String.toList) tokens)
        ∧ ∀ heading ∈ headings model, HeadsBlock tokens heading := by
  obtain ⟨before, preamble⟩ := exists_readsTexts_alone
    (standsAlone_of_mem_preambleLines writable.type single.type places.imports)
  obtain ⟨inClass, class_, heads⟩ := exists_readsAlike_class writable single places
  obtain ⟨inLookup, lookup⟩ := exists_readsAlike_lookup writable
  obtain ⟨inCanonical, canonical⟩ := exists_readsAlike_canonical model.variants
  obtain ⟨inData, data⟩ := exists_readsAlike_data places stays
  obtain ⟨inVariants, variants⟩ := exists_readsAlike_variants writable word
  have tables := ((lookup.append canonical).append data).append variants
  have behind := class_.append tables
  refine ⟨before ++ (inClass ++ (inLookup ++ inCanonical ++ inData ++ inVariants)), ?_, ?_⟩
  · intro width positive
    obtain ⟨next, reads⟩ := behind width 0 positive
    refine ⟨next, ?_⟩
    simpa [innerLines, List.map_append, List.append_assoc] using (preamble width).append reads
  · intro heading member
    have block := (heads heading member).append before
      (inLookup ++ inCanonical ++ inData ++ inVariants)
    rwa [List.append_assoc] at block

end

-----------------------------------------------------------------------------------------
-- Lines without an indent
-----------------------------------------------------------------------------------------

/-- The text is one line, which starts outermost. -/
def startsOutermost (text : List Char) : Bool :=
  !text.contains '\n' && (Target.measureIndent 0 (text ++ ['\n'])).1 = 0

theorem toList_unlines_texts (lines : List String)
    : (unlines lines).toList = (lines.map String.toList).flatMap (· ++ ['\n']) := by
  rw [toList_unlines, List.flatMap_map]

/-- Lines that all start outermost have no block. -/
theorem stepIn_notMem_unlines {lines : List String}
    (outermost : (lines.map String.toList).all startsOutermost = true)
    : Target.stepIn ∉ essence (Target.tokens (unlines lines).toList).tokens := by
  refine Target.stepIn_notMem_of_flat fun line isLine => ?_
  rw [toList_unlines_texts, Target.linesWithBreaks_texts, List.mem_flatMap] at isLine
  obtain ⟨text, member, isLine⟩ := isLine
  have starts := List.all_eq_true.mp outermost text member
  simp only [startsOutermost, Bool.and_eq_true, Bool.not_eq_true', List.contains_eq_mem,
    decide_eq_false_iff_not, decide_eq_true_eq] at starts
  obtain ⟨noFeed, starts⟩ := starts
  have single : Target.brokenLines text = [text ++ ['\n']] := Target.linesWithBreaks_body noFeed []
  rw [single, List.mem_singleton] at isLine
  rw [isLine, starts]

-----------------------------------------------------------------------------------------
-- Whole modules
-----------------------------------------------------------------------------------------

/-- The whole text can be read, and what matters of its tokens is this, up to the end. -/
structure IsReadAs (text : String) (tokens : List Target.Token) : Prop where
  whole : (Target.tokens text.toList).failure = none
  same : essence (Target.tokens text.toList).tokens = tokens ++ [⟨.endOfText, []⟩]

/-- A module around lines that are read outermost. -/
theorem isReadAs_module (settings : Settings) (indented : 0 < settings.indentWidth) {name : String}
    (isName : Text.isName name.toList = true) {inner : List String} {next : Nat}
    {tokens : List Target.Token}
    (reads
      : ReadsTexts settings.indentWidth.toNat 0 next 0 (inner.map String.toList) tokens)
    : IsReadAs (unlines (headerLines settings ++ inner ++ allLines settings name))
        (tokens ++ exportsOf settings name) := by
  have positive : 0 < settings.indentWidth.toNat := by omega
  obtain ⟨last, exports⟩ := readsTexts_allLines settings isName positive next
  have whole := (readsTexts_header settings (reads.append exports)).tokens
  rw [← List.map_append, ← List.map_append, ← List.append_assoc, ← toList_unlines_texts] at whole
  exact ⟨whole.1, whole.2⟩

theorem ofSource_eq_ok {settings : Settings} {source : String} {model : Model}
    (built : Model.ofSource source = .ok model) (writable : IsWritable model)
    : ofSource settings source
      = .ok (unlines (headerLines settings ++ innerLines model settings.indent
          ++ allLines settings model.name)) := by
  simp only [ofSource, built, Except.mapError, bind, Except.bind, Model.render, lines,
    bodyLines_eq_ok writable, Except.map, pure, Except.pure]

/-- The modules of a source are read alike under all settings with an indent. -/
theorem exists_isReadAs {source : String} {model : Model}
    (built : Model.ofSource source = .ok model) (single : HasSingleDocs model)
    (places : KeepsPlaces model)
    : ∃ tokens,
        (∀ settings : Settings, 0 < settings.indentWidth
          → ∃ text, ofSource settings source = .ok text
              ∧ IsReadAs text (tokens ++ exportsOf settings model.name))
        ∧ ∀ heading ∈ headings model, HeadsBlock tokens heading := by
  have writable := isWritable_of_ofSource built
  obtain ⟨declaration, -, checked⟩ := exists_declaration_of_ofSource built
  have stays : ∀ variant ∈ model.variants, ∀ expression ∈ variant.data,
      Target.escapesParentheses expression.toList = false :=
    fun variant member expression isData => ((dataProblem?_eq_none_iff _ _).mp
      (fits_of_ofDeclaration checked variant member expression isData)).1
  obtain ⟨tokens, reads, heads⟩ := exists_readsTexts_inner writable single places
    (startsWithWord_of_ofSource built) stays
  refine ⟨tokens, fun settings indented => ?_, heads⟩
  obtain ⟨next, reads⟩ := reads settings.indentWidth.toNat (by omega)
  exact ⟨_, ofSource_eq_ok built writable, isReadAs_module settings indented writable.type reads⟩

/-- The settings change the layout of a module and nothing else, as long as blocks are indented at
all. Under any two settings, a source whose doc texts are single lines is compiled to texts with the
same tokens up to the exported names, without comments, the breaks that mean nothing and the texts
of indents. The class and its methods are blocks in both. The texts of the source that are copied
into the module must leave the reading where they found it.
-/
theorem tokens_of_settings {source : String} {model : Model} {first second : Settings}
    (indented : 0 < first.indentWidth) (alsoIndented : 0 < second.indentWidth)
    (built : Model.ofSource source = .ok model) (single : HasSingleDocs model)
    (places : KeepsPlaces model)
    : ∃ text other tokens,
        ofSource first source = .ok text
        ∧ ofSource second source = .ok other
        ∧ IsReadAs text (tokens ++ exportsOf first model.name)
        ∧ IsReadAs other (tokens ++ exportsOf second model.name)
        ∧ ∀ heading ∈ headings model, HeadsBlock tokens heading := by
  obtain ⟨tokens, isRead, heads⟩ := exists_isReadAs built single places
  obtain ⟨text, compiled, isText⟩ := isRead first indented
  obtain ⟨other, alsoCompiled, isOther⟩ := isRead second alsoIndented
  exact ⟨text, other, tokens, compiled, alsoCompiled, isText, isOther, heads⟩

/-- A source with an import, a doc text and data. -/
def documentedPair : String :=
  "import \"import os\"\n#: A pair.\nT \x7b f: tuple[int, int] \x7d = "
    ++ "A \"a\" \x7b (1, 2) \x7d B \"b\""

def documentedPairModel : Model where
  name := "T"
  variants := [
    { index := 0, name := "A", primary := "a", data := some "(1, 2)" },
    { index := 1, name := "B", primary := "b" }]
  owners := [("a", 0), ("b", 1)]
  doc := some "A pair."
  field := some { name := "f", typeText := "tuple[int, int]" }
  imports := ["import os"]

/-- A narrow indent and nothing around the module. -/
def bareSettings : Settings where
  indentWidth := 2
  emitHeader := false
  emitAll := false

/-- The module of this source under the usual settings and under those of an environment. -/
theorem tokens_of_settings_documentedPair
    : Settings.ofEnvironment [("LITENUM_INDENT_WIDTH", "2"), ("LITENUM_EMIT_HEADER", "no"),
          ("LITENUM_EMIT_ALL", "off")] = .ok bareSettings
      ∧ Settings.ofEnvironment [] = .ok {}
      ∧ Model.ofSource documentedPair = .ok documentedPairModel
      ∧ ∃ text other tokens,
          ofSource {} documentedPair = .ok text
          ∧ ofSource bareSettings documentedPair = .ok other
          ∧ IsReadAs text (tokens ++ exportsOf {} "T")
          ∧ IsReadAs other (tokens ++ exportsOf bareSettings "T")
          ∧ ∀ heading ∈ headings documentedPairModel, HeadsBlock tokens heading := by
  have built : Model.ofSource documentedPair = .ok documentedPairModel := by decide +kernel
  have single : HasSingleDocs documentedPairModel := ⟨by decide +kernel, by decide +kernel⟩
  have data : ∀ variant ∈ documentedPairModel.variants, ∀ expression ∈ variant.data,
      IsReadable expression := by
    have readable : IsReadable "(1, 2)" := ⟨by decide +kernel, by decide +kernel⟩
    simpa [documentedPairModel] using readable
  have places : KeepsPlaces documentedPairModel :=
    keepsPlaces_of_plain (by decide +kernel) (by decide +kernel) (by decide +kernel) data
  exact ⟨by decide +kernel, by decide +kernel, built,
    tokens_of_settings (by decide) (by decide) built single places⟩

/-- An environment may set no indent at all. Then nothing is a block, while the class of the usual
module is one.
-/
theorem not_tokens_of_settings_unindented
    : Settings.ofEnvironment [("LITENUM_INDENT_WIDTH", "0")] = .ok { indentWidth := 0 }
      ∧ Settings.ofEnvironment [] = .ok {}
      ∧ ∃ text other,
          ofSource { indentWidth := 0 } twoVariants = .ok text
          ∧ ofSource {} twoVariants = .ok other
          ∧ Target.stepIn ∉ essence (Target.tokens text.toList).tokens
          ∧ Target.stepIn ∈ essence (Target.tokens other.toList).tokens := by
  have built : Model.ofSource twoVariants = .ok twoVariantsModel := by decide +kernel
  have writable := isWritable_of_ofSource built
  have single : HasSingleDocs twoVariantsModel := ⟨by decide +kernel, by decide +kernel⟩
  have places : KeepsPlaces twoVariantsModel :=
    keepsPlaces_of_plain nofun nofun nofun (by simp [twoVariantsModel])
  obtain ⟨tokens, isRead, heads⟩ := exists_isReadAs built single places
  obtain ⟨other, compiled, isOther⟩ := isRead {} (by decide)
  refine ⟨by decide +kernel, by decide +kernel, _, other, ofSource_eq_ok built writable, compiled,
    stepIn_notMem_unlines ?_, ?_⟩
  · have rows : (classLines "" twoVariantsModel).map String.toList
        = (classRows twoVariantsModel).map (Target.Row.line 0) :=
      toList_classLines writable single places.signature 0
    have class_ : ((classLines "" twoVariantsModel).map String.toList).all startsOutermost
        = true := by
      rw [rows]
      decide +kernel
    have around : ((headerLines { indentWidth := 0 } ++ preambleLines twoVariantsModel
        ++ allLines { indentWidth := 0 } twoVariantsModel.name).map String.toList).all
          startsOutermost = true := by
      decide +kernel
    have tables : ((lookupTable twoVariantsModel ""
        ++ canonicalLines "" twoVariantsModel.variants ++ dataLines "" twoVariantsModel
        ++ variantLines "" twoVariantsModel).map String.toList).all startsOutermost = true := by
      decide +kernel
    have unindented : ({ indentWidth := 0 } : Settings).indent = "" := rfl
    simp only [List.map_append, List.all_append, Bool.and_eq_true] at around tables
    simp only [innerLines, unindented, List.map_append, List.all_append, class_, around, tables,
      Bool.and_true]
  · obtain ⟨heading, -, front, inside, back, rfl, -⟩ := heads _ List.mem_cons_self
    rw [isOther.same]
    simp

end LiteralEnum.Module
