import LiteralEnum.Proofs.Declaration.ErrorPlace
import LiteralEnum.Proofs.Token.CarriageReturns

/-! A declaration in a source with returns. It is read as in the source without them, up to the
returns in the texts that blocks hold, the data and the type of the field; errors stay where they
are.
-/

namespace LiteralEnum

-----------------------------------------------------------------------------------------
-- Declarations and errors
-----------------------------------------------------------------------------------------

def Text.returned (text : String) : String :=
  String.ofList (Text.withReturns text.toList)

def DataField.withReturns (field : DataField) : DataField :=
  { field with typeText := Text.returned field.typeText }

def VariantDeclaration.withReturns (variant : VariantDeclaration) : VariantDeclaration :=
  { variant with data := variant.data.map Text.returned }

/-- The declaration with returns in the texts that are taken from blocks. -/
def Declaration.withReturns (declaration : Declaration) : Declaration :=
  { declaration with
    field := declaration.field.map DataField.withReturns
    variants := declaration.variants.map VariantDeclaration.withReturns }

@[simp]
theorem Declaration.name_withReturns (declaration : Declaration)
    : declaration.withReturns.name = declaration.name := rfl

def ParseError.withReturns : ParseError → ParseError
  | .missingImportText found => .missingImportText found.withReturns
  | .missingEnumName found => .missingEnumName found.withReturns
  | .missingEquals enumName found => .missingEquals enumName found.withReturns
  | .malformedField block => .malformedField block.withReturns
  | .missingVariantName found => .missingVariantName found.withReturns
  | .missingPrimary variantName found => .missingPrimary variantName found.withReturns
  | .emptyData variantName block => .emptyData variantName block.withReturns
  | .danglingDoc first => .danglingDoc first
  | .noVariants enumName found => .noVariants enumName found.withReturns

def SourceError.withReturns : SourceError → SourceError
  | .lexing error => .lexing error.withReturns
  | .parsing error => .parsing error.withReturns

@[simp]
theorem Token.kind_withReturns (token : Token) : token.withReturns.kind = token.kind := by
  unfold withReturns
  split <;> rfl

theorem Token.value_withReturns {token : Token} (noBlock : token.kind ≠ .block)
    : token.withReturns.value = token.value := by
  unfold withReturns
  split
  next kind => exact absurd kind noBlock
  all_goals rfl

theorem Token.value_withReturns_block {token : Token} (isBlock : token.kind = .block)
    : token.withReturns.value = Text.returned token.value := by
  simp [withReturns, isBlock, Text.returned]

theorem Token.position_withReturns {token : Token} (noBreak : token.kind ≠ .newline)
    : token.withReturns.position = token.position := by
  unfold withReturns
  split
  next => rfl
  next kind => exact absurd kind noBreak
  next => rfl

/-- Only blocks and line breaks change. -/
theorem Token.withReturns_eq_self {token : Token} (noBlock : token.kind ≠ .block)
    (noBreak : token.kind ≠ .newline)
    : token.withReturns = token := by
  unfold withReturns
  split
  next kind => exact absurd kind noBlock
  next kind => exact absurd kind noBreak
  next => rfl

namespace Parser

/-- What has been read of a source with returns. The tokens that a state holds are names and
comments.
-/
def State.withReturns : State → State
  | .enumName declaration => .enumName declaration.withReturns
  | .dataField declaration => .dataField declaration.withReturns
  | .variants declaration => .variants declaration.withReturns
  | .variantDoc declaration first lines => .variantDoc declaration.withReturns first lines
  | .variantName declaration doc name => .variantName declaration.withReturns doc name
  | .literals declaration variant => .literals declaration.withReturns variant.withReturns
  | state => state

-----------------------------------------------------------------------------------------
-- Fields
-----------------------------------------------------------------------------------------

theorem splitField_cons {c : Char} (other : c ≠ ':') (rest : List Char)
    : splitField (c :: rest) = (splitField rest).map (Prod.map (c :: ·) id) := by
  simp only [splitField, List.span_eq_takeWhile_dropWhile]
  rw [List.takeWhile_cons_of_pos (by simpa using other),
    List.dropWhile_cons_of_pos (by simpa using other)]
  cases rest.dropWhile (· ≠ ':') <;> rfl

/-- The first colon splits a text with returns as it splits the text, by induction on the text. -/
theorem splitField_withReturns (text : List Char)
    : splitField (Text.withReturns text)
      = (splitField text).map (Prod.map Text.withReturns Text.withReturns) := by
  induction text with
  | nil => rfl
  | cons c rest ih =>
      by_cases lineBreak : c = '\n'
      · rw [lineBreak, Text.withReturns_break, splitField_cons (by decide),
          splitField_cons (by decide), splitField_cons (by decide), ih]
        simp [Prod.map, Function.comp_def]
      by_cases colon : c = ':'
      · rw [Text.withReturns_cons lineBreak, colon]
        simp [splitField, List.span_eq_takeWhile_dropWhile]
      · rw [Text.withReturns_cons lineBreak, splitField_cons colon, splitField_cons colon, ih]
        simp [Prod.map, Function.comp_def, Text.withReturns_cons lineBreak]

theorem feed_not_mem_of_isName {text : List Char} (isName : Text.isName text = true)
    : '\n' ∉ text := fun member =>
  absurd (Text.isNameContinue_of_mem isName member) (by decide)

/-- A text with line feeds is no name, with or without returns. -/
theorem isName_withReturns (text : List Char)
    : Text.isName (Text.withReturns text) = Text.isName text := by
  by_cases oneLine : '\n' ∈ text
  · have noName {other : List Char} (member : '\n' ∈ other) : Text.isName other = false := by
      simpa using fun isName => feed_not_mem_of_isName isName member
    have kept : '\n' ∈ Text.withReturns text := List.mem_flatMap.mpr ⟨'\n', oneLine, by simp⟩
    rw [noName oneLine, noName kept]
  · rw [Text.withReturns_of_not_mem oneLine]

theorem parseField?_withReturns {block : Token} (isBlock : block.kind = .block)
    : parseField? block.withReturns = (parseField? block).map DataField.withReturns := by
  have value : block.withReturns.value.toList = Text.withReturns block.value.toList := by
    rw [Token.value_withReturns_block isBlock, Text.returned, String.toList_ofList]
  have position : block.withReturns.position = block.position :=
    Token.position_withReturns (by simp [isBlock])
  unfold parseField?
  rw [value, position, splitField_withReturns]
  cases splitField block.value.toList with
  | none => rfl
  | some sides =>
      obtain ⟨name, typeText⟩ := sides
      simp only [Option.map_some, Prod.map_apply, bind, Option.bind_some, Text.strip_withReturns,
        isName_withReturns]
      cases isName : Text.isName (Text.strip name)
      · rfl
      · rw [Text.withReturns_of_not_mem (feed_not_mem_of_isName isName)]
        have empty : (Text.withReturns (Text.strip typeText)).isEmpty
            = (Text.strip typeText).isEmpty := by
          rw [Bool.eq_iff_iff, List.isEmpty_iff, List.isEmpty_iff, Text.withReturns_eq_nil]
        rw [empty]
        split_ifs
        · simp [DataField.withReturns, Text.returned]
        · rfl

-----------------------------------------------------------------------------------------
-- Steps
-----------------------------------------------------------------------------------------

/-- What a step comes to in a source with returns. -/
def stepReturns (result : Except ParseError State) : Except ParseError State :=
  (result.map State.withReturns).mapError ParseError.withReturns

/-- What a declaration comes to in a source with returns. -/
def readReturns (result : Except ParseError Declaration) : Except ParseError Declaration :=
  (result.map Declaration.withReturns).mapError ParseError.withReturns

theorem returned_eq_empty (text : String) : Text.returned text = "" ↔ text = "" := by
  rw [Text.returned, ← String.toList_eq_nil_iff, String.toList_ofList, Text.withReturns_eq_nil,
    String.toList_eq_nil_iff]

theorem reject_withReturns (state : State) (token : Token)
    : state.withReturns.reject token.withReturns = (state.reject token).withReturns := by
  cases state <;> rfl

theorem addVariant_withReturns (declaration : Declaration) (variant : VariantDeclaration)
    : (addVariant declaration variant).withReturns
      = addVariant declaration.withReturns variant.withReturns := by
  simp [addVariant, Declaration.withReturns]

/-- A block with returns is read as the block, as the field or as the data of a variant. -/
theorem step_withReturns_block (state : State) {block : Token} (isBlock : block.kind = .block)
    : step state.withReturns block.withReturns = stepReturns (step state block) := by
  cases state with
  | enumName declaration =>
      simp only [State.withReturns, step, Token.kind_withReturns, isBlock,
        parseField?_withReturns isBlock]
      cases parseField? block <;> rfl
  | literals declaration variant =>
      simp only [State.withReturns, step, Token.kind_withReturns, isBlock,
        Token.value_withReturns_block isBlock, returned_eq_empty]
      split_ifs
      · rfl
      · simp [stepReturns, Except.map, Except.mapError, State.withReturns, addVariant_withReturns,
          VariantDeclaration.withReturns]
  | _ =>
      simp only [State.withReturns, step, Token.kind_withReturns, isBlock]
      rfl

/-- A token with returns is read as the token, in any state. -/
theorem step_withReturns (state : State) {token : Token} (noBreak : token.kind ≠ .newline)
    : step state.withReturns token.withReturns = stepReturns (step state token) := by
  by_cases isBlock : token.kind = .block
  · exact step_withReturns_block state isBlock
  · rw [Token.withReturns_eq_self isBlock noBreak]
    fun_cases step state token
    -- no clause takes the token
    case case21 =>
      cases state <;> cases kind : token.kind <;>
        simp_all [step, State.withReturns, stepReturns, Except.map, Except.mapError, State.reject,
          ParseError.withReturns, Token.withReturns_eq_self]
    all_goals
      simp_all [step, State.withReturns, stepReturns, Except.map, Except.mapError,
        addVariant_withReturns]
      try rfl

theorem finish_withReturns (state : State) (ending : Token)
    : finish state.withReturns ending.withReturns = readReturns (finish state ending) := by
  have rejected := reject_withReturns state ending
  cases state with
  | variants declaration =>
      have none : declaration.withReturns.variants.isEmpty = declaration.variants.isEmpty := by
        simp [Declaration.withReturns]
      simp only [State.withReturns, finish, none]
      split_ifs <;> rfl
  | literals declaration variant =>
      simp only [State.withReturns, finish, ← addVariant_withReturns]
      rfl
  | _ => exact congrArg Except.error rejected

/-- Tokens with returns are read as the tokens, by induction on the tokens. -/
theorem run_withReturns (state : State) (tokens : List Token)
    : run state.withReturns (tokens.map Token.withReturns) = readReturns (run state tokens) := by
  induction tokens generalizing state with
  | nil => exact finish_withReturns state .missingEnd
  | cons token rest ih =>
      rw [List.map_cons, run, run, Token.kind_withReturns]
      split
      next => exact ih state
      next => exact finish_withReturns state token
      next noBreak _ =>
        rw [step_withReturns state noBreak]
        cases step state token with
        | error error => rfl
        | ok next => exact ih next

end Parser

-----------------------------------------------------------------------------------------
-- Sources
-----------------------------------------------------------------------------------------

namespace Declaration

open LiteralEnum.Lexer (runReturns)

/-- What a declaration or its errors come to in a source with returns. -/
def sourceReturns (result : Except SourceError Declaration) : Except SourceError Declaration :=
  (result.map Declaration.withReturns).mapError SourceError.withReturns

theorem ofTokens_withReturns (tokens : List Token)
    : ofTokens (tokens.map Token.withReturns) = Parser.readReturns (ofTokens tokens) :=
  Parser.run_withReturns (.imports []) tokens

theorem ofSource_returned (source : String)
    : ofSource (Text.returned source) = sourceReturns (ofSource source) := by
  rw [ofSource, ofSource, Text.returned, Lexer.ofSource_withReturns]
  cases Token.ofSource source with
  | error error => rfl
  | ok tokens =>
      have parsed := ofTokens_withReturns tokens
      have taken : runReturns (.ok tokens) = .ok (tokens.map Token.withReturns) := rfl
      simp only [taken, Except.mapError, bind, Except.bind, parsed]
      cases ofTokens tokens <;> rfl

/-- No token that an error is reported at is a line break. -/
theorem kind_token_of_ofTokens {tokens : List Token} {error : ParseError}
    (failed : ofTokens tokens = .error error)
    : error.token.kind ≠ .newline := by
  obtain ⟨place, points⟩ := exists_pointsAt failed
  rcases List.mem_append.mp (List.mem_of_getElem? points.isPlace) with significant | last
  · exact (areSignificant_significant tokens _ significant).1
  · rw [List.mem_singleton.mp last, kind_ending]
    decide

theorem token_withReturns {error : ParseError} (noBreak : error.token.kind ≠ .newline)
    : error.withReturns.token.position = error.token.position := by
  cases error with
  | danglingDoc first => rfl
  | _ => exact Token.position_withReturns noBreak

/-- An error is reported where it is reported without returns. -/
theorem position_withReturns {source : String} {error : SourceError}
    (failed : ofSource source = .error error)
    : error.withReturns.position = error.position := by
  cases error with
  | lexing error =>
      have kept : error.withReturns.position = error.position := by
        unfold LexError.withReturns
        split <;> rfl
      exact kept
  | parsing error =>
      rw [ofSource] at failed
      cases lexed : Token.ofSource source with
      | error error => simp [lexed, Except.mapError, bind, Except.bind] at failed
      | ok tokens =>
          have refused : ofTokens tokens = .error error := by
            cases parsed : ofTokens tokens <;>
              simp_all [Except.mapError, bind, Except.bind]
          exact token_withReturns (kind_token_of_ofTokens refused)

/-- Returns before the line feeds of a source change the texts of blocks and nothing else. Its
tokens are those of the source, line breaks apart at the same places; the declaration is that of the
source with returns in the texts of blocks; and it has an error where the source has the error.
-/
theorem reads_withReturns (source : String)
    : Token.ofSource (Text.returned source) = runReturns (Token.ofSource source)
      ∧ ofSource (Text.returned source) = sourceReturns (ofSource source)
      ∧ (∀ token : Token,
          token.withReturns.kind = token.kind
          ∧ (token.kind ≠ .newline → token.withReturns.position = token.position)
          ∧ (token.kind ≠ .block → token.withReturns.value = token.value))
      ∧ ∀ error, ofSource source = .error error → error.withReturns.position = error.position :=
  ⟨Lexer.ofSource_withReturns source, ofSource_returned source,
    fun token => ⟨token.kind_withReturns, Token.position_withReturns, Token.value_withReturns⟩,
    fun _ failed => position_withReturns failed⟩

end Declaration

end LiteralEnum
