import LiteralEnum.Declaration
import LiteralEnum.Text.Name
import LiteralEnum.Text.Blank
import LiteralEnum.Token.Lexer

/-! The declaration that a token list spells. Line breaks mean nothing, and what follows
the end of the source is not read. The reader takes one token at a time; its state is what
the tokens so far have declared.
-/

namespace LiteralEnum

inductive ParseError where
  | missingImportText (found : Token)
  | missingEnumName (found : Token)
  | missingEquals (enumName : String) (found : Token)
  | malformedField (block : Token)
  | missingVariantName (found : Token)
  | missingPrimary (variantName : String) (found : Token)
  | emptyData (variantName : String) (block : Token)
  | danglingDoc (first : Token)
  | noVariants (enumName : String) (found : Token)
deriving Repr, DecidableEq

/-- The token at which the error is reported. -/
def ParseError.token : ParseError → Token
  | .missingImportText found | .missingEnumName found | .missingEquals _ found
  | .malformedField found | .missingVariantName found | .missingPrimary _ found
  | .emptyData _ found | .danglingDoc found | .noVariants _ found => found

def ParseError.reason : ParseError → String
  | .missingImportText found => s!"Expected import statement string {got found}"
  | .missingEnumName found => s!"Expected enum type name {got found}"
  | .missingEquals enumName found => s!"Expected '=' after enum '{enumName}' {got found}"
  | .malformedField block =>
      "Malformed data field declaration \x7b" ++ block.value
        ++ "\x7d, expected '\x7b name: Type \x7d'"
  | .missingVariantName found => s!"Expected variant name {got found}"
  | .missingPrimary variantName found =>
      s!"Variant '{variantName}' needs a primary string literal (got {found.kind.label})"
  | .emptyData variantName _ => s!"Empty data block on variant '{variantName}'"
  | .danglingDoc _ => "Doc comment is not followed by a name"
  | .noVariants enumName _ => s!"Enum '{enumName}' declares no variants"
where
  got (found : Token) : String := s!"(got {found.kind.label}: {Text.quoted found.value})"

namespace Parser

/-- What has been read. A declaration in a state is complete up to the variants that
follow.
-/
inductive State where
  | imports (done : List ImportDirective)
  | importText (done : List ImportDirective) (keyword : Token)
  | enumDoc (done : List ImportDirective) (first : Token) (lines : List String)
  | enumName (declaration : Declaration)
  | dataField (declaration : Declaration)
  | variants (declaration : Declaration)
  | variantDoc (declaration : Declaration) (first : Token) (lines : List String)
  | variantName (declaration : Declaration) (doc : Option String) (name : Token)
  | literals (declaration : Declaration) (variant : VariantDeclaration)
deriving Repr, DecidableEq

/-- Doc comments on consecutive lines are one text. -/
def joinDoc (lines : List String) : String := String.intercalate "\n" lines

/-- The two sides of the first colon. -/
def splitField (text : List Char) : Option (List Char × List Char) :=
  match text.span (· ≠ ':') with
  | (name, _ :: typeText) => some (name, typeText)
  | (_, []) => none

/-- A data field block holds a name, a colon and a type. -/
def parseField? (block : Token) : Option DataField := do
  let (name, typeText) ← splitField block.value.toList
  let name := Text.strip name
  let typeText := Text.strip typeText
  if Text.isName name && !typeText.isEmpty then
    some ⟨String.ofList name, String.ofList typeText, block.position.line⟩
  else none

def beginEnum (done : List ImportDirective) (doc : Option String) (name : Token) : Declaration :=
  { name := name.value, doc, imports := done, line := name.position.line }

def beginVariant (doc : Option String) (name primary : Token) : VariantDeclaration :=
  { name := name.value, primary := primary.value, doc, line := name.position.line }

def addVariant (declaration : Declaration) (variant : VariantDeclaration) : Declaration :=
  { declaration with variants := declaration.variants ++ [variant] }

/-- The error of a token that cannot come next. -/
def State.reject (state : State) (token : Token) : ParseError :=
  match state with
  | .imports _ => .missingEnumName token
  | .importText _ _ => .missingImportText token
  | .enumDoc _ first _ | .variantDoc _ first _ => .danglingDoc first
  | .enumName declaration | .dataField declaration => .missingEquals declaration.name token
  | .variants _ | .literals _ _ => .missingVariantName token
  | .variantName _ _ name => .missingPrimary name.value token

/-- The state after a token. -/
def step (state : State) (token : Token) : Except ParseError State :=
  match state, token.kind with
  | .imports done, .importWord => .ok (.importText done token)
  | .imports done, .docComment => .ok (.enumDoc done token [token.value])
  | .imports done, .identifier => .ok (.enumName (beginEnum done none token))
  | .importText done keyword, .string =>
      .ok (.imports (done ++ [⟨token.value, keyword.position.line⟩]))
  | .enumDoc done first lines, .docComment => .ok (.enumDoc done first (lines ++ [token.value]))
  | .enumDoc done _ lines, .identifier =>
      .ok (.enumName (beginEnum done (some (joinDoc lines)) token))
  | .enumName declaration, .block =>
      match parseField? token with
      | some field => .ok (.dataField { declaration with field := some field })
      | none => .error (.malformedField token)
  | .enumName declaration, .equals => .ok (.variants declaration)
  | .dataField declaration, .equals => .ok (.variants declaration)
  | .variants declaration, .docComment => .ok (.variantDoc declaration token [token.value])
  | .variants declaration, .identifier => .ok (.variantName declaration none token)
  | .variantDoc declaration first lines, .docComment =>
      .ok (.variantDoc declaration first (lines ++ [token.value]))
  | .variantDoc declaration _ lines, .identifier =>
      .ok (.variantName declaration (some (joinDoc lines)) token)
  | .variantName declaration doc name, .string =>
      .ok (.literals declaration (beginVariant doc name token))
  | .literals declaration variant, .string =>
      .ok (.literals declaration { variant with alternates := variant.alternates ++ [token.value] })
  | .literals declaration variant, .block =>
      if token.value = "" then .error (.emptyData variant.name token)
      else .ok (.variants (addVariant declaration { variant with data := some token.value }))
  | .literals declaration variant, .docComment =>
      .ok (.variantDoc (addVariant declaration variant) token [token.value])
  | .literals declaration variant, .identifier =>
      .ok (.variantName (addVariant declaration variant) none token)
  | state, _ => .error (state.reject token)

/-- The declaration that is complete when the tokens end with `ending`. -/
def finish (state : State) (ending : Token) : Except ParseError Declaration :=
  match state with
  | .variants declaration =>
      if declaration.variants.isEmpty then .error (.noVariants declaration.name ending)
      else .ok declaration
  | .literals declaration variant => .ok (addVariant declaration variant)
  | state => .error (state.reject ending)

def run (state : State) : List Token → Except ParseError Declaration
  | [] => finish state .missingEnd
  | token :: rest =>
      match token.kind with
      | .newline => run state rest
      | .endOfSource => finish state token
      | _ => do run (← step state token) rest

end Parser

/-- The declaration that a token list spells. -/
def Declaration.ofTokens (tokens : List Token) : Except ParseError Declaration :=
  Parser.run (.imports []) tokens

/-- A source that spells no declaration. -/
inductive SourceError where
  | lexing (error : LexError)
  | parsing (error : ParseError)
deriving Repr, DecidableEq

def SourceError.position : SourceError → Position
  | .lexing error => error.position
  | .parsing error => error.token.position

def SourceError.reason : SourceError → String
  | .lexing error => error.reason
  | .parsing error => error.reason

def SourceError.message (error : SourceError) : String :=
  s!"Syntax error at L{error.position.line}:{error.position.column}: {error.reason}"

/-- The declaration that a source spells. -/
def Declaration.ofSource (source : String) : Except SourceError Declaration := do
  let tokens ← (Token.ofSource source).mapError .lexing
  (Declaration.ofTokens tokens).mapError .parsing

end LiteralEnum
