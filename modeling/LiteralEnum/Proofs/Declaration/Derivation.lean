import LiteralEnum.Declaration.Parser

/-! The grammar of declarations. A derivation holds the tokens that it derives, each of its
kind, so every derivation is well formed; the declaration is read off its parts.
-/

namespace LiteralEnum

/-- A token of the given kind. -/
abbrev Token.Of (kind : Token.Kind) : Type :=
  { token : Token // token.kind = kind }

/-- The tokens that a reader of declarations sees: line breaks are left out, and the list
is cut at the first end of the source.
-/
def Token.significant (tokens : List Token) : List Token :=
  (tokens.filter (·.kind ≠ .newline)).takeWhile (·.kind ≠ .endOfSource)

namespace Declaration

/-- The tokens of leaves that all have one kind. -/
def leaves {kind : Token.Kind} (tokens : List (Token.Of kind)) : List Token :=
  tokens.map Subtype.val

@[simp]
theorem leaves_nil {kind : Token.Kind} : leaves ([] : List (Token.Of kind)) = [] := rfl

@[simp]
theorem leaves_cons {kind : Token.Kind} (first : Token.Of kind) (rest : List (Token.Of kind))
    : leaves (first :: rest) = first.val :: leaves rest := rfl

@[simp]
theorem leaves_append {kind : Token.Kind} (left right : List (Token.Of kind))
    : leaves (left ++ right) = leaves left ++ leaves right :=
  List.map_append

/-- The text of doc comments on consecutive lines; no text without a comment. -/
def docText? (docs : List (Token.Of .docComment)) : Option String :=
  if docs.isEmpty then none
  else some (String.intercalate "\n" (docs.map (·.val.value)))

-----------------------------------------------------------------------------------------
-- Phrases
-----------------------------------------------------------------------------------------

/-- An import: the keyword and the text of the statement. -/
structure ImportPhrase where
  keyword : Token.Of .importWord
  statement : Token.Of .string

def ImportPhrase.tokens (phrase : ImportPhrase) : List Token :=
  [phrase.keyword.val, phrase.statement.val]

def ImportPhrase.directive (phrase : ImportPhrase) : ImportDirective where
  statement := phrase.statement.val.value
  line := phrase.keyword.val.position.line

/-- A block that declares the data field: a colon stands between the name and the type, and
blanks around the two do not matter.
-/
structure FieldPhrase where
  block : Token.Of .block
  name : List Char
  typeText : List Char
  text_eq : block.val.value.toList = name ++ ':' :: typeText
  isName : Text.isName (Text.strip name) = true
  hasType : Text.strip typeText ≠ []

def FieldPhrase.field (phrase : FieldPhrase) : DataField where
  name := String.ofList (Text.strip phrase.name)
  typeText := String.ofList (Text.strip phrase.typeText)
  line := phrase.block.val.position.line

/-- A block that holds a data expression. -/
abbrev DataPhrase : Type :=
  { block : Token.Of .block // block.val.value ≠ "" }

/-- A variant: doc comments, the name, the primary, the alternates, and perhaps data. -/
structure VariantPhrase where
  docs : List (Token.Of .docComment)
  name : Token.Of .identifier
  primary : Token.Of .string
  alternates : List (Token.Of .string)
  data : Option DataPhrase

def VariantPhrase.tokens (phrase : VariantPhrase) : List Token :=
  leaves phrase.docs ++ phrase.name.val :: phrase.primary.val :: leaves phrase.alternates
    ++ phrase.data.toList.map (·.val.val)

def VariantPhrase.variant (phrase : VariantPhrase) : VariantDeclaration where
  name := phrase.name.val.value
  primary := phrase.primary.val.value
  alternates := phrase.alternates.map (·.val.value)
  doc := docText? phrase.docs
  data := phrase.data.map (·.val.val.value)
  line := phrase.name.val.position.line

/-- What stands before the data field: imports, doc comments and the name of the type. -/
structure Heading where
  imports : List ImportPhrase
  docs : List (Token.Of .docComment)
  name : Token.Of .identifier

def Heading.tokens (heading : Heading) : List Token :=
  heading.imports.flatMap ImportPhrase.tokens ++ leaves heading.docs ++ [heading.name.val]

/-- The declaration with a heading, a data field and variants. -/
def Heading.declaration (heading : Heading) (field : Option FieldPhrase)
    (variants : List VariantPhrase)
    : Declaration where
  name := heading.name.val.value
  doc := docText? heading.docs
  field := field.map FieldPhrase.field
  variants := variants.map VariantPhrase.variant
  imports := heading.imports.map ImportPhrase.directive
  line := heading.name.val.position.line

-----------------------------------------------------------------------------------------
-- Whole declarations
-----------------------------------------------------------------------------------------

/-- A derivation of a declaration: the heading, perhaps a data field, an equals sign, and at
least one variant.
-/
structure Derivation where
  heading : Heading
  field : Option FieldPhrase
  equals : Token.Of .equals
  variants : List VariantPhrase
  variants_ne_nil : variants ≠ []

/-- The tokens up to the equals sign and with it. -/
def openingTokens (heading : Heading) (field : Option FieldPhrase) (equals : Token.Of .equals)
    : List Token :=
  heading.tokens ++ field.toList.map (·.block.val) ++ [equals.val]

/-- The tokens that a derivation derives, in order. -/
def Derivation.tokens (derivation : Derivation) : List Token :=
  openingTokens derivation.heading derivation.field derivation.equals
    ++ derivation.variants.flatMap VariantPhrase.tokens

/-- The declaration that is read off a derivation. -/
def Derivation.declaration (derivation : Derivation) : Declaration :=
  derivation.heading.declaration derivation.field derivation.variants

end Declaration

end LiteralEnum
