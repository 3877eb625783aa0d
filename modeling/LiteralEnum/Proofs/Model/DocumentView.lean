import LiteralEnum.Model.View
import LiteralEnum.Proofs.Model.Building
import LiteralEnum.Proofs.Text.JsonReading

/-! What the document of a model tells: everything that the document has a place for, and, of a
model that was built, the owners of the literals as well.
-/

namespace LiteralEnum.Model

open Text

-----------------------------------------------------------------------------------------
-- Owners from a document
-----------------------------------------------------------------------------------------

/-- Gives a literal an owner, unless it has one. -/
def Owners.keep (owners : Owners) (claim : String × Int) : Owners :=
  if (owners.lookup claim.1).isSome then owners else owners ++ [claim]

/-- The first claim to every literal. -/
def Owners.gather (claims : List (String × Int)) : Owners :=
  claims.foldl Owners.keep []

/-- The value of a member of an object. -/
def member? (name : String) : Json → Option Json
  | .object members => members.lookup name
  | _ => none

def integer? : Json → Option Int
  | .integer number => some number
  | _ => none

def text? : Json → Option String
  | .text content => some content
  | _ => none

def items? : Json → Option (List Json)
  | .list items => some items
  | _ => none

/-- The literals of a variant's document with its index, the primary first. -/
def claims? (variant : Json) : Option (List (String × Int)) := do
  let index ← (member? "index" variant).bind integer?
  let primary ← (member? "primary" variant).bind text?
  let alternates ← (member? "alternates" variant).bind items?
  let alternates ← alternates.mapM text?
  return (primary :: alternates).map (·, index)

/-- The owners that the variants of a document give the literals. -/
def owners? (document : Json) : Option Owners := do
  let variants ← (member? "variants" document).bind items?
  let claims ← variants.mapM claims?
  return Owners.gather claims.flatten

/-- The literals of a variant with its index. -/
def Variant.claims (variant : Variant) : List (String × Int) :=
  variant.literals.map (·, variant.index)

theorem mapM_text (contents : List String)
    : (contents.map Json.text).mapM text? = some contents := by
  induction contents with
  | nil => rfl
  | cons content rest ih => simp [ih, text?]

theorem claims?_view (variant : Variant) : claims? variant.view = some variant.claims := by
  have index : (member? "index" variant.view).bind integer? = some variant.index := rfl
  have primary : (member? "primary" variant.view).bind text? = some variant.primary := rfl
  have alternates : (member? "alternates" variant.view).bind items?
      = some (variant.alternates.map Json.text) := rfl
  rw [claims?, index, primary, alternates]
  simp only [bind, Option.bind, mapM_text]
  rfl

theorem mapM_claims? (variants : List Variant)
    : (variants.map Variant.view).mapM claims? = some (variants.map Variant.claims) := by
  induction variants with
  | nil => rfl
  | cons variant rest ih => simp [ih, claims?_view]

/-- A document gives the literals the owners that its variants claim them for. -/
theorem owners?_view (model : Model)
    : owners? model.view = some (Owners.gather (model.variants.flatMap Variant.claims)) := by
  have variants : (member? "variants" model.view).bind items?
      = some (model.variants.map Variant.view) := rfl
  rw [owners?, variants]
  simp only [bind, Option.bind, mapM_claims?, List.flatMap_def]
  rfl

-----------------------------------------------------------------------------------------
-- Owners of models that were built
-----------------------------------------------------------------------------------------

/-- A claim as an entry of the owners. -/
def entry (claim : Check.Claim) : String × Int := (claim.literal, claim.index)

theorem lookup_entry (held : List Check.Claim) (literal : String)
    : ((held.map entry).lookup literal).isSome
      = (held.find? (·.literal = literal)).isSome := by
  induction held with
  | nil => rfl
  | cons first rest ih =>
      by_cases same : first.literal = literal
      · simp [entry, same]
      · have apart : (literal == first.literal) = false := by simpa using Ne.symm same
        simpa [entry, List.lookup_cons, apart, same] using ih

/-- The settlement of claims keeps the first claim to every literal, by induction on the claims
that are still to be read.
-/
theorem foldl_settle {held rest result : List Check.Claim}
    (settled : Check.settle held rest = .ok result)
    : (rest.map entry).foldl Owners.keep (held.map entry) = result.map entry := by
  induction rest generalizing held with
  | nil =>
      rw [Check.settle] at settled
      rw [Except.ok.inj settled]
      rfl
  | cons claim others ih =>
      have known := lookup_entry held claim.literal
      rw [List.map_cons, List.foldl_cons, Owners.keep]
      rw [Check.settle] at settled
      split at settled
      next free =>
        rw [free] at known
        rw [if_neg (by simp [entry, known])]
        have later := ih settled
        rwa [List.map_append] at later
      next first found =>
        rw [found] at known
        rw [if_pos (by simp [entry, known])]
        split at settled
        next => exact ih settled
        next => cases settled

/-- The claims of numbered variants are those of the declared ones, by induction on them. -/
theorem flatMap_claims_number (start : Nat) (variants : List VariantDeclaration)
    : (number start variants).flatMap Variant.claims
      = (Check.claims start variants).map entry := by
  induction variants generalizing start with
  | nil => rfl
  | cons variant rest ih =>
      rw [number, List.flatMap_cons, ih, Check.claims, List.map_append, List.map_map]
      rfl

/-- The owners of a model that was built are the first claims of its variants. -/
theorem gather_of_built {compiler : Target.Compiler} {declaration : Declaration} {model : Model}
    (built : ofDeclaration compiler declaration = .ok model)
    : Owners.gather (model.variants.flatMap Variant.claims) = model.owners := by
  obtain ⟨-, held, settled, -, -, -, -, rfl⟩ :=
    (ofDeclaration_eq_ok_iff compiler declaration model).mp built
  rw [ofClaims, flatMap_claims_number]
  exact foldl_settle settled

-----------------------------------------------------------------------------------------
-- Documents tell models apart
-----------------------------------------------------------------------------------------

theorem optionalText_injective : Function.Injective Json.optionalText := by
  intro left right same
  cases left <;> cases right <;> simp_all [Json.optionalText]

theorem texts_injective : Function.Injective Json.texts := by
  intro left right same
  have contents := congrArg (List.mapM text?) (Json.list.inj same)
  rw [mapM_text, mapM_text] at contents
  exact Option.some.inj contents

theorem Variant.view_injective : Function.Injective Variant.view := by
  intro left right same
  simp only [Variant.view, Json.object.injEq, List.cons.injEq, Prod.mk.injEq, true_and, and_true,
    Json.integer.injEq, Json.text.injEq] at same
  obtain ⟨index, name, primary, alternates, doc, data⟩ := same
  cases left
  cases right
  rw [Variant.mk.injEq]
  exact ⟨index, name, primary, texts_injective alternates, optionalText_injective doc,
    optionalText_injective data⟩

theorem fieldView_injective
    : Function.Injective fun field : Option Field => (field.map Field.view).getD .null := by
  rintro (_ | ⟨leftName, leftType⟩) (_ | ⟨rightName, rightType⟩) same
  all_goals simp_all [Field.view]

/-- Models with one document differ in their owners at most. -/
theorem eq_of_view {left right : Model} (same : left.view = right.view)
    (owners : left.owners = right.owners)
    : left = right := by
  simp only [view, Json.object.injEq, List.cons.injEq, Prod.mk.injEq, true_and, and_true,
    Json.text.injEq, Json.list.injEq] at same
  obtain ⟨name, doc, field, imports, variants⟩ := same
  cases left
  cases right
  rw [Model.mk.injEq]
  exact ⟨name, List.map_injective_iff.mpr Variant.view_injective variants, owners,
    optionalText_injective doc, fieldView_injective field, texts_injective imports⟩

-----------------------------------------------------------------------------------------
-- Texts of documents
-----------------------------------------------------------------------------------------

theorem read?_viewText (model : Model) (indent : Int)
    : JsonReader.read? (model.viewText indent).toList = some model.view := by
  rw [viewText, String.toList_ofList, JsonReader.read?_render]

/-- A variant that repeats a literal, and the model of its declaration. -/
def repeatingDeclaration : Declaration where
  name := "T"
  variants := [{ name := "A", primary := "a", alternates := ["b", "a"] }]

def repeatingModel : Model where
  name := "T"
  variants := [{ index := 0, name := "A", primary := "a", alternates := ["b", "a"] }]
  owners := [("a", 0), ("b", 0)]

end LiteralEnum.Model
