import LiteralEnum.Proofs.Declaration.Acceptance
import LiteralEnum.Proofs.Text.Lines
import Mathlib.Data.List.Infix

/-! A parse error points at the first token that cannot be right. The tokens before it can be
continued to a declaration; with it they cannot. An error about doc comments without a name behind
them points at the first of these comments.
-/

namespace LiteralEnum.Declaration

open LiteralEnum.Parser

-----------------------------------------------------------------------------------------
-- Lists that can be continued
-----------------------------------------------------------------------------------------

/-- Some declaration is read off the tokens. -/
def IsAccepted (tokens : List Token) : Prop :=
  ∃ declaration, Declaration.ofTokens tokens = .ok declaration

/-- The tokens start a list that is accepted. -/
def IsViable (tokens : List Token) : Prop := ∃ rest, IsAccepted (tokens ++ rest)

theorem IsViable.of_prefix {left right : List Token} (viable : IsViable right)
    (start : left <+: right) : IsViable left := by
  obtain ⟨more, rfl⟩ := start
  obtain ⟨rest, accepted⟩ := viable
  exact ⟨more ++ rest, by rwa [← List.append_assoc]⟩

/-- The reader steps over these tokens; it drops line breaks and stops at the end of the source. -/
def AreSignificant (tokens : List Token) : Prop :=
  ∀ token ∈ tokens, token.kind ≠ .newline ∧ token.kind ≠ .endOfSource

theorem areSignificant_significant (tokens : List Token)
    : AreSignificant (Token.significant tokens) := by
  intro token member
  have kept := (List.takeWhile_sublist _).mem member
  have read := List.mem_takeWhile_imp member
  exact ⟨by simpa using (List.mem_filter.mp kept).2, by simpa using read⟩

/-- A run begins with the steps over significant tokens, by induction on these. -/
theorem run_append {state : State} {tokens : List Token} (significant : AreSignificant tokens)
    (rest : List Token)
    : run state (tokens ++ rest) = (steps state tokens).bind (run · rest) := by
  induction tokens generalizing state with
  | nil => rfl
  | cons token tokens ih =>
      obtain ⟨⟨notNewline, notEnd⟩, later⟩ := List.forall_mem_cons.mp significant
      rw [List.cons_append, run]
      split
      next kind => exact absurd kind notNewline
      next kind => exact absurd kind notEnd
      next =>
        cases taken : step state token with
        | error error => simp [steps, List.foldlM_cons, taken, bind, Except.bind]
        | ok next => simp [steps_cons _ taken, ih later, bind, Except.bind]

/-- Tokens that complete what has been read in a state. -/
def completion : State → List Token
  | .imports _ | .enumDoc _ _ _ => word :: equals :: word :: [literal]
  | .importText _ _ => literal :: word :: equals :: word :: [literal]
  | .enumName _ | .dataField _ => equals :: word :: [literal]
  | .variants _ | .variantDoc _ _ _ => word :: [literal]
  | .variantName _ _ _ => [literal]
  | .literals _ _ => []
where
  word : Token := ⟨.identifier, "A", ⟨0, 0⟩⟩
  equals : Token := ⟨.equals, "=", ⟨0, 0⟩⟩
  literal : Token := ⟨.string, "a", ⟨0, 0⟩⟩

/-- What has been read in any state can be completed. -/
theorem exists_run_completion (state : State)
    : ∃ declaration, run state (completion state) = .ok declaration := by
  cases state <;> exact ⟨_, rfl⟩

/-- Significant tokens can be continued exactly if the reader can step over them. -/
theorem isViable_iff {tokens : List Token} (significant : AreSignificant tokens)
    : IsViable tokens ↔ ∃ state, steps (.imports []) tokens = .ok state := by
  constructor
  · rintro ⟨rest, declaration, accepted⟩
    rw [Declaration.ofTokens, run_append significant] at accepted
    cases taken : steps (.imports []) tokens with
    | error error =>
        rw [taken] at accepted
        cases accepted
    | ok state => exact ⟨state, rfl⟩
  · rintro ⟨state, taken⟩
    obtain ⟨declaration, completed⟩ := exists_run_completion state
    refine ⟨completion state, declaration, ?_⟩
    rw [Declaration.ofTokens, run_append significant, taken]
    exact completed

-----------------------------------------------------------------------------------------
-- Where the reader stops
-----------------------------------------------------------------------------------------

/-- The tokens up to the first one that is refused, by induction on the tokens. -/
theorem exists_of_steps_eq_error {state : State} {tokens : List Token} {error : ParseError}
    (stopped : steps state tokens = .error error)
    : ∃ before token after last, tokens = before ++ token :: after
        ∧ steps state before = .ok last ∧ step last token = .error error := by
  induction tokens generalizing state with
  | nil => cases stopped
  | cons token rest ih =>
      cases taken : step state token with
      | error refused =>
          have same : refused = error := by
            simpa [steps, List.foldlM_cons, taken, bind, Except.bind] using stopped
          exact ⟨[], token, rest, state, rfl, rfl, same ▸ taken⟩
      | ok next =>
          rw [steps_cons rest taken] at stopped
          obtain ⟨before, refused, after, last, rfl, steps, refuses⟩ := ih stopped
          exact ⟨token :: before, refused, after, last, rfl, (steps_cons _ taken).trans steps,
            refuses⟩

/-- The first of the doc comments that have just been read. -/
def openDoc? : State → Option Token
  | .enumDoc _ first _ | .variantDoc _ first _ => some first
  | _ => none

/-- The token that is found in a state is blamed, unless doc comments are open: then the first of
these is blamed, for a token that neither adds a comment nor gives a name.
-/
def Blames (state : State) (found : Token) (error : ParseError) : Prop :=
  match openDoc? state with
  | none => error.token = found ∧ ∀ first, error ≠ .danglingDoc first
  | some first => error = .danglingDoc first
      ∧ found.kind ≠ .docComment ∧ found.kind ≠ .identifier

theorem blames_of_step {state : State} {token : Token} {error : ParseError}
    (refused : step state token = .error error) : Blames state token error := by
  revert refused
  fun_cases step state token with
  | case8 declaration kind malformed =>
      rintro ⟨⟩
      exact ⟨rfl, by rintro _ ⟨⟩⟩
  | case17 declaration variant kind empty =>
      rintro ⟨⟩
      exact ⟨rfl, by rintro _ ⟨⟩⟩
  | case21 =>
      rintro ⟨⟩
      cases state <;> simp_all [Blames, openDoc?, State.reject, ParseError.token]
  | _ => rintro ⟨⟩

theorem blames_of_finish {state : State} {token : Token} {error : ParseError}
    (isEnd : token.kind = .endOfSource) (refused : finish state token = .error error)
    : Blames state token error := by
  revert refused
  fun_cases finish state token with
  | case1 declaration empty =>
      rintro ⟨⟩
      exact ⟨rfl, by rintro _ ⟨⟩⟩
  | case2 | case3 => rintro ⟨⟩
  | case4 =>
      rintro ⟨⟩
      cases state <;> simp_all [Blames, openDoc?, State.reject, ParseError.token]

theorem kind_ending (tokens : List Token) : (ending tokens).kind = .endOfSource := by
  rw [ending]
  cases found : tokens.find? (·.kind = .endOfSource) with
  | none => rfl
  | some token => simpa using List.find?_some found

/-- Only the end stands behind the significant tokens. -/
theorem atEnd_iff {tokens : List Token} {found : Token} {place : Nat}
    (isPlace : (Token.significant tokens ++ [ending tokens])[place]? = some found)
    : found.kind = .endOfSource ↔ place = (Token.significant tokens).length := by
  by_cases within : place < (Token.significant tokens).length
  · rw [List.getElem?_append_left within] at isPlace
    have member := List.mem_of_getElem? isPlace
    simp [(areSignificant_significant tokens found member).2, within.ne]
  · have bound := (List.getElem?_eq_some_iff.mp isPlace).1
    rw [List.length_append, List.length_singleton] at bound
    obtain rfl : place = (Token.significant tokens).length := by omega
    rw [List.getElem?_concat_length, Option.some.injEq] at isPlace
    simp [← isPlace, kind_ending]

theorem ending_of_forall {tokens : List Token} (noEnd : ∀ token ∈ tokens, token.kind ≠ .endOfSource)
    : ending tokens = ⟨.endOfSource, "", ⟨0, 0⟩⟩ := by
  rw [ending, List.find?_eq_none.mpr (by simpa using noEnd)]
  rfl

/-- A reader that fails has stepped over the tokens up to a place, and finds a token there that
cannot come next.
-/
theorem exists_stop {tokens : List Token} {error : ParseError}
    (failed : Declaration.ofTokens tokens = .error error)
    : ∃ place found state,
        (Token.significant tokens ++ [ending tokens])[place]? = some found
        ∧ steps (.imports []) ((Token.significant tokens).take place) = .ok state
        ∧ Blames state found error
        ∧ (place < (Token.significant tokens).length
          → ¬ IsViable ((Token.significant tokens).take (place + 1))) := by
  have significant := areSignificant_significant tokens
  rw [Declaration.ofTokens, run_eq_steps] at failed
  cases taken : steps (.imports []) (Token.significant tokens) with
  | error refused =>
      rw [taken] at failed
      obtain rfl : refused = error := by simpa [Except.bind] using failed
      obtain ⟨before, found, after, state, same, steps, refuses⟩ := exists_of_steps_eq_error taken
      rw [same] at significant
      have upTo : (before ++ found :: after).take (before.length + 1) = before ++ [found] := by
        simp [List.take_append]
      rw [same]
      refine ⟨before.length, found, state, by simp, by simpa using steps,
        blames_of_step refuses, fun _ viable => ?_⟩
      rw [upTo, isViable_iff fun token member => significant token ?_] at viable
      · obtain ⟨next, stepped⟩ := viable
        rw [steps_append _ steps, Declaration.steps, List.foldlM_cons, refuses] at stepped
        cases stepped
      · rw [← upTo] at member
        exact List.mem_of_mem_take member
  | ok state =>
      rw [taken] at failed
      exact ⟨(Token.significant tokens).length, ending tokens, state, by simp,
        by rwa [List.take_length], blames_of_finish (kind_ending tokens) failed,
        fun before => absurd before (lt_irrefl _)⟩

-----------------------------------------------------------------------------------------
-- Doc comments
-----------------------------------------------------------------------------------------

/-- The tokens do not end in a doc comment. -/
def EndsClosed (tokens : List Token) : Prop :=
  ∀ token, tokens.getLast? = some token → token.kind ≠ .docComment

theorem endsClosed_append {left right : List Token} (nonempty : right ≠ [])
    (closed : EndsClosed right) : EndsClosed (left ++ right) := by
  intro token last
  rw [List.getLast?_append_of_ne_nil _ nonempty] at last
  exact closed token last

theorem endsClosed_of_forall {tokens : List Token}
    (others : ∀ token ∈ tokens, token.kind ≠ .docComment)
    : EndsClosed tokens :=
  fun token last => others token (List.mem_of_getLast? last)

/-- Phrases that end closed keep the tokens closed, by induction on the phrases. -/
theorem EndsClosed.append_flatMap {α : Type} {tokens : α → List Token}
    (phrase : ∀ a, tokens a ≠ [] ∧ EndsClosed (tokens a)) {before : List Token}
    (closed : EndsClosed before) (phrases : List α)
    : EndsClosed (before ++ phrases.flatMap tokens) := by
  induction phrases generalizing before with
  | nil => simpa using closed
  | cons first rest ih =>
      rw [List.flatMap_cons, ← List.append_assoc]
      exact ih (endsClosed_append (phrase first).1 (phrase first).2)

theorem endsClosed_import (phrase : ImportPhrase)
    : phrase.tokens ≠ [] ∧ EndsClosed phrase.tokens := by
  refine ⟨List.cons_ne_nil _ _, endsClosed_of_forall fun token member => ?_⟩
  obtain rfl | rfl : token = phrase.keyword.val ∨ token = phrase.statement.val := by
    simpa [ImportPhrase.tokens] using member
  · simp [phrase.keyword.property]
  · simp [phrase.statement.property]

/-- A variant ends in literals, or in data. -/
theorem endsClosed_variant (phrase : VariantPhrase)
    : phrase.tokens ≠ [] ∧ EndsClosed phrase.tokens := by
  have split : phrase.tokens = (leaves phrase.docs ++ [phrase.name.val])
      ++ (leaves (phrase.primary :: phrase.alternates) ++ phrase.data.toList.map (·.val.val)) := by
    simp [VariantPhrase.tokens]
  rw [split]
  refine ⟨by simp, endsClosed_append (by simp) (endsClosed_of_forall fun token member => ?_)⟩
  rcases List.mem_append.mp member with inLiterals | inData
  · obtain ⟨literal, -, rfl⟩ := List.mem_map.mp inLiterals
    simp [literal.property]
  · obtain ⟨block, -, rfl⟩ := List.mem_map.mp inData
    simp [block.val.property]

theorem Spells.endsClosed {read : List Token} {declaration : Declaration}
    (spells : Spells read declaration) : EndsClosed read := by
  obtain ⟨heading, field, equals, phrases, rfl, -⟩ := spells
  refine EndsClosed.append_flatMap endsClosed_variant ?_ phrases
  exact endsClosed_append (by simp) (endsClosed_of_forall (by simp [equals.property]))

/-- The doc comments that are open are the last tokens that have been read. -/
theorem HasRead.exists_docs {read : List Token} {state : State} {first : Token}
    (reads : HasRead read state) (isOpen : openDoc? state = some first)
    : ∃ (before : List Token) (docs : List (Token.Of .docComment)),
        read = before ++ leaves docs ∧ (leaves docs).head? = some first ∧ EndsClosed before := by
  cases state with
  | enumDoc done opening lines =>
      cases isOpen
      obtain ⟨phrases, docs, rfl, -, head, -⟩ := reads
      have closed : EndsClosed ([] ++ phrases.flatMap ImportPhrase.tokens) :=
        EndsClosed.append_flatMap endsClosed_import (endsClosed_of_forall (by simp)) phrases
      exact ⟨_, docs, rfl, head, by simpa using closed⟩
  | variantDoc declaration opening lines =>
      cases isOpen
      obtain ⟨before, docs, rfl, spells, head, -⟩ := reads
      exact ⟨before, docs, rfl, head, spells.endsClosed⟩
  | _ => cases isOpen

-----------------------------------------------------------------------------------------
-- The place of an error
-----------------------------------------------------------------------------------------

/-- The error is about doc comments without a name behind them. -/
def IsDangling (error : ParseError) : Prop :=
  error.reason = "Doc comment is not followed by a name"

/-- The other messages start with other letters. -/
theorem isDangling_iff (error : ParseError)
    : IsDangling error ↔ ∃ first, error = .danglingDoc first := by
  constructor
  · intro same
    have start : error.reason.toList.head? = some 'D' := by
      rw [IsDangling] at same
      rw [same]
      decide
    have other {c : Char} (starts : error.reason.toList.head? = some c) (apart : c ≠ 'D') : False :=
      apart (Option.some.inj (starts.symm.trans start))
    cases error with
    | danglingDoc first => exact ⟨first, rfl⟩
    | missingImportText | missingEnumName | missingVariantName =>
        exact (other (Text.head?_append (by decide) _) (by decide : 'E' ≠ 'D')).elim
    | malformedField =>
        refine (other ?_ (by decide : 'M' ≠ 'D')).elim
        iterate 2 refine Text.head?_append ?_ _
        decide
    | emptyData | noVariants =>
        refine (other ?_ (by decide : 'E' ≠ 'D')).elim
        iterate 2 refine Text.head?_append ?_ _
        decide
    | missingEquals =>
        refine (other ?_ (by decide : 'E' ≠ 'D')).elim
        iterate 3 refine Text.head?_append ?_ _
        decide
    | missingPrimary =>
        refine (other ?_ (by decide : 'V' ≠ 'D')).elim
        iterate 4 refine Text.head?_append ?_ _
        decide
  · rintro ⟨first, rfl⟩
    rfl

/-- The significant tokens from a place on are doc comments, all of those that stand together, and
no name behind them.
-/
def StartsDangling (tokens : List Token) (place : Nat) : Prop :=
  EndsClosed (tokens.take place)
  ∧ ∃ docs rest, tokens.drop place = docs ++ rest ∧ docs ≠ []
    ∧ (∀ token ∈ docs, token.kind = .docComment)
    ∧ ∀ token, rest.head? = some token → token.kind ≠ .docComment ∧ token.kind ≠ .identifier

/-- An error points at a place among the significant tokens, or at the end of the source behind
them. A list without an end has one in the line and column zero.
-/
structure PointsAt (tokens : List Token) (error : ParseError) (place : Nat) : Prop where
  isPlace : (Token.significant tokens ++ [ending tokens])[place]? = some error.token
  atEnd : error.token.kind = .endOfSource ↔ place = (Token.significant tokens).length
  position : (SourceError.parsing error).position = error.token.position
  madeUp : (∀ token ∈ tokens, token.kind ≠ .endOfSource)
    → place = (Token.significant tokens).length → error.token = ⟨.endOfSource, "", ⟨0, 0⟩⟩
  viable : IsViable ((Token.significant tokens).take place)
  isWrong : ¬ IsDangling error → place < (Token.significant tokens).length
    → ¬ IsViable ((Token.significant tokens).take (place + 1))
  isIncomplete : ¬ IsDangling error → place = (Token.significant tokens).length
    → ¬ IsAccepted (Token.significant tokens)
  isDangling : IsDangling error → StartsDangling (Token.significant tokens) place

theorem significant_significant (tokens : List Token)
    : Token.significant (Token.significant tokens) = Token.significant tokens := by
  have significant := areSignificant_significant tokens
  have kept : (Token.significant tokens).filter (·.kind ≠ .newline) = Token.significant tokens :=
    List.filter_eq_self.mpr fun token member => by simpa using (significant token member).1
  rw [Token.significant, kept, List.takeWhile_eq_self_iff]
  exact fun token member => by simpa using (significant token member).2

section

variable {tokens : List Token} {place : Nat} {found : Token} {state : State} {error : ParseError}
  (isPlace : (Token.significant tokens ++ [ending tokens])[place]? = some found)
  (taken : steps (.imports []) ((Token.significant tokens).take place) = .ok state)
  (blames : Blames state found error)

include taken in
theorem isViable_take : IsViable ((Token.significant tokens).take place) :=
  (isViable_iff fun token member =>
    areSignificant_significant tokens token (List.mem_of_mem_take member)).mpr ⟨state, taken⟩

include isPlace taken blames

/-- Without open doc comments the error points at the token that is found. -/
theorem pointsAt_of_closed (isClosed : openDoc? state = none)
    (refused : ¬ IsAccepted (Token.significant tokens))
    (isWrong : place < (Token.significant tokens).length
      → ¬ IsViable ((Token.significant tokens).take (place + 1)))
    : PointsAt tokens error place := by
  rw [Blames, isClosed] at blames
  obtain ⟨rfl, other⟩ := blames
  have regular : ¬ IsDangling error := by simpa [isDangling_iff] using other
  refine ⟨isPlace, atEnd_iff isPlace, rfl, fun noEnd last => ?_, isViable_take taken,
    fun _ => isWrong, fun _ _ => refused, fun dangling => absurd dangling regular⟩
  rw [last, List.getElem?_concat_length, ending_of_forall noEnd] at isPlace
  exact (Option.some.inj isPlace).symm

/-- With open doc comments the error points at the first of them. -/
theorem exists_pointsAt_of_open {first : Token} (isOpen : openDoc? state = some first)
    : ∃ start, PointsAt tokens error start := by
  rw [Blames, isOpen] at blames
  obtain ⟨rfl, notDoc, notName⟩ := blames
  have nothing : HasRead [] (.imports []) := ⟨[], rfl, rfl⟩
  obtain ⟨before, docs, read, head, closed⟩ := (nothing.steps taken).exists_docs isOpen
  have viable := isViable_take taken
  rw [List.nil_append] at read
  rw [read] at viable
  have whole : Token.significant tokens
      = before ++ (leaves docs ++ (Token.significant tokens).drop place) := by
    rw [← List.append_assoc, ← read, List.take_append_drop]
  have upTo : (Token.significant tokens).take before.length = before := by
    rw [whole, List.take_left]
  have isFirst : (Token.significant tokens)[before.length]? = some first := by
    rw [whole, List.getElem?_append_right le_rfl, Nat.sub_self, ← List.head?_eq_getElem?,
      List.head?_append, head]
    rfl
  have within := (List.getElem?_eq_some_iff.mp isFirst).1
  have stands : (Token.significant tokens ++ [ending tokens])[before.length]? = some first := by
    rwa [List.getElem?_append_left within]
  have dangling : IsDangling (.danglingDoc first) := (isDangling_iff _).mpr ⟨first, rfl⟩
  refine ⟨before.length, stands, atEnd_iff stands, rfl, fun _ last => absurd last within.ne, ?_,
    fun regular => absurd dangling regular, fun regular => absurd dangling regular,
    fun _ => ⟨?_, leaves docs, (Token.significant tokens).drop place, ?_, ?_,
      fun token member => ?_, fun token next => ?_⟩⟩
  · rw [upTo]
    exact viable.of_prefix (List.prefix_append _ _)
  · rwa [upTo]
  · conv_lhs => rw [whole]
    rw [List.drop_left]
  · intro none
    rw [none] at head
    cases head
  · obtain ⟨comment, -, rfl⟩ := List.mem_map.mp member
    exact comment.property
  · rw [List.head?_drop] at next
    have bound := (List.getElem?_eq_some_iff.mp next).1
    rw [List.getElem?_append_left bound, next] at isPlace
    cases isPlace
    exact ⟨notDoc, notName⟩

end

theorem exists_pointsAt {tokens : List Token} {error : ParseError}
    (failed : Declaration.ofTokens tokens = .error error)
    : ∃ place, PointsAt tokens error place := by
  have refused : ¬ IsAccepted (Token.significant tokens) := by
    rintro ⟨declaration, accepted⟩
    rw [ofTokens_eq_ok_iff, significant_significant, ← ofTokens_eq_ok_iff, failed] at accepted
    cases accepted
  obtain ⟨place, found, state, isPlace, taken, blames, isWrong⟩ := exists_stop failed
  cases isOpen : openDoc? state with
  | none => exact ⟨place, pointsAt_of_closed isPlace taken blames isOpen refused isWrong⟩
  | some first => exact exists_pointsAt_of_open isPlace taken blames isOpen

-----------------------------------------------------------------------------------------
-- One place only
-----------------------------------------------------------------------------------------

/-- Steps over joined tokens, taken apart. -/
theorem exists_steps_of_append {state last : State} {left right : List Token}
    (taken : steps state (left ++ right) = .ok last)
    : ∃ middle, steps state left = .ok middle ∧ steps middle right = .ok last := by
  cases first : steps state left with
  | error error =>
      rw [steps] at first
      simp [steps, List.foldlM_append, first, bind, Except.bind] at taken
  | ok middle => exact ⟨middle, rfl, (steps_append right first).symm.trans taken⟩

theorem steps_singleton (state : State) (token : Token)
    : steps state [token] = step state token := by
  simp [steps]

theorem isSome_openDoc?_of_step {state next : State} {doc : Token} (isDoc : doc.kind = .docComment)
    (taken : step state doc = .ok next) : (openDoc? next).isSome = true := by
  revert taken
  fun_cases step state doc <;> simp_all [openDoc?]
  all_goals
    rintro rfl
    rfl

theorem not_step_of_openDoc? {state next : State} {found : Token} (isOpen : (openDoc? state).isSome)
    (notDoc : found.kind ≠ .docComment) (notName : found.kind ≠ .identifier)
    : step state found ≠ .ok next := by
  fun_cases step state found <;> simp_all [openDoc?]

/-- Doc comments with neither a comment nor a name behind them cannot be continued. -/
theorem not_isViable_of_docs {before : List Token} {doc found : Token}
    (significant : AreSignificant (before ++ [doc, found])) (isDoc : doc.kind = .docComment)
    (notDoc : found.kind ≠ .docComment) (notName : found.kind ≠ .identifier)
    : ¬ IsViable (before ++ [doc, found]) := by
  rw [isViable_iff significant]
  rintro ⟨last, taken⟩
  obtain ⟨state, -, taken⟩ := exists_steps_of_append taken
  have split : [doc, found] = [doc] ++ [found] := rfl
  rw [split] at taken
  obtain ⟨next, opened, refused⟩ := exists_steps_of_append taken
  rw [steps_singleton] at opened refused
  exact not_step_of_openDoc? (isSome_openDoc?_of_step isDoc opened) notDoc notName refused

/-- A second place would either have a comment before it, or come behind tokens that cannot be
continued.
-/
theorem StartsDangling.le {tokens : List Token} (significant : AreSignificant tokens)
    {left right : Nat} (first : StartsDangling tokens left) (second : StartsDangling tokens right)
    (viable : IsViable (tokens.take right)) : right ≤ left := by
  obtain ⟨-, docs, rest, drop, nonempty, areDocs, behind⟩ := first
  obtain ⟨closed, more, others, dropRight, nonemptyRight, -⟩ := second
  by_contra later
  obtain ⟨count, rfl⟩ : ∃ count, right = left + count := Nat.exists_eq_add_of_le (by omega)
  have upTo : tokens.take (left + count) = tokens.take left ++ (docs ++ rest).take count := by
    rw [List.take_add, drop]
  by_cases inDocs : count ≤ docs.length
  · rw [List.take_append_of_le_length inDocs] at upTo
    have present : docs.take count ≠ [] := by
      simp only [ne_eq, List.take_eq_nil_iff, nonempty, or_false]
      omega
    refine closed ((docs.take count).getLast present) ?_
      (areDocs _ (List.mem_of_mem_take (List.getLast_mem present)))
    rw [upTo, List.getLast?_append_of_ne_nil _ present, List.getLast?_eq_some_getLast present]
  · cases rest with
    | nil =>
        refine nonemptyRight (List.append_eq_nil_iff.mp (dropRight.symm.trans ?_)).1
        rw [← List.drop_drop, drop, List.append_nil, List.drop_eq_nil_of_le (by omega)]
    | cons found rest =>
        obtain ⟨notDoc, notName⟩ := behind found rfl
        obtain ⟨front, doc, rfl⟩ := (List.eq_nil_or_concat' docs).resolve_left nonempty
        have isDoc : doc.kind = .docComment := areDocs doc (by simp)
        have start : tokens.take left ++ front ++ [doc, found] <+: tokens.take (left + count) := by
          rw [upTo, List.append_assoc, List.prefix_append_right_inj, List.prefix_take_iff]
          rw [List.length_append, List.length_singleton] at inDocs
          exact ⟨⟨rest, by simp⟩, by simp; omega⟩
        refine not_isViable_of_docs (fun token member => ?_) isDoc notDoc notName
          (viable.of_prefix start)
        exact significant token (List.mem_of_mem_take (start.subset member))

theorem PointsAt.le {tokens : List Token} {error : ParseError} {left right : Nat}
    (first : PointsAt tokens error left) (second : PointsAt tokens error right)
    : right ≤ left := by
  by_cases dangling : IsDangling error
  · exact (first.isDangling dangling).le (areSignificant_significant tokens)
      (second.isDangling dangling) second.viable
  by_contra later
  have bound := (List.getElem?_eq_some_iff.mp second.isPlace).1
  rw [List.length_append, List.length_singleton] at bound
  refine first.isWrong dangling (by omega) (second.viable.of_prefix ?_)
  exact List.take_prefix_take_left (by omega)

/-- A parse error points at one place, the first token that cannot be right. -/
theorem existsUnique_pointsAt {tokens : List Token} {error : ParseError}
    (failed : Declaration.ofTokens tokens = .error error)
    : ∃! place, PointsAt tokens error place := by
  obtain ⟨place, points⟩ := exists_pointsAt failed
  exact ⟨place, points, fun other also => le_antisymm (points.le also) (also.le points)⟩

/-- Doc comments without a variant behind them. -/
def trailingComments : List Token :=
  [⟨.identifier, "T", ⟨1, 1⟩⟩, ⟨.equals, "=", ⟨1, 3⟩⟩, ⟨.identifier, "A", ⟨1, 5⟩⟩,
    ⟨.string, "a", ⟨1, 7⟩⟩, ⟨.newline, "\\n", ⟨1, 10⟩⟩, ⟨.docComment, "one", ⟨2, 1⟩⟩,
    ⟨.newline, "\\n", ⟨2, 7⟩⟩, ⟨.docComment, "two", ⟨3, 1⟩⟩, ⟨.endOfSource, "", ⟨3, 7⟩⟩]

theorem existsUnique_pointsAt_trailingComments
    : Declaration.ofTokens trailingComments
        = .error (.danglingDoc ⟨.docComment, "one", ⟨2, 1⟩⟩)
      ∧ ∃! place,
          PointsAt trailingComments (.danglingDoc ⟨.docComment, "one", ⟨2, 1⟩⟩) place :=
  ⟨rfl, existsUnique_pointsAt rfl⟩

end LiteralEnum.Declaration
