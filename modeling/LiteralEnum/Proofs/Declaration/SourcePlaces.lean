import LiteralEnum.Proofs.Declaration.ErrorPlace
import LiteralEnum.Proofs.Token.Places

/-! The places that are reported are places of the source. Every token stands where its text starts,
one behind the other; a lexical error stands behind the tokens before it; the error of a source that
spells no declaration stands on a line of the source.
-/

namespace LiteralEnum.Declaration

open LiteralEnum.Lexer

/-- The place is on a line of the text, at most one column behind its end. -/
def IsOnLine (source : List Char) (place : Position) : Prop :=
  ∃ (line column : Nat) (text : List Char),
    place = ⟨line + 1, column + 1⟩
    ∧ (Text.splitAt '\n' source)[line]? = some text
    ∧ column ≤ text.length

theorem isOnLine_placeOf (source : List Char) (offset : Nat)
    : IsOnLine source (placeOf source offset) := by
  obtain ⟨pieces, count, split⟩ :=
    Text.exists_splitAt_around '\n' (source.take offset) (source.drop offset)
  rw [List.take_append_drop] at split
  refine ⟨(source.take offset).count '\n', ((source.take offset).rtakeWhile (· ≠ '\n')).length,
    (source.take offset).rtakeWhile (· ≠ '\n') ++ (Text.splitAt '\n' (source.drop offset)).headD [],
    rfl, ?_, by simp⟩
  rw [split, ← count]
  simp

/-- The tokens that are scanned before the lexeme an error is about: the source up to this lexeme is
lexed by itself, and the tokens stand one behind the other before the error.
-/
structure AreBefore (source : List Char) (tokens : List Token) (start offset : Nat) : Prop where
  lexed
    : Token.ofSource (String.ofList (source.take start))
      = .ok (tokens ++ [⟨.endOfSource, "", placeOf source start⟩])
  ascending : ∃ offsets, StandAt source tokens offsets ∧ ∀ earlier ∈ offsets, earlier < offset

section

variable {source : String} {tokens : List Token}

/-- The tokens of a source stand in it. -/
theorem exists_offsets_of_ofSource (lexed : Token.ofSource source = .ok tokens)
    : ∃ offsets, StandAt source.toList tokens offsets := by
  obtain ⟨pieces, decomposition⟩ := exists_decomposition_of_run lexed
  have same := lexed.symm.trans decomposition.ofSource_eq
  rw [Except.ok.inj same]
  exact exists_offsets_decomposedTokens decomposition

theorem LexError.IsAt.start_le {error : LexError} {start offset : Nat}
    (isAt : error.IsAt source.toList start offset) : start ≤ offset := by
  have isAbout := isAt.isAbout
  cases cause : error.cause with
  | unknownEscape c =>
      rw [cause] at isAbout
      obtain ⟨items, rfl, -⟩ := isAbout
      omega
  | _ =>
      rw [cause] at isAbout
      exact isAbout.1.ge

/-- An error is about a lexeme, and the tokens of the source up to this lexeme stand before it. -/
theorem exists_areBefore {error : LexError} (failed : Token.ofSource source = .error error)
    : ∃ tokens start offset,
        AreBefore source.toList tokens start offset
        ∧ error.IsAt source.toList start offset := by
  obtain ⟨pieces, rest, offset, split, joined, isAt⟩ := exists_front_of_error failed
  have front : source.toList.take (textOf pieces).length = textOf pieces := by
    rw [split, List.take_left]
  have place : placeOf source.toList (textOf pieces).length
      = Position.start.advanceOver (textOf pieces) := by
    rw [split, placeOf_append]
  obtain ⟨offsets, stand, bounds⟩ := exists_offsets [] pieces rest
  have decomposition : IsDecomposition pieces (String.ofList (textOf pieces)).toList := by
    refine ⟨String.toList_ofList.symm, joined.exchange fun piece _ => ?_⟩
    cases piece <;> simp [Piece.EndsBefore]
  refine ⟨tokensFrom .start pieces, (textOf pieces).length, offset, ⟨?_, offsets, ?_, ?_⟩, isAt⟩
  · rw [front, place, decomposition.ofSource_eq, decomposedTokens]
  · rw [split]
    exact stand
  · intro earlier member
    have bound := (bounds earlier member).2
    have behind := LexError.IsAt.start_le isAt
    rw [List.length_nil, Nat.zero_add] at bound
    exact bound.trans_le behind

/-- A parse error is reported at one of the tokens, which may be the end of the source. -/
theorem token_mem_of_ofTokens {error : ParseError}
    (failed : Declaration.ofTokens tokens = .error error)
    (ends : ∃ token ∈ tokens, token.kind = .endOfSource)
    : error.token ∈ tokens := by
  obtain ⟨place, points⟩ := exists_pointsAt failed
  have member := List.mem_of_getElem? points.isPlace
  rcases List.mem_append.mp member with significant | last
  · exact List.mem_of_mem_filter ((List.takeWhile_sublist _).mem significant)
  · obtain ⟨token, isToken, kind⟩ := ends
    rw [List.mem_singleton.mp last, ending]
    cases found : tokens.find? (·.kind = .endOfSource) with
    | none => simpa [kind] using List.find?_eq_none.mp found token isToken
    | some first => exact List.mem_of_find?_eq_some found

/-- The end of the source is among the tokens of a source. -/
theorem exists_end_of_ofSource (lexed : Token.ofSource source = .ok tokens)
    : ∃ token ∈ tokens, token.kind = .endOfSource := by
  obtain ⟨pieces, decomposition⟩ := exists_decomposition_of_run lexed
  have same := lexed.symm.trans decomposition.ofSource_eq
  rw [Except.ok.inj same, decomposedTokens]
  exact ⟨_, List.mem_append_right _ List.mem_cons_self, rfl⟩

/-- A token that stands in a source is on one of its lines. -/
theorem isOnLine_of_mem {offsets : List Nat} (stand : StandAt source.toList tokens offsets)
    {token : Token} (member : token ∈ tokens) : IsOnLine source.toList token.position := by
  have onLines : List.Forall₂
      (fun token offset => IsOnLine source.toList token.position ∧ token.IsAt source.toList offset)
      tokens offsets := by
    refine stand.stand.imp fun token offset isAt => ⟨?_, isAt⟩
    rw [isAt.position]
    exact isOnLine_placeOf source.toList offset
  exact ((List.forall₂_and_left _ _).mp onLines).1 token member

end

/-- Every error of a source that spells no declaration is on a line of the source. -/
theorem isOnLine_of_ofSource {source : String} {error : SourceError}
    (failed : Declaration.ofSource source = .error error)
    : IsOnLine source.toList error.position := by
  cases lexed : Token.ofSource source with
  | error fault =>
      obtain rfl : error = .lexing fault := by
        simpa [Declaration.ofSource, lexed, Except.mapError, bind, Except.bind, eq_comm]
          using failed
      obtain ⟨_, _, offset, -, isAt⟩ := exists_areBefore lexed
      have place : (SourceError.lexing fault).position = placeOf source.toList offset :=
        isAt.position
      rw [place]
      exact isOnLine_placeOf source.toList offset
  | ok tokens =>
      obtain ⟨fault, refused, rfl⟩ : ∃ fault,
          Declaration.ofTokens tokens = .error fault ∧ error = .parsing fault := by
        cases parsed : Declaration.ofTokens tokens with
        | ok declaration =>
            simp [Declaration.ofSource, lexed, parsed, Except.mapError, bind, Except.bind]
              at failed
        | error fault =>
            refine ⟨fault, rfl, ?_⟩
            simpa [Declaration.ofSource, lexed, parsed, Except.mapError, bind, Except.bind, eq_comm]
              using failed
      obtain ⟨offsets, stand⟩ := exists_offsets_of_ofSource lexed
      exact isOnLine_of_mem stand (token_mem_of_ofTokens refused (exists_end_of_ofSource lexed))

/-- Positions are real. The tokens of a source stand at increasing offsets at which their texts
start. An error of the lexer stands at the character it is about, behind all tokens before it. Every
error of a source that spells no declaration is on one of its lines.
-/
theorem places_in_source (source : String)
    : (∀ tokens, Token.ofSource source = .ok tokens
        → ∃ offsets, StandAt source.toList tokens offsets)
      ∧ (∀ error, Token.ofSource source = .error error
        → ∃ tokens start offset,
            AreBefore source.toList tokens start offset
            ∧ error.IsAt source.toList start offset)
      ∧ ∀ error, Declaration.ofSource source = .error error
        → IsOnLine source.toList error.position :=
  ⟨fun _ lexed => exists_offsets_of_ofSource lexed, fun _ failed => exists_areBefore failed,
    fun _ failed => isOnLine_of_ofSource failed⟩

end LiteralEnum.Declaration
