import LiteralEnum.Proofs.Model.LiteralOwnership

/-! Where a settlement stops: at the first claim in reading order to a literal that an
earlier variant holds. What was claimed before agrees, so that the holder is the only one.
-/

namespace LiteralEnum.Model.Check

/-- The claims of variants in a row; those of the later ones are numbered on. -/
theorem claims_append (start : Nat) (front back : List VariantDeclaration)
    : claims start (front ++ back) = claims start front ++ claims (start + front.length) back := by
  induction front generalizing start with
  | nil => rfl
  | cons variant rest ih =>
      rw [List.cons_append, claims, claims, ih, List.append_assoc, List.length_cons]
      congr 3
      omega

/-- The claims before a claim are those of the earlier variants, and those of the same
variant to the literals that stand before. By induction on the variants.
-/
theorem exists_split_of_claims {start : Nat} {variants : List VariantDeclaration}
    {made rest : List Claim} {claim : Claim}
    (split : claims start variants = made ++ claim :: rest)
    : ∃ before after read unread,
        variants = before ++ claim.variant :: after
        ∧ claim.variant.literals = read ++ claim.literal :: unread
        ∧ claim.index = start + before.length
        ∧ made = claims start before ++ read.map (⟨·, claim.index, claim.variant⟩) := by
  induction variants generalizing start made with
  | nil => simp [claims] at split
  | cons variant others ih =>
      rw [claims, List.append_eq_append_iff] at split
      rcases split with ⟨between, rfl, later⟩ | ⟨between, own, later⟩
      · obtain ⟨before, after, read, unread, rfl, literals, index, rfl⟩ := ih later
        refine ⟨variant :: before, after, read, unread, rfl, literals, ?_, ?_⟩
        · rw [index, List.length_cons]
          omega
        · rw [claims, List.append_assoc]
      · cases between with
        | nil =>
            rw [List.append_nil] at own
            obtain ⟨before, after, read, unread, rfl, literals, index, none⟩ :=
              @ih _ [] later.symm
            refine ⟨variant :: before, after, read, unread, rfl, literals, ?_, ?_⟩
            · rw [index, List.length_cons]
              omega
            · rw [← own, claims, List.append_assoc, ← none, List.append_nil]
        | cons head tail =>
            obtain ⟨rfl, -⟩ := List.cons.inj later
            obtain ⟨read, behind, literals, rfl, same⟩ := List.map_eq_append_iff.mp own
            obtain ⟨literal, unread, rfl, rfl, -⟩ := List.map_eq_cons_iff.mp same
            exact ⟨[], others, read, unread, rfl, literals, rfl, rfl⟩

/-- A settlement stops at the first claim against the holder of its literal. By induction on
the claims.
-/
theorem settle_eq_error_iff (held all : List Claim) (violation : Violation)
    : settle held all = .error violation
      ↔ ∃ made claim rest settled first,
          all = made ++ claim :: rest
          ∧ settle held made = .ok settled
          ∧ settled.find? (·.literal = claim.literal) = some first
          ∧ first.index ≠ claim.index
          ∧ violation = .sharedLiteral claim.literal first.variant claim.variant := by
  induction all generalizing held with
  | nil => simp [settle]
  | cons claim rest ih =>
      constructor
      · intro failed
        rw [settle] at failed
        split at failed
        next free =>
          obtain ⟨made, other, after, settled, first, rfl, success, known⟩ := (ih _).mp failed
          exact ⟨claim :: made, other, after, settled, first, rfl, by rw [settle, free]; exact success,
            known⟩
        next first found =>
          split at failed
          next again =>
            obtain ⟨made, other, after, settled, first', rfl, success, known⟩ := (ih _).mp failed
            refine ⟨claim :: made, other, after, settled, first', rfl, ?_, known⟩
            rw [settle, found]
            simpa [again] using success
          next against =>
            obtain rfl := Except.error.inj failed
            exact ⟨[], claim, rest, held, first, rfl, rfl, found, against, rfl⟩
      · rintro ⟨made, other, after, settled, first, split, success, found, against, rfl⟩
        cases made with
        | nil =>
            obtain ⟨rfl, rfl⟩ := List.cons.inj split
            obtain rfl := Except.ok.inj success
            simp [settle, found, against]
        | cons head tail =>
            obtain ⟨rfl, rfl⟩ := List.cons.inj split
            rw [settle] at success ⊢
            split at success
            next free => exact (ih _).mpr ⟨tail, other, after, settled, first, rfl, success, found,
              against, rfl⟩
            next known isKnown =>
              split at success
              next again =>
                rw [if_pos again]
                exact (ih _).mpr ⟨tail, other, after, settled, first, rfl, success, found,
                  against, rfl⟩
              next => cases success

/-- The claims of earlier variants and of one variant agree exactly where the earlier ones
share no literal and own none of the one.
-/
theorem agree_claims_concat_iff (before : List VariantDeclaration) (variant : VariantDeclaration)
    (read : List String)
    : Agree (claims 0 before ++ read.map (⟨·, before.length, variant⟩))
      ↔ HasUnsharedLiterals before ∧ ∀ known ∈ read, ∀ other ∈ before, known ∉ other.literals := by
  rw [← agree_claims_iff]
  constructor
  · intro agree
    refine ⟨fun left isLeft right isRight => agree left (List.mem_append_left _ isLeft) right
      (List.mem_append_left _ isRight), ?_⟩
    intro known isRead other isOther owns
    obtain ⟨i, bound, rfl⟩ := List.mem_iff_getElem.mp isOther
    have claimed := (mem_claims_iff 0 before ⟨known, i, before[i]⟩).mpr
      ⟨i, List.getElem?_eq_getElem bound, owns, (Nat.zero_add i).symm⟩
    have same : i = before.length := agree _ (List.mem_append_left _ claimed) _
      (List.mem_append_right _ (List.mem_map_of_mem isRead)) rfl
    omega
  · rintro ⟨agree, fresh⟩ left isLeft right isRight same
    rcases List.mem_append.mp isLeft with early | late
    · rcases List.mem_append.mp isRight with early' | late'
      · exact agree left early right early' same
      · obtain ⟨known, isRead, rfl⟩ := List.mem_map.mp late'
        obtain ⟨i, found, owns, -⟩ := (mem_claims_iff 0 before left).mp early
        have literal : left.literal = known := same
        exact absurd (literal ▸ owns) (fresh known isRead _ (List.mem_of_getElem? found))
    · obtain ⟨known, isRead, rfl⟩ := List.mem_map.mp late
      rcases List.mem_append.mp isRight with early' | late'
      · obtain ⟨i, found, owns, -⟩ := (mem_claims_iff 0 before right).mp early'
        have literal : right.literal = known := same.symm
        exact absurd (literal ▸ owns) (fresh known isRead _ (List.mem_of_getElem? found))
      · obtain ⟨_, -, rfl⟩ := List.mem_map.mp late'
        rfl

end LiteralEnum.Model.Check
