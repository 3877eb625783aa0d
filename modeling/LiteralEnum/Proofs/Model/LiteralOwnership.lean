import LiteralEnum.Proofs.Model.Admissibility
import Mathlib.Data.List.Nodup

/-! Who owns the literals of a declaration. While claims are settled, every literal that has
been claimed is held once, by the variant of its first claim; the settlement fails only at
a claim against the holder.
-/

namespace LiteralEnum.Model.Check

-----------------------------------------------------------------------------------------
-- Claims
-----------------------------------------------------------------------------------------

/-- The claims of variants are exactly those of their literals, by induction on the
variants.
-/
theorem mem_claims_iff (start : Nat) (variants : List VariantDeclaration) (claim : Claim)
    : claim ∈ claims start variants
      ↔ ∃ i, variants[i]? = some claim.variant
          ∧ claim.literal ∈ claim.variant.literals
          ∧ claim.index = start + i := by
  induction variants generalizing start with
  | nil => simp [claims]
  | cons variant rest ih =>
      rw [claims, List.mem_append, ih, List.mem_map]
      constructor
      · rintro (⟨literal, member, rfl⟩ | ⟨i, found, member, index⟩)
        · exact ⟨0, rfl, member, rfl⟩
        · exact ⟨i + 1, found, member, by omega⟩
      · rintro ⟨i, found, member, index⟩
        cases i with
        | zero =>
            obtain rfl : variant = claim.variant := by simpa using found
            rw [Nat.add_zero] at index
            exact Or.inl ⟨claim.literal, member, by rw [← index]⟩
        | succ i => exact Or.inr ⟨i, found, member, by omega⟩

/-- The claims follow the literals in reading order. -/
theorem claims_literals (start : Nat) (variants : List VariantDeclaration)
    : (claims start variants).map (·.literal)
      = variants.flatMap VariantDeclaration.literals := by
  induction variants generalizing start with
  | nil => rfl
  | cons variant rest ih => simp [claims, ih, Function.comp_def]

/-- Claims to one literal come from one variant. -/
def Agree (made : List Claim) : Prop :=
  ∀ left ∈ made, ∀ right ∈ made, left.literal = right.literal → left.index = right.index

/-- The claims of variants agree exactly where no literal is shared. -/
theorem agree_claims_iff (variants : List VariantDeclaration)
    : Agree (claims 0 variants) ↔ HasUnsharedLiterals variants := by
  constructor
  · intro agree i j left right foundLeft foundRight literal inLeft inRight
    have claimed := (mem_claims_iff 0 variants ⟨literal, i, left⟩).mpr
      ⟨i, foundLeft, inLeft, (Nat.zero_add i).symm⟩
    have claimedAgain := (mem_claims_iff 0 variants ⟨literal, j, right⟩).mpr
      ⟨j, foundRight, inRight, (Nat.zero_add j).symm⟩
    exact agree _ claimed _ claimedAgain rfl
  · intro unshared left isLeft right isRight same
    obtain ⟨i, foundLeft, inLeft, leftIndex⟩ := (mem_claims_iff 0 variants left).mp isLeft
    obtain ⟨j, foundRight, inRight, rightIndex⟩ := (mem_claims_iff 0 variants right).mp isRight
    have one := unshared i j _ _ foundLeft foundRight _ inLeft (same ▸ inRight)
    omega

-----------------------------------------------------------------------------------------
-- Settlement
-----------------------------------------------------------------------------------------

/-- A text that occurs again is no first occurrence. -/
theorem eraseDups_concat_of_mem {texts : List String} {text : String} (known : text ∈ texts)
    : (texts ++ [text]).eraseDups = texts.eraseDups := by
  simp [List.eraseDups_append, List.removeAll, known]

/-- A text that occurs for the first time is the last first occurrence. -/
theorem eraseDups_concat_of_not_mem {texts : List String} {text : String}
    (fresh : text ∉ texts)
    : (texts ++ [text]).eraseDups = texts.eraseDups ++ [text] := by
  simp [List.eraseDups_append, List.removeAll, fresh, List.eraseDups_cons]

/-- What holds of the claims `held` when the claims `made` have been read: they are first
claims, one for each literal, and every claim is covered by the one that is held.
-/
structure Settled (made held : List Claim) : Prop where
  literals : held.map (·.literal) = (made.map (·.literal)).eraseDups
  once : (held.map (·.literal)).Nodup
  claimed : ∀ claim ∈ held, claim ∈ made
  covered : ∀ claim ∈ made,
    ∃ first ∈ held, first.literal = claim.literal ∧ first.index = claim.index

theorem Settled.nil : Settled [] [] :=
  ⟨rfl, List.nodup_nil, fun _ member => member, fun claim member => by cases member⟩

/-- A literal that is not held yet is held from now on. -/
theorem Settled.hold {made held : List Claim} {claim : Claim} (settled : Settled made held)
    (fresh : ∀ other ∈ held, other.literal ≠ claim.literal)
    : Settled (made ++ [claim]) (held ++ [claim]) := by
  have notHeld : claim.literal ∉ held.map (·.literal) := by simpa using fresh
  have notMade : claim.literal ∉ made.map (·.literal) := by
    rwa [← List.mem_eraseDups, ← settled.literals]
  refine ⟨?_, ?_, ?_, ?_⟩
  · rw [List.map_append, List.map_append, settled.literals]
    exact (eraseDups_concat_of_not_mem notMade).symm
  · rw [List.map_append]
    exact List.Nodup.append settled.once (List.nodup_singleton _) (by simpa using notHeld)
  · intro other member
    rcases List.mem_append.mp member with before | now
    · exact List.mem_append_left _ (settled.claimed other before)
    · exact List.mem_append_right _ now
  · intro other member
    rcases List.mem_append.mp member with before | now
    · obtain ⟨first, isHeld, covers⟩ := settled.covered other before
      exact ⟨first, List.mem_append_left _ isHeld, covers⟩
    · obtain rfl := List.mem_singleton.mp now
      exact ⟨other, List.mem_append_right _ now, rfl, rfl⟩

/-- A claim of the holder changes nothing. -/
theorem Settled.again {made held : List Claim} {claim first : Claim}
    (settled : Settled made held) (isHeld : first ∈ held)
    (literal : first.literal = claim.literal) (index : first.index = claim.index)
    : Settled (made ++ [claim]) held := by
  have isMade : claim.literal ∈ made.map (·.literal) := by
    rw [← literal]
    exact List.mem_map_of_mem (settled.claimed first isHeld)
  refine ⟨?_, settled.once, ?_, ?_⟩
  · rw [List.map_append, settled.literals]
    exact (eraseDups_concat_of_mem isMade).symm
  · exact fun other member => List.mem_append_left _ (settled.claimed other member)
  · intro other member
    rcases List.mem_append.mp member with before | now
    · exact settled.covered other before
    · obtain rfl := List.mem_singleton.mp now
      exact ⟨first, isHeld, literal, index⟩

/-- Where claims are settled, they agree: claims to one literal are covered by the one claim
that is held.
-/
theorem Settled.agree {made held : List Claim} (settled : Settled made held) : Agree made := by
  intro left isLeft right isRight same
  obtain ⟨first, isFirst, literal, index⟩ := settled.covered left isLeft
  obtain ⟨second, isSecond, otherLiteral, otherIndex⟩ := settled.covered right isRight
  have one : first = second :=
    List.inj_on_of_nodup_map settled.once isFirst isSecond
      (literal.trans (same.trans otherLiteral.symm))
  rw [← index, ← otherIndex, one]

/-- A settlement keeps what holds of the claims that are held, to its end. By induction on
the claims that are still to be read.
-/
theorem Settled.settle {made held rest result : List Claim} (settled : Settled made held)
    (success : settle held rest = .ok result)
    : Settled (made ++ rest) result := by
  induction rest generalizing made held with
  | nil =>
      obtain rfl : held = result := by simpa [Check.settle] using success
      simpa using settled
  | cons claim others ih =>
      rw [List.append_cons]
      rw [Check.settle] at success
      split at success
      next free =>
        refine ih (settled.hold fun other member => ?_) success
        simpa using List.find?_eq_none.mp free other member
      next first found =>
        split at success
        next index =>
          have literal : first.literal = claim.literal := by simpa using List.find?_some found
          exact ih (settled.again (List.mem_of_find?_eq_some found) literal index) success
        next => cases success

/-- Claims that agree are settled, for no claim stands against a holder. By induction on the
claims that are still to be read.
-/
theorem Settled.exists_settle {made held rest : List Claim} (settled : Settled made held)
    (agree : Agree (made ++ rest))
    : ∃ result, Check.settle held rest = .ok result := by
  induction rest generalizing made held with
  | nil => exact ⟨held, rfl⟩
  | cons claim others ih =>
      rw [List.append_cons] at agree
      rw [Check.settle]
      split
      next free =>
        refine ih (settled.hold fun other member => ?_) agree
        simpa using List.find?_eq_none.mp free other member
      next first found =>
        have isHeld := List.mem_of_find?_eq_some found
        have literal : first.literal = claim.literal := by simpa using List.find?_some found
        have index : first.index = claim.index :=
          agree first (by simp [settled.claimed first isHeld]) claim (by simp) literal
        rw [if_pos index]
        exact ih (settled.again isHeld literal index) agree

/-- The claims of variants are settled exactly where no literal is shared. -/
theorem exists_settle_claims_iff (variants : List VariantDeclaration)
    : (∃ result, settle [] (claims 0 variants) = .ok result)
      ↔ HasUnsharedLiterals variants := by
  rw [← agree_claims_iff]
  constructor
  · rintro ⟨result, success⟩
    exact (Settled.nil.settle success).agree
  · exact Settled.nil.exists_settle

end LiteralEnum.Model.Check
