import LiteralEnum.Console.Markup
import Mathlib.Data.List.TakeDrop
import Mathlib.Data.List.TakeWhile

/-! Texts that stand for themselves among tags. A text is shown as it is if it has no tag, no
bracket behind a backslash, no picture and no control. Each of the others takes something away.
-/

namespace LiteralEnum.Console

namespace Markup

-----------------------------------------------------------------------------------------
-- Tags
-----------------------------------------------------------------------------------------

/-- What stands between the brackets of a tag. -/
def IsTag (tag : List Char) : Prop :=
  ∃ c body, tag = c :: body ∧ startsTag c = true ∧ ∀ d ∈ body, d ≠ ']' ∧ d ≠ '['

/-- A tag stands somewhere in the text, behind backslashes or not. -/
def HasTag (text : List Char) : Prop :=
  ∃ front tag back, IsTag tag ∧ text = front ++ '[' :: (tag ++ ']' :: back)

/-- A bracket stands behind a backslash somewhere in the text. -/
def HasEscape (text : List Char) : Prop :=
  ∃ front back, text = front ++ '\\' :: '[' :: back

theorem takeTag?_append {tag : List Char} (isTag : IsTag tag) (after : List Char)
    : takeTag? (tag ++ ']' :: after) = some (tag, after) := by
  obtain ⟨c, body, rfl, starts, unbracketed⟩ := isTag
  have inside : ∀ d ∈ body, (decide (d ≠ ']') && decide (d ≠ '[')) = true := by
    simpa using unbracketed
  rw [List.cons_append, takeTag?, if_pos starts, List.span_eq_takeWhile_dropWhile,
    List.takeWhile_append_of_pos inside, List.dropWhile_append_of_pos inside]
  simp

theorem of_takeTag? {text tag after : List Char} (taken : takeTag? text = some (tag, after))
    : IsTag tag ∧ text = tag ++ ']' :: after := by
  cases text with
  | nil => cases taken
  | cons c rest =>
      rw [takeTag?, List.span_eq_takeWhile_dropWhile] at taken
      split at taken
      next starts =>
        split at taken
        next body back split =>
          obtain ⟨rfl, behind⟩ := Prod.mk.inj split
          obtain ⟨rfl, rfl⟩ := Prod.mk.inj (Option.some.inj taken)
          refine ⟨⟨c, _, rfl, starts, fun d member => ?_⟩, ?_⟩
          · simpa using List.mem_takeWhile_imp member
          · rw [List.cons_append, ← behind, List.takeWhile_append_dropWhile]
        next => cases taken
      next => cases taken

/-- A tag at the start of a text, behind backslashes. -/
theorem takeEscapedTag?_append {tag : List Char} (isTag : IsTag tag) (after : List Char)
    : takeEscapedTag? ('[' :: (tag ++ ']' :: after)) = some (0, tag, after) := by
  rw [takeEscapedTag?, List.span_eq_takeWhile_dropWhile]
  simp [takeTag?_append isTag]

theorem of_takeEscapedTag? {text tag after : List Char} {slashes : Nat}
    (taken : takeEscapedTag? text = some (slashes, tag, after))
    : IsTag tag ∧ text = List.replicate slashes '\\' ++ '[' :: (tag ++ ']' :: after) := by
  rw [takeEscapedTag?, List.span_eq_takeWhile_dropWhile] at taken
  split at taken
  next before body split =>
    obtain ⟨rfl, behind⟩ := Prod.mk.inj split
    obtain ⟨⟨found, rest⟩, tagged, same⟩ := Option.map_eq_some_iff.mp taken
    obtain ⟨rfl, rfl, rfl⟩ : _ = slashes ∧ found = tag ∧ rest = after := by simpa using same
    obtain ⟨isTag, rfl⟩ := of_takeTag? tagged
    refine ⟨isTag, ?_⟩
    have areSlashes : text.takeWhile (· = '\\')
        = List.replicate (text.takeWhile (· = '\\')).length '\\' :=
      List.eq_replicate_of_mem fun c member => by simpa using List.mem_takeWhile_imp member
    rw [← areSlashes, ← behind, List.takeWhile_append_dropWhile]
  next => cases taken

theorem HasTag.append {text : List Char} (hasTag : HasTag text) (before : List Char)
    : HasTag (before ++ text) := by
  obtain ⟨front, tag, back, isTag, rfl⟩ := hasTag
  exact ⟨before ++ front, tag, back, isTag, by rw [List.append_assoc]⟩

/-- Where no tag is next, a tag stands further on. -/
theorem HasTag.tail {c : Char} {rest : List Char} (hasTag : HasTag (c :: rest))
    (noTag : takeEscapedTag? (c :: rest) = none) : HasTag rest := by
  obtain ⟨front, tag, back, isTag, same⟩ := hasTag
  cases front with
  | nil =>
      rw [List.nil_append] at same
      rw [same, takeEscapedTag?_append isTag] at noTag
      cases noTag
  | cons first front => exact ⟨front, tag, back, isTag, (List.cons.inj same).2⟩

/-- A text without tags is one piece, by induction on the fuel. -/
theorem pieces_of_not_hasTag {fuel : Nat} {text : List Char} (noTag : ¬ HasTag text)
    (plain : List Char)
    : pieces fuel plain text = plainPiece (plain.reverse ++ text) := by
  induction fuel generalizing plain text with
  | zero => rfl
  | succ fuel ih =>
      cases text with
      | nil => simp [pieces]
      | cons c rest =>
          have notNext : takeEscapedTag? (c :: rest) = none := by
            rw [Option.eq_none_iff_forall_ne_some]
            rintro ⟨slashes, tag, after⟩ taken
            obtain ⟨isTag, same⟩ := of_takeEscapedTag? taken
            exact noTag ⟨_, tag, after, isTag, same⟩
          rw [pieces, notNext]
          simpa using ih (fun hasTag => noTag (hasTag.append [c])) (c :: plain)

/-- The text outside the tags. -/
def plainText (found : List Piece) : List Char :=
  found.flatMap fun
    | .plain text => text
    | .tag _ => []

@[simp]
theorem plainText_plainPiece (text : List Char) : plainText (plainPiece text) = text := by
  rw [plainPiece]
  split
  next isEmpty => rw [List.isEmpty_iff.mp isEmpty, plainText, List.flatMap_nil]
  next => simp [plainText]

@[simp]
theorem plainText_append (found others : List Piece)
    : plainText (found ++ others) = plainText found ++ plainText others := by
  simp [plainText]

/-- Either a backslash goes away or the tag does. -/
theorem plainText_tagPieces (slashes : Nat) (tag : List Char)
    : (plainText (tagPieces slashes tag)).Sublist
          (List.replicate slashes '\\' ++ '[' :: (tag ++ [']']))
      ∧ (plainText (tagPieces slashes tag)).length < slashes + tag.length + 2 := by
  have halved : (List.replicate (slashes / 2) '\\').Sublist (List.replicate slashes '\\') :=
    List.replicate_sublist_replicate '\\' |>.mpr (Nat.div_le_self slashes 2)
  rw [tagPieces]
  split
  next odd =>
    have kept : plainText [.plain ('[' :: tag ++ [']'])] = '[' :: (tag ++ [']']) := by
      simp [plainText]
    rw [plainText_append, plainText_plainPiece, kept]
    refine ⟨halved.append_right _, ?_⟩
    simp only [List.length_append, List.length_replicate, List.length_cons, List.length_nil]
    omega
  next =>
    have gone : plainText [.tag tag] = [] := rfl
    rw [plainText_append, plainText_plainPiece, gone]
    refine ⟨halved.append (List.nil_sublist _), ?_⟩
    simp only [List.length_append, List.length_replicate, List.length_nil]
    omega

/-- Taking the tags out leaves less of the text. By induction on the fuel. -/
theorem plainText_pieces {fuel : Nat} {text : List Char} (enough : text.length ≤ fuel)
    (plain : List Char)
    : (plainText (pieces fuel plain text)).Sublist (plain.reverse ++ text)
      ∧ (HasTag text
          → (plainText (pieces fuel plain text)).length < plain.length + text.length) := by
  induction fuel generalizing plain text with
  | zero =>
      obtain rfl := List.eq_nil_of_length_eq_zero (Nat.le_zero.mp enough)
      refine ⟨by simp [pieces], ?_⟩
      rintro ⟨front, tag, back, -, same⟩
      simp at same
  | succ fuel ih =>
      cases text with
      | nil =>
          refine ⟨by simp [pieces], ?_⟩
          rintro ⟨front, tag, back, -, same⟩
          simp at same
      | cons c rest =>
          rw [pieces]
          split
          next slashes tag after taken =>
            obtain ⟨-, same⟩ := of_takeEscapedTag? taken
            obtain ⟨kept, shorter⟩ := plainText_tagPieces slashes tag
            have lengths := congrArg List.length same
            simp only [List.length_append, List.length_replicate, List.length_cons]
              at lengths enough
            have enoughAfter : after.length ≤ fuel := by omega
            have later := (ih enoughAfter []).1
            rw [plainText_append, plainText_append, plainText_plainPiece]
            rw [List.reverse_nil, List.nil_append] at later
            refine ⟨?_, fun _ => ?_⟩
            · have whole := ((List.Sublist.refl plain.reverse).append kept).append later
              rw [same]
              simpa using whole
            · have := later.length_le
              simp only [List.length_append, List.length_reverse, List.length_cons]
              omega
          next noTag =>
            have enoughRest : rest.length ≤ fuel := Nat.le_of_succ_le_succ enough
            obtain ⟨kept, shorter⟩ := ih enoughRest (c :: plain)
            refine ⟨by simpa using kept, fun hasTag => ?_⟩
            have := shorter (hasTag.tail noTag)
            simp only [List.length_cons] at this ⊢
            omega

-----------------------------------------------------------------------------------------
-- Escapes
-----------------------------------------------------------------------------------------

theorem HasEscape.append {text : List Char} (hasEscape : HasEscape text) (before : List Char)
    : HasEscape (before ++ text) := by
  obtain ⟨front, back, rfl⟩ := hasEscape
  exact ⟨before ++ front, back, by rw [List.append_assoc]⟩

/-- What is not escaped stays as it is, by induction on the text. -/
theorem unescape_eq_self {text : List Char} (noEscape : ¬ HasEscape text)
    : unescape text = text := by
  fun_induction unescape text with
  | case1 rest ih => exact absurd ⟨[], rest, rfl⟩ noEscape
  | case2 c rest _ ih => rw [ih fun hasEscape => noEscape (hasEscape.append [c])]
  | case3 => rfl

theorem unescape_sublist (text : List Char) : (unescape text).Sublist text := by
  fun_induction unescape text with
  | case1 rest ih => exact (ih.cons_cons '[').cons '\\'
  | case2 c rest _ ih => exact ih.cons_cons c
  | case3 => exact List.Sublist.refl []

theorem not_hasEscape_of_unescape {text : List Char} (kept : unescape text = text)
    : ¬ HasEscape text := by
  fun_induction unescape text with
  | case1 rest ih =>
      have shorter := (unescape_sublist rest).length_le
      have lengths := congrArg List.length kept
      simp only [List.length_cons] at lengths
      omega
  | case2 c rest notEscaped ih =>
      rintro ⟨front, back, same⟩
      cases front with
      | nil =>
          obtain ⟨rfl, rfl⟩ := List.cons.inj same
          exact notEscaped back rfl rfl
      | cons first front =>
          exact ih (List.cons.inj kept).2 ⟨front, back, (List.cons.inj same).2⟩
  | case3 =>
      rintro ⟨front, back, same⟩
      simp at same

end Markup

-----------------------------------------------------------------------------------------
-- Pictures
-----------------------------------------------------------------------------------------

/-- A name that has a picture stands between colons somewhere in the text. -/
def HasPicture (text : List Char) : Prop :=
  ∃ front code back,
    (∀ c ∈ code, c ≠ ':' ∧ Text.isBlank c = false)
      ∧ (Emoji.picture? (Emoji.splitForm code).1).isSome
      ∧ text = front ++ ':' :: (code ++ ':' :: back)

theorem HasPicture.append {text : List Char} (hasPicture : HasPicture text) (before : List Char)
    : HasPicture (before ++ text) := by
  obtain ⟨front, code, back, isCode, pictured, rfl⟩ := hasPicture
  exact ⟨before ++ front, code, back, isCode, pictured, by simp⟩

theorem of_takeCode? {text code after : List Char}
    (taken : Emoji.takeCode? text = some (code, after))
    : (∀ c ∈ code, c ≠ ':' ∧ Text.isBlank c = false) ∧ text = code ++ ':' :: after := by
  rw [Emoji.takeCode?, List.span_eq_takeWhile_dropWhile] at taken
  split at taken
  next name rest split =>
    obtain ⟨rfl, behind⟩ := Prod.mk.inj split
    obtain ⟨rfl, rfl⟩ := Prod.mk.inj (Option.some.inj taken)
    refine ⟨fun c member => by simpa using List.mem_takeWhile_imp member, ?_⟩
    rw [← behind, List.takeWhile_append_dropWhile]
  next => cases taken

/-- Without pictures nothing is replaced, by induction on the fuel. -/
theorem replaceCodes_eq_self {fuel : Nat} {text : List Char} (noPicture : ¬ HasPicture text)
    : Emoji.replaceCodes fuel text = text := by
  induction fuel generalizing text with
  | zero => rfl
  | succ fuel ih =>
      cases text with
      | nil => rfl
      | cons c rest =>
          have noneLater : ¬ HasPicture rest :=
            fun hasPicture => noPicture (hasPicture.append [c])
          rw [Emoji.replaceCodes]
          split
          next isColon =>
            split
            next code after taken =>
              obtain ⟨isCode, same⟩ := of_takeCode? taken
              have noneAfter : ¬ HasPicture after := by
                intro hasPicture
                refine noneLater ?_
                rw [same]
                simpa using hasPicture.append (code ++ [':'])
              have unknown : Emoji.picture? (Emoji.splitForm code).1 = none := by
                rw [← Option.not_isSome_iff_eq_none]
                intro pictured
                exact noPicture ⟨[], code, after, isCode, pictured, by rw [isColon, same]; rfl⟩
              rw [ih noneAfter, Emoji.display]
              simp [unknown, isColon, same]
            next => rw [ih noneLater]
          next => rw [ih noneLater]

theorem showPictures_eq_self {text : List Char} (noPicture : ¬ HasPicture text)
    : showPictures text = text :=
  replaceCodes_eq_self noPicture

/-- A picture needs two colons. -/
theorem not_hasPicture_of_count {text : List Char} (single : text.count ':' ≤ 1)
    : ¬ HasPicture text := by
  rintro ⟨front, code, back, -, -, rfl⟩
  simp only [List.count_append, List.count_cons_self] at single
  omega

-----------------------------------------------------------------------------------------
-- Ordinary texts
-----------------------------------------------------------------------------------------

/-- Nothing in the text stands for anything else. -/
structure IsOrdinary (text : List Char) : Prop where
  noTag : ¬ Markup.HasTag text
  noEscape : ¬ Markup.HasEscape text
  noPicture : ¬ HasPicture text
  visible : ∀ c ∈ text, isHidden c = false

theorem sanitize_eq_self_iff {text : List Char}
    : sanitize text = text ↔ ∀ c ∈ text, isHidden c = false := by
  simp [sanitize]

/-- Without a bracket there is no tag and no bracket behind a backslash. -/
theorem not_hasTag_of_not_mem {text : List Char} (noBracket : '[' ∉ text)
    : ¬ Markup.HasTag text ∧ ¬ Markup.HasEscape text := by
  constructor
  · rintro ⟨front, tag, back, -, rfl⟩
    simp at noBracket
  · rintro ⟨front, back, rfl⟩
    simp at noBracket

/-- Only tags can fail. -/
theorem showMarkup_of_not_hasTag {text : List Char} (noTag : ¬ Markup.HasTag text)
    : showMarkup text = .ok (sanitize (showPictures (Markup.unescape text))) := by
  rw [showMarkup]
  split
  next bracket =>
    have notEmpty : text.isEmpty = false := by
      cases text with
      | nil => cases bracket
      | cons => rfl
    rw [Markup.pieces_of_not_hasTag noTag, List.reverse_nil, List.nil_append, Markup.plainPiece,
      notEmpty]
    simp [Markup.showPieces, Except.map]
  next noBracket =>
    rw [Markup.unescape_eq_self (not_hasTag_of_not_mem (by simpa using noBracket)).2]

/-- An ordinary text is shown as it is. -/
theorem IsOrdinary.showMarkup {text : List Char} (ordinary : IsOrdinary text)
    : showMarkup text = .ok text := by
  rw [showMarkup_of_not_hasTag ordinary.noTag, Markup.unescape_eq_self ordinary.noEscape,
    showPictures_eq_self ordinary.noPicture, sanitize_eq_self_iff.mpr ordinary.visible]

/-- What is shown of a piece without pictures is what is left of it. -/
theorem shown_sublist {text : List Char} (single : text.count ':' ≤ 1)
    : (sanitize (showPictures (Markup.unescape text))).Sublist text := by
  have unescaped := Markup.unescape_sublist text
  rw [showPictures_eq_self
    (not_hasPicture_of_count ((unescaped.count_le ':').trans single))]
  exact List.filter_sublist.trans unescaped

/-- What is shown of pieces without pictures is what is left of the text outside the tags. By
induction on the pieces.
-/
theorem showPieces_sublist {found : List Markup.Piece} {opened : List String} {shown : List Char}
    (single : (Markup.plainText found).count ':' ≤ 1)
    (done : Markup.showPieces opened found = .ok shown)
    : shown.Sublist (Markup.plainText found) := by
  induction found generalizing opened shown with
  | nil =>
      obtain rfl := Except.ok.inj done
      exact List.Sublist.refl []
  | cons piece rest ih =>
      cases piece with
      | plain text =>
          have whole : Markup.plainText (.plain text :: rest) = text ++ Markup.plainText rest := rfl
          rw [whole, List.count_append] at single
          rw [Markup.showPieces] at done
          cases shows : Markup.showPieces opened rest with
          | error error =>
              rw [shows] at done
              cases done
          | ok others =>
              rw [shows] at done
              obtain rfl := Except.ok.inj done
              exact (shown_sublist (by omega)).append (ih (by omega) shows)
      | tag tag =>
          rw [Markup.showPieces] at done
          cases applied : Markup.applyTag opened tag with
          | error error =>
              rw [applied] at done
              cases done
          | ok inner =>
              rw [applied] at done
              exact ih single done

/-- Where at most one colon stands, what is shown is what is left of the text. A tag is not. -/
theorem showMarkup_sublist {text shown : List Char} (single : text.count ':' ≤ 1)
    (done : showMarkup text = .ok shown)
    : shown.Sublist text ∧ (Markup.HasTag text → shown.length < text.length) := by
  rw [showMarkup] at done
  split at done
  next =>
    obtain ⟨kept, shorter⟩ := Markup.plainText_pieces (le_refl text.length) []
    rw [List.reverse_nil, List.nil_append] at kept
    have left := showPieces_sublist ((kept.count_le ':').trans single) done
    refine ⟨left.trans kept, fun hasTag => ?_⟩
    have := left.length_le
    have := shorter hasTag
    simp only [List.length_nil] at this
    omega
  next noBracket =>
    obtain rfl := Except.ok.inj done
    obtain ⟨noTag, noEscape⟩ := not_hasTag_of_not_mem (by simpa using noBracket)
    refine ⟨?_, fun hasTag => absurd hasTag noTag⟩
    simpa [Markup.unescape_eq_self noEscape] using shown_sublist single

/-- Where at most one colon stands, only an ordinary text is shown as it is. -/
theorem showMarkup_eq_self_iff {text : List Char} (single : text.count ':' ≤ 1)
    : showMarkup text = .ok text ↔ IsOrdinary text := by
  refine ⟨fun shown => ?_, IsOrdinary.showMarkup⟩
  have noTag : ¬ Markup.HasTag text :=
    fun hasTag => Nat.lt_irrefl _ ((showMarkup_sublist single shown).2 hasTag)
  have unescaped := Markup.unescape_sublist text
  rw [showMarkup_of_not_hasTag noTag, showPictures_eq_self
    (not_hasPicture_of_count ((unescaped.count_le ':').trans single))] at shown
  have kept : sanitize (Markup.unescape text) = text := Except.ok.inj shown
  have whole : Markup.unescape text = text := by
    refine unescaped.eq_of_length_le ?_
    rw [← congrArg List.length kept]
    exact List.filter_sublist.length_le
  rw [whole] at kept
  exact ⟨noTag, Markup.not_hasEscape_of_unescape whole, not_hasPicture_of_count single,
    sanitize_eq_self_iff.mp kept⟩

-----------------------------------------------------------------------------------------
-- Headers
-----------------------------------------------------------------------------------------

/-- Nothing in the text begins what stands for something else. -/
def IsBare (text : List Char) : Prop :=
  ∀ c ∈ text, c ∉ ['[', '\\', ':'] ∧ isHidden c = false

theorem IsBare.not_mem {text : List Char} (isBare : IsBare text) {c : Char}
    (begins : c ∈ ['[', '\\', ':'])
    : c ∉ text :=
  fun member => (isBare c member).1 begins

/-- What begins with a character that does not stand before begins behind. -/
theorem exists_behind {before text front rest : List Char} {c : Char} (absent : c ∉ before)
    (same : before ++ text = front ++ c :: rest)
    : ∃ between, text = between ++ c :: rest := by
  rcases List.append_eq_append_iff.mp same with ⟨between, -, behind⟩ | ⟨between, inside, behind⟩
  · exact ⟨between, behind⟩
  · cases between with
    | nil => exact ⟨[], behind.symm⟩
    | cons first others =>
        obtain ⟨rfl, -⟩ := List.cons.inj behind
        simp [inside] at absent

section

variable {name text : List Char} (isBare : IsBare name)
include isBare

/-- No bracket and no backslash stands before the text behind a bare name and a colon. -/
theorem IsBare.not_mem_header {c : Char} (begins : c ∈ ['[', '\\']) : c ∉ name ++ [':', ' '] := by
  have notName : c ∉ name := isBare.not_mem (List.mem_append_left [':'] begins)
  rw [List.mem_cons, List.mem_singleton] at begins
  rcases begins with rfl | rfl <;> simpa using notName

theorem IsBare.hasTag_of_header (hasTag : Markup.HasTag (name ++ ':' :: ' ' :: text))
    : Markup.HasTag text := by
  obtain ⟨front, tag, back, isTag, same⟩ := hasTag
  rw [List.append_cons, List.append_cons, List.append_assoc name] at same
  obtain ⟨between, rfl⟩ := exists_behind (isBare.not_mem_header (by simp)) same
  exact ⟨between, tag, back, isTag, rfl⟩

theorem IsBare.hasEscape_of_header (hasEscape : Markup.HasEscape (name ++ ':' :: ' ' :: text))
    : Markup.HasEscape text := by
  obtain ⟨front, back, same⟩ := hasEscape
  rw [List.append_cons, List.append_cons, List.append_assoc name] at same
  obtain ⟨between, rfl⟩ := exists_behind (isBare.not_mem_header (by simp)) same
  exact ⟨between, back, rfl⟩

/-- The first colon is behind the name, and the blank there ends a code at once. -/
theorem IsBare.hasPicture_of_header (hasPicture : HasPicture (name ++ ':' :: ' ' :: text))
    : HasPicture text := by
  obtain ⟨front, code, back, isCode, pictured, same⟩ := hasPicture
  obtain ⟨between, behind⟩ := exists_behind (isBare.not_mem (by simp)) same
  cases between with
  | nil =>
      have blank : ' ' :: text = code ++ ':' :: back := (List.cons.inj behind).2
      cases code with
      | nil => simp at blank
      | cons first others =>
          obtain ⟨rfl, -⟩ := List.cons.inj blank
          exact absurd (isCode ' ' List.mem_cons_self).2 (by decide)
  | cons first others =>
      have later : [' '] ++ text = others ++ ':' :: (code ++ ':' :: back) :=
        (List.cons.inj behind).2
      obtain ⟨between, rfl⟩ := exists_behind (by simp) later
      exact ⟨between, code, back, isCode, pictured, rfl⟩

/-- The text behind a bare name and a colon is as ordinary as it is alone. -/
theorem isOrdinary_header_iff : IsOrdinary (name ++ ':' :: ' ' :: text) ↔ IsOrdinary text := by
  constructor
  · rintro ⟨noTag, noEscape, noPicture, visible⟩
    rw [List.append_cons, List.append_cons] at noTag noEscape noPicture visible
    exact ⟨fun hasTag => noTag (hasTag.append _), fun hasEscape => noEscape (hasEscape.append _),
      fun hasPicture => noPicture (hasPicture.append _),
      fun c member => visible c (List.mem_append_right _ member)⟩
  · rintro ⟨noTag, noEscape, noPicture, visible⟩
    refine ⟨fun hasTag => noTag (isBare.hasTag_of_header hasTag),
      fun hasEscape => noEscape (isBare.hasEscape_of_header hasEscape),
      fun hasPicture => noPicture (isBare.hasPicture_of_header hasPicture), ?_⟩
    intro c member
    simp only [List.mem_append, List.mem_cons] at member
    rcases member with inName | rfl | rfl | inText
    · exact (isBare c inName).2
    · rfl
    · rfl
    · exact visible c inText

end

end LiteralEnum.Console
