import LiteralEnum.Proofs.Declaration.Derivation
import LiteralEnum.Proofs.Declaration.Printing
import LiteralEnum.Proofs.Text.Blank
import LiteralEnum.Proofs.Token.LexicalExactness

/-! What the lexer makes of a sheet. Every spelling of a mark is one piece, every filling
is gaps and line breaks, and together they decompose the sheet; so the significant tokens
are those of the marks, in order, and each stands where its mark is written.
-/

namespace LiteralEnum.Printing

open LiteralEnum.Lexer

-----------------------------------------------------------------------------------------
-- The token of a mark
-----------------------------------------------------------------------------------------

def Mark.kind : Mark → Token.Kind
  | .importWord => .importWord
  | .literal _ => .string
  | .docLine _ => .docComment
  | .name _ => .identifier
  | .field _ _ | .data _ => .block
  | .equals => .equals

def Mark.value : Mark → String
  | .importWord => "import"
  | .literal value => value
  | .docLine line => String.ofList line
  | .name word => word
  | .field word typeText => word ++ ": " ++ typeText
  | .equals => "="
  | .data expression => expression

/-- The token of a mark that is written at a place. -/
def Mark.token (mark : Mark) (position : Position) : Token :=
  ⟨mark.kind, mark.value, position⟩

/-- The mark can be read back where it is written. -/
def Mark.IsReadable : Mark → Prop
  | .docLine line => '\n' ∉ line ∧ line.getLast? ≠ some '\r'
  | .name word => IsIdentifier word
  | .field word typeText => Text.isName word.toList = true ∧ IsBlockText typeText
  | .data expression => IsBlockText expression
  | _ => True

/-- The text behind a mark does not change how the mark is read. -/
def Mark.MayPrecede (after : List Char) (mark : Mark) : Prop :=
  (∀ c ∈ after.head?, isWordPart c = false)
  ∧ ∀ line, mark = .docLine line → ∀ c ∈ after.head?, c = '\n'

/-- A doc comment gives its line back: one space is written and one is taken away, and no
carriage return stands at the end.
-/
theorem docValue_spaced {line : List Char} (clean : line.getLast? ≠ some '\r')
    : docValue (' ' :: line) = line := by
  have kept : (' ' :: line).rdropWhile (· = '\r') = ' ' :: line := by
    refine List.rdropWhile_eq_self_iff.mpr fun _ => ?_
    cases line with
    | nil => simp
    | cons c rest =>
        rw [List.getLast?_eq_some_getLast (List.cons_ne_nil c rest)] at clean
        simpa using clean
  simp [docValue, kept]

-----------------------------------------------------------------------------------------
-- Blocks
-----------------------------------------------------------------------------------------

/-- A name neither nests nor quotes, for none of its characters can. -/
theorem free_of_isName {name : List Char} (isName : Text.isName name = true)
    : ∀ c ∈ name, c ≠ '\x7b' ∧ c ≠ '\x7d' ∧ c ≠ '\'' ∧ c ≠ '"' := by
  intro c member
  have continues := Text.isNameContinue_of_mem isName member
  have stops : ['\x7b', '\x7d', '\'', '"'].any Text.isNameContinue = false := by decide
  refine ⟨?_, ?_, ?_, ?_⟩ <;>
    rintro rfl <;>
    exact List.any_eq_false.mp stops _ (by simp) continues

/-- A field comes back out of a block as a whole when its type does. -/
theorem IsBlockText.field {word typeText : String} (isName : Text.isName word.toList = true)
    (type : IsBlockText typeText)
    : IsBlockText (word ++ ": " ++ typeText) := by
  have chars : (word ++ ": " ++ typeText).toList
      = word.toList ++ ':' :: ' ' :: typeText.toList := by simp
  have typeNotNil : typeText.toList ≠ [] := by simpa using type.ne_empty
  refine ⟨?_, ?_, ?_⟩
  · intro empty
    simp [empty] at chars
  · have wordEnds := Text.strip_eq_self_iff.mp (Text.strip_of_isName isName)
    have typeEnds := Text.strip_eq_self_iff.mp type.stripped
    rw [chars]
    refine Text.strip_eq_self_iff.mpr ⟨fun c first => ?_, fun c last => ?_⟩
    · cases letters : word.toList with
      | nil => simp [letters, Text.isName] at isName
      | cons letter rest => exact wordEnds.1 c (by simpa [letters] using first)
    · refine typeEnds.2 c ?_
      rw [List.append_cons, List.append_cons, List.getLast?_append_of_ne_nil _ typeNotNil] at last
      exact last
  · obtain ⟨inner, text⟩ := type.balanced
    have free : ∀ c ∈ word.toList ++ [':', ' '],
        c ≠ '\x7b' ∧ c ≠ '\x7d' ∧ c ≠ '\'' ∧ c ≠ '"' := by
      intro c member
      rcases List.mem_append.mp member with inWord | separator
      · exact free_of_isName isName c inWord
      · have either : c = ':' ∨ c = ' ' := by simpa using separator
        rcases either with rfl | rfl <;> decide
    obtain ⟨body, whole⟩ := Body.exists_plain free inner
    exact ⟨body, by simp [whole, text]⟩

/-- A block text with a space at each end is the text of a block, which gives it back. -/
theorem IsBlockText.exists_body {text : String} (isText : IsBlockText text)
    : ∃ body : Body,
        body.text = ' ' :: (text.toList ++ [' '])
        ∧ String.ofList (Text.strip body.text) = text := by
  obtain ⟨inner, same⟩ := isText.balanced
  obtain ⟨body, spaced⟩ := inner.exists_spaced
  have blank : Text.isBlank ' ' = true := by decide
  refine ⟨body, by rw [spaced, same], ?_⟩
  rw [spaced, same, Text.strip_cons blank, Text.strip_concat blank, isText.stripped,
    String.ofList_toList]

-----------------------------------------------------------------------------------------
-- Marks
-----------------------------------------------------------------------------------------

/-- The piece is a mark as it is written. -/
structure Mark.IsPiece (mark : Mark) (written : List Char) (piece : Piece) : Prop where
  text_eq : piece.text = written
  token_eq : ∀ position, piece.token? position = some (mark.token position)
  endsBefore : ∀ after, mark.MayPrecede after → piece.EndsBefore after

/-- A mark in braces is a block. -/
theorem Mark.exists_block {mark : Mark} {written : List Char} (kind : mark.kind = .block)
    (isText : IsBlockText mark.value)
    (spelling : written = '\x7b' :: ' ' :: (mark.value.toList ++ [' ', '\x7d']))
    : ∃ piece, mark.IsPiece written piece := by
  obtain ⟨body, spaced, stripped⟩ := isText.exists_body
  refine ⟨.block body, by simp [Piece.text, spaced, spelling], fun position => ?_,
    fun _ _ => trivial⟩
  rw [Piece.token?, stripped, Mark.token, kind]

/-- Every spelling of a readable mark is one piece, and its token is that of the mark. -/
theorem Mark.exists_piece {mark : Mark} {written : List Char} (writes : mark.Writes written)
    (readable : mark.IsReadable)
    : ∃ piece, mark.IsPiece written piece := by
  cases mark with
  | importWord =>
      have continues : "mport".toList.all isWordPart = true := by decide
      exact ⟨.word 'i' "mport".toList (by decide) (List.all_eq_true.mp continues), writes.symm,
        fun position => rfl, fun after follows => follows.1⟩
  | literal value =>
      obtain ⟨items, decoded, rfl⟩ := writes
      refine ⟨.string items, rfl, fun position => ?_, fun _ _ => trivial⟩
      rw [Piece.token?, decoded, String.ofList_toList]
      rfl
  | docLine line =>
      have oneLine : '\n' ∉ ' ' :: line := by simpa using readable.1
      refine ⟨.doc (' ' :: line) oneLine, writes.symm, fun position => ?_,
        fun after follows => follows.2 line rfl⟩
      rw [Piece.token?, docValue_spaced readable.2]
      rfl
  | name word =>
      obtain ⟨⟨first, rest, letters, starts, continues⟩, notKeyword⟩ := readable
      refine ⟨.word first rest starts continues, (writes.trans letters).symm,
        fun position => ?_, fun after follows => follows.1⟩
      have notImport : first :: rest ≠ "import".toList := by
        rw [← letters]
        exact fun same => notKeyword (String.toList_inj.mp same)
      rw [Piece.token?, if_neg notImport, ← letters, String.ofList_toList]
      rfl
  | field word typeText =>
      exact Mark.exists_block rfl (readable.2.field readable.1)
        (by simpa [Mark.Writes, Mark.value] using writes)
  | equals => exact ⟨.equals, writes.symm, fun position => rfl, fun _ _ => trivial⟩
  | data expression => exact Mark.exists_block rfl readable writes

-----------------------------------------------------------------------------------------
-- Fillings
-----------------------------------------------------------------------------------------

def Filler.pieces : Filler → List Piece
  | .blank c isGap => [.blank c isGap]
  | .lineBreak => [.lineBreak]
  | .comment text isPlain oneLine => [.comment text isPlain oneLine, .lineBreak]

theorem Filler.textOf_pieces (filler : Filler) : textOf filler.pieces = filler.text := by
  cases filler <;> simp [Filler.pieces, Filler.text, Piece.text]

/-- A filler ends before any text: the line break of a comment is a part of it. -/
theorem Filler.joined_pieces (filler : Filler) (after : List Char)
    : Joined after filler.pieces := by
  cases filler with
  | blank c isGap => exact ⟨trivial, trivial⟩
  | lineBreak => exact ⟨trivial, trivial⟩
  | comment text isPlain oneLine =>
      have breaks : ∀ c ∈ (textOf [.lineBreak] ++ after).head?, c = '\n' := by
        simp [Piece.text]
      exact ⟨breaks, trivial, trivial⟩

/-- All that a reader could see of a filler is a line break. -/
theorem Filler.kind_of_mem_tokens {filler : Filler} {position : Position} {token : Token}
    (member : token ∈ tokensFrom position filler.pieces)
    : token.kind = .newline := by
  cases filler <;> simp_all [Filler.pieces, tokensFrom, Piece.token?]

/-- What the pieces of a filling are: the text of the filling, ending before any text, and
line breaks only. By induction on the filling.
-/
theorem pieces_of_filling (filling : List Filler) (after : List Char)
    : textOf (filling.flatMap Filler.pieces) = filling.flatMap Filler.text
      ∧ Joined after (filling.flatMap Filler.pieces)
      ∧ ∀ position, ∀ token ∈ tokensFrom position (filling.flatMap Filler.pieces),
          token.kind = .newline := by
  induction filling with
  | nil => exact ⟨rfl, trivial, fun _ token member => by cases member⟩
  | cons filler rest ih =>
      obtain ⟨text, joined, breaks⟩ := ih
      refine ⟨?_, (filler.joined_pieces _).append joined, fun position token member => ?_⟩
      · rw [List.flatMap_cons, textOf_append, filler.textOf_pieces, text, List.flatMap_cons]
      · rw [List.flatMap_cons, tokensFrom_append] at member
        rcases List.mem_append.mp member with here | later
        · exact Filler.kind_of_mem_tokens here
        · exact breaks _ token later

/-- A filler starts with a character that goes on no word. -/
theorem Filler.isWordPart_of_head (filler : Filler)
    : ∀ c ∈ filler.text.head?, isWordPart c = false := by
  have stops : [' ', '\t', '\r', '\n', '#'].any isWordPart = false := by decide
  intro c first
  refine Bool.eq_false_iff.mpr (List.any_eq_false.mp stops c ?_)
  cases filler with
  | blank other isGap =>
      obtain rfl : other = c := by simpa [Filler.text] using first
      rcases isGap with rfl | rfl | rfl <;> simp
  | lineBreak =>
      obtain rfl : '\n' = c := by simpa [Filler.text] using first
      simp
  | comment text isPlain oneLine =>
      obtain rfl : '#' = c := by simpa [Filler.text] using first
      simp

-----------------------------------------------------------------------------------------
-- Entries
-----------------------------------------------------------------------------------------

/-- The marks of entries with the places where they are written. -/
def placedFrom (position : Position) : List Entry → List (Mark × Position)
  | [] => []
  | entry :: rest =>
      (entry.mark, position) :: placedFrom (position.advanceOver entry.text) rest

/-- The tokens of placed marks. -/
def tokensOf (placed : List (Mark × Position)) : List Token :=
  placed.map fun (mark, position) => mark.token position

@[simp]
theorem tokensOf_nil : tokensOf [] = [] := rfl

@[simp]
theorem tokensOf_cons (mark : Mark) (position : Position) (rest : List (Mark × Position))
    : tokensOf ((mark, position) :: rest) = mark.token position :: tokensOf rest := rfl

@[simp]
theorem tokensOf_append (left right : List (Mark × Position))
    : tokensOf (left ++ right) = tokensOf left ++ tokensOf right :=
  List.map_append

theorem placedFrom_marks (position : Position) (entries : List Entry)
    : (placedFrom position entries).map Prod.fst = entries.map Entry.mark := by
  induction entries generalizing position with
  | nil => rfl
  | cons entry rest ih => rw [placedFrom, List.map_cons, List.map_cons, ih]

/-- The filling behind an entry lets the mark end, and so does the end of the sheet. -/
theorem Entry.mayPrecede (entry : Entry) {others : List Char}
    (separated : entry.filling = [] → others = [])
    : entry.mark.MayPrecede (entry.filling.flatMap Filler.text ++ others) := by
  cases filling : entry.filling with
  | nil =>
      simp [separated filling, Mark.MayPrecede]
  | cons filler rest =>
      obtain ⟨c, tail, text⟩ : ∃ c tail, filler.text = c :: tail := by
        cases filler <;> exact ⟨_, _, rfl⟩
      refine ⟨fun other first => filler.isWordPart_of_head other ?_,
        fun line isDoc other first => ?_⟩
      · simpa [text] using first
      · have breaks := entry.endsDoc line isDoc
        obtain rfl : filler = .lineBreak := by simpa [filling] using breaks
        exact (by simpa [Filler.text] using first : '\n' = other).symm

/-- An entry has pieces, each ending where it may; all that a reader sees of them is the
token of the mark.
-/
theorem Entry.exists_pieces (entry : Entry) (readable : entry.mark.IsReadable)
    {others : List Char} (separated : entry.filling = [] → others = [])
    : ∃ pieces,
        textOf pieces = entry.text
        ∧ Joined others pieces
        ∧ ∀ position,
            (tokensFrom position pieces).filter (·.kind ≠ .newline)
              = [entry.mark.token position] := by
  obtain ⟨piece, isPiece⟩ := Mark.exists_piece entry.writes readable
  obtain ⟨fillingText, fillingJoined, breaks⟩ := pieces_of_filling entry.filling others
  refine ⟨piece :: entry.filling.flatMap Filler.pieces, ?_, ⟨?_, fillingJoined⟩,
    fun position => ?_⟩
  · rw [textOf_cons, isPiece.text_eq, fillingText, Entry.text]
  · rw [fillingText]
    exact isPiece.endsBefore _ (entry.mayPrecede separated)
  · have visible : entry.mark.kind ≠ .newline := by cases entry.mark <;> simp [Mark.kind]
    have unseen : (tokensFrom (position.advanceOver piece.text)
        (entry.filling.flatMap Filler.pieces)).filter (·.kind ≠ .newline) = [] := by
      simpa using breaks _
    rw [tokensFrom, isPiece.token_eq, Option.toList_some, List.filter_append, unseen]
    simp [Mark.token, visible]

/-- Entries have pieces, which are the text of the entries; what a reader sees of them is the
tokens of the marks. By induction on the entries.
-/
theorem exists_pieces {entries : List Entry}
    (readable : ∀ entry ∈ entries, entry.mark.IsReadable)
    (separated : ∀ entry ∈ entries.dropLast, entry.filling ≠ [])
    : ∃ pieces,
        textOf pieces = entries.flatMap Entry.text
        ∧ Joined [] pieces
        ∧ ∀ position,
            (tokensFrom position pieces).filter (·.kind ≠ .newline)
              = tokensOf (placedFrom position entries) := by
  induction entries with
  | nil => exact ⟨[], rfl, trivial, fun _ => rfl⟩
  | cons entry rest ih =>
      have restSeparated : ∀ other ∈ rest.dropLast, other.filling ≠ [] := by
        intro other member
        refine separated other ?_
        cases rest with
        | nil => cases member
        | cons next others => exact List.mem_cons_of_mem entry member
      obtain ⟨pieces, text, joined, tokens⟩ :=
        ih (fun other member => readable other (List.mem_cons_of_mem entry member))
          restSeparated
      have atEnd : entry.filling = [] → textOf pieces = [] := by
        intro unfilled
        cases rest with
        | nil => simpa using text
        | cons next others => exact absurd unfilled (separated entry (by simp))
      obtain ⟨front, frontText, frontJoined, frontTokens⟩ :=
        entry.exists_pieces (readable entry List.mem_cons_self) atEnd
      refine ⟨front ++ pieces, ?_, Joined.append (by simpa using frontJoined) joined,
        fun position => ?_⟩
      · rw [textOf_append, frontText, text, List.flatMap_cons]
      · rw [tokensFrom_append, List.filter_append, frontTokens, frontText, tokens]
        rfl

-----------------------------------------------------------------------------------------
-- Sheets
-----------------------------------------------------------------------------------------

/-- The marks of a sheet with the places where they are written. -/
def Sheet.placed (sheet : Sheet) : List (Mark × Position) :=
  placedFrom (Position.start.advanceOver (sheet.filling.flatMap Filler.text)) sheet.entries

/-- A sheet of readable marks has tokens, and the significant ones are those of its marks:
the pieces of its filling and its entries decompose it.
-/
theorem Sheet.exists_tokens (sheet : Sheet) (readable : ∀ mark ∈ sheet.marks, mark.IsReadable)
    : ∃ tokens,
        Token.ofSource (String.ofList sheet.text) = .ok tokens
        ∧ Token.significant tokens = tokensOf sheet.placed := by
  obtain ⟨pieces, text, joined, tokens⟩ :=
    exists_pieces (fun entry member => readable entry.mark (List.mem_map_of_mem member))
      sheet.separated
  obtain ⟨fillingText, fillingJoined, breaks⟩ := pieces_of_filling sheet.filling (textOf pieces)
  have decomposition : IsDecomposition (sheet.filling.flatMap Filler.pieces ++ pieces)
      (String.ofList sheet.text).toList :=
    { text_eq := by rw [textOf_append, fillingText, text, String.toList_ofList, Sheet.text]
      joined := Joined.append (by simpa using fillingJoined) joined }
  refine ⟨_, decomposition.ofSource_eq, ?_⟩
  have unseen : (tokensFrom .start (sheet.filling.flatMap Filler.pieces)).filter
      (·.kind ≠ .newline) = [] := by
    simpa using breaks _
  have inside : ∀ token ∈ tokensOf sheet.placed, token.kind ≠ .endOfSource := by
    intro token member
    obtain ⟨⟨mark, position⟩, -, rfl⟩ := List.mem_map.mp member
    cases mark <;> simp [Mark.token, Mark.kind]
  rw [Token.significant, decomposedTokens, tokensFrom_append, fillingText, List.filter_append,
    List.filter_append, unseen, tokens, ← Sheet.placed, List.nil_append,
    List.takeWhile_append_of_pos (by simpa using inside)]
  simp

end LiteralEnum.Printing
