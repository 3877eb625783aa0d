import LiteralEnum.Console.Emoji
import LiteralEnum.Console.Style
import LiteralEnum.Console.Wrap

/-! Text with tags in square brackets. A tag sets a style up to its closing tag; here it
only goes away. A backslash in front makes a tag ordinary text.
-/

namespace LiteralEnum.Console

inductive MarkupError where
  /-- A closing tag with the name of no open tag. -/
  | unmatched (name : String)
  /-- A closing tag without a name while no tag is open. -/
  | nothingOpen
deriving Repr, DecidableEq

def MarkupError.message : MarkupError → String
  | .unmatched name => s!"closing tag '[/{name}]' doesn't match any open tag"
  | .nothingOpen => "closing tag '[/]' has nothing to close"

namespace Markup

inductive Piece where
  | plain (text : List Char)
  | tag (text : List Char)
deriving Repr, DecidableEq

/-- The first character of a tag. -/
def startsTag (c : Char) : Bool := ('a' ≤ c && c ≤ 'z') || c = '#' || c = '/' || c = '@'

/-- A tag and the text behind it. The opening bracket has been taken. -/
def takeTag? : List Char → Option (List Char × List Char)
  | [] => none
  | c :: rest =>
      if startsTag c then
        match rest.span (fun c => c ≠ ']' && c ≠ '[') with
        | (body, ']' :: after) => some (c :: body, after)
        | _ => none
      else none

/-- A tag with the backslashes before it, and the text behind it. -/
def takeEscapedTag? (text : List Char) : Option (Nat × List Char × List Char) :=
  match text.span (· = '\\') with
  | (slashes, '[' :: body) => (takeTag? body).map fun (tag, rest) => (slashes.length, tag, rest)
  | _ => none

def plainPiece (text : List Char) : List Piece :=
  if text.isEmpty then [] else [.plain text]

/-- The pieces of a tag with backslashes before it. Two backslashes stand for one, and a
single one is taken from the tag.
-/
def tagPieces (slashes : Nat) (tag : List Char) : List Piece :=
  plainPiece (List.replicate (slashes / 2) '\\')
    ++ if slashes % 2 = 1 then [.plain ('[' :: tag ++ [']'])] else [.tag tag]

/-- The pieces of a text; `plain` is the text since the last tag, backwards. The number of
characters is fuel enough.
-/
def pieces : Nat → List Char → List Char → List Piece
  | 0, plain, text => plainPiece (plain.reverse ++ text)
  | _, plain, [] => plainPiece plain.reverse
  | fuel + 1, plain, c :: rest =>
      match takeEscapedTag? (c :: rest) with
      | some (slashes, tag, after) =>
          plainPiece plain.reverse ++ tagPieces slashes tag ++ pieces fuel [] after
      | none => pieces fuel (c :: plain) rest

/-- Brackets behind a backslash stand for themselves. -/
def unescape : List Char → List Char
  | '\\' :: '[' :: rest => '[' :: unescape rest
  | c :: rest => c :: unescape rest
  | [] => []

def tagName (tag : List Char) : List Char := tag.takeWhile (· ≠ '=')

/-- The open tags after a tag, innermost first. -/
def applyTag (opened : List String) (tag : List Char) : Except MarkupError (List String) :=
  match tagName tag with
  | '/' :: name =>
      let name := Text.strip name
      if name.isEmpty then
        match opened with
        | [] => .error .nothingOpen
        | _ :: outer => .ok outer
      else
        let wanted := Style.normal (String.ofList name)
        if opened.contains wanted then .ok (opened.erase wanted) else .error (.unmatched wanted)
  | name => .ok (Style.normal (String.ofList name) :: opened)

def showPieces (opened : List String) : List Piece → Except MarkupError (List Char)
  | [] => .ok []
  | .plain text :: rest =>
      (showPieces opened rest).map (sanitize (showPictures (unescape text)) ++ ·)
  | .tag tag :: rest => do showPieces (← applyTag opened tag) rest

end Markup

/-- What a terminal shows of a text with tags. -/
def showMarkup (text : List Char) : Except MarkupError (List Char) :=
  if text.contains '[' then Markup.showPieces [] (Markup.pieces text.length [] text)
  else .ok (sanitize (showPictures text))

end LiteralEnum.Console
