/-! Line breaks of every kind, and the lines between them. -/

namespace LiteralEnum.Text

/-- Line feed, vertical tab, form feed, carriage return, the three separator controls
above the unit separator, next line, and the two Unicode separators.
-/
def isLineBreak (c : Char) : Bool :=
  let code := c.toNat
  (10 ≤ code && code ≤ 13) || (28 ≤ code && code ≤ 30)
    || code = 0x85 || code = 0x2028 || code = 0x2029

/-- The lines of a text. A break ends a line, a carriage return and a line feed are one
break, and nothing follows a last break.
-/
def splitLines (text : List Char) : List (List Char) :=
  go [] text
where
  go (current : List Char) : List Char → List (List Char)
    | [] => if current.isEmpty then [] else [current.reverse]
    | '\r' :: '\n' :: rest => current.reverse :: go [] rest
    | c :: rest =>
        if isLineBreak c then current.reverse :: go [] rest else go (c :: current) rest

/-- The pieces between the occurrences of a separator; at least one. -/
def splitAt (separator : Char) : List Char → List (List Char)
  | [] => [[]]
  | c :: rest =>
      let pieces := splitAt separator rest
      if c = separator then [] :: pieces
      else (c :: pieces.headD []) :: pieces.tail

/-- Every break of a text as one line feed: a carriage return with or without a line feed
counts as one break.
-/
def unifyBreaks : List Char → List Char
  | [] => []
  | '\r' :: '\n' :: rest => '\n' :: unifyBreaks rest
  | c :: rest => (if c = '\r' then '\n' else c) :: unifyBreaks rest

end LiteralEnum.Text
