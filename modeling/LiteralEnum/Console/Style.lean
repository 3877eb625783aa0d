import LiteralEnum.Text.Blank
import LiteralEnum.Text.Numeral

/-! Styles by name. A style that is spelled in several ways has one normal form. -/

namespace LiteralEnum.Console.Style

/-- Attributes in the order of the normal form, each with its short names. -/
def attributes : List (String × List String) :=
  [("bold", ["b"]), ("dim", ["d"]), ("italic", ["i"]), ("underline", ["u"]), ("blink", []),
   ("blink2", []), ("reverse", ["r"]), ("conceal", ["c"]), ("strike", ["s"]),
   ("underline2", ["uu"]), ("frame", []), ("encircle", []), ("overline", ["o"])]

def attribute? (word : String) : Option String :=
  (attributes.find? fun entry => entry.1 = word || entry.2.contains word).map (·.1)

def colorNames : List String :=
  ["black red green yellow blue magenta cyan white bright_black bright_red bright_green ",
   "bright_yellow bright_blue bright_magenta bright_cyan bright_white grey0 gray0 navy_blue ",
   "dark_blue blue3 blue1 dark_green deep_sky_blue4 dodger_blue3 dodger_blue2 green4 ",
   "spring_green4 turquoise4 deep_sky_blue3 dodger_blue1 green3 spring_green3 dark_cyan ",
   "light_sea_green deep_sky_blue2 deep_sky_blue1 spring_green2 cyan3 dark_turquoise turquoise2 ",
   "green1 spring_green1 medium_spring_green cyan2 cyan1 dark_red deep_pink4 purple4 purple3 ",
   "blue_violet orange4 grey37 gray37 medium_purple4 slate_blue3 royal_blue1 chartreuse4 ",
   "dark_sea_green4 pale_turquoise4 steel_blue steel_blue3 cornflower_blue chartreuse3 ",
   "cadet_blue sky_blue3 steel_blue1 pale_green3 sea_green3 aquamarine3 medium_turquoise ",
   "chartreuse2 sea_green2 sea_green1 aquamarine1 dark_slate_gray2 dark_magenta dark_violet ",
   "purple light_pink4 plum4 medium_purple3 slate_blue1 yellow4 wheat4 grey53 gray53 ",
   "light_slate_grey light_slate_gray medium_purple light_slate_blue dark_olive_green3 ",
   "dark_sea_green light_sky_blue3 sky_blue2 dark_sea_green3 dark_slate_gray3 sky_blue1 ",
   "chartreuse1 light_green pale_green1 dark_slate_gray1 red3 medium_violet_red magenta3 ",
   "dark_orange3 indian_red hot_pink3 medium_orchid3 medium_orchid medium_purple2 ",
   "dark_goldenrod light_salmon3 rosy_brown grey63 gray63 medium_purple1 gold3 dark_khaki ",
   "navajo_white3 grey69 gray69 light_steel_blue3 light_steel_blue yellow3 dark_sea_green2 ",
   "light_cyan3 light_sky_blue1 green_yellow dark_olive_green2 dark_sea_green1 pale_turquoise1 ",
   "deep_pink3 magenta2 hot_pink2 orchid medium_orchid1 orange3 light_pink3 pink3 plum3 violet ",
   "light_goldenrod3 tan misty_rose3 thistle3 plum2 khaki3 light_goldenrod2 light_yellow3 ",
   "grey84 gray84 light_steel_blue1 yellow2 dark_olive_green1 honeydew2 light_cyan1 red1 ",
   "deep_pink2 deep_pink1 magenta1 orange_red1 indian_red1 hot_pink dark_orange salmon1 ",
   "light_coral pale_violet_red1 orchid2 orchid1 orange1 sandy_brown light_salmon1 light_pink1 ",
   "pink1 plum1 gold1 navajo_white1 misty_rose1 thistle1 yellow1 light_goldenrod1 khaki1 wheat1 ",
   "cornsilk1 grey100 gray100 grey3 gray3 grey7 gray7 grey11 gray11 grey15 gray15 grey19 gray19 ",
   "grey23 gray23 grey27 gray27 grey30 gray30 grey35 gray35 grey39 gray39 grey42 gray42 grey46 ",
   "gray46 grey50 gray50 grey54 gray54 grey58 gray58 grey62 gray62 grey66 gray66 grey70 gray70 ",
   "grey74 gray74 grey78 gray78 grey82 gray82 grey85 gray85 grey89 gray89 grey93 gray93 "]

/-- The words between blanks. -/
def splitWords (text : List Char) : List (List Char) :=
  (text.splitOnP Text.isBlank).filter (!·.isEmpty)

def isNamedColor (word : List Char) : Bool :=
  (splitWords (colorNames.flatMap String.toList)).contains word

def isHexDigit (c : Char) : Bool := c.isDigit || ('a' ≤ c && c ≤ 'f')

/-- What stands between an opening text and a closing parenthesis. -/
def inside? (opening : String) (word : List Char) : Option (List Char) :=
  if opening.toList.isPrefixOf word ∧ word.getLast? = some ')' then
    some ((word.drop opening.length).dropLast)
  else none

def decimal? (digits : List Char) : Option Nat :=
  if digits.isEmpty then none
  else digits.foldlM (fun value c => (Text.decimalValue? c).map (value * 10 + ·)) 0

/-- A color number of up to three digits. -/
def isNumberedColor (word : List Char) : Bool :=
  match inside? "color(" word with
  | some digits =>
      digits.length ≤ 3 && digits.all Char.isDigit && (decimal? digits).any (· ≤ 255)
  | none => false

/-- Three parts of red, green and blue. -/
def isMixedColor (word : List Char) : Bool :=
  match inside? "rgb(" word with
  | some parts =>
      let parts := parts.splitOnP (· = ',')
      parts.length = 3 && parts.all fun part => (decimal? part).any (· ≤ 255)
  | none => false

def isColor (word : List Char) : Bool :=
  word = "default".toList || isNamedColor word || isNumberedColor word || isMixedColor word
    || (word.length = 7 && word.head? = some '#' && word.tail.all isHexDigit)

/-- What a list of words sets. -/
structure Setting where
  marks : List (String × Bool) := []
  color : Option String := none
  background : Option String := none
  link : Option String := none
deriving Repr, DecidableEq

def Setting.mark (setting : Setting) (name : String) (isOn : Bool) : Setting :=
  { setting with
    marks := (name, isOn) :: setting.marks.filter (·.1 ≠ name) }

def lower (word : String) : String := String.ofList (word.toList.map Char.toLower)

/-- Reads words into a setting, if each of them has a meaning. -/
def read? (setting : Setting) : List String → Option Setting
  | [] => some setting
  | word :: rest =>
      let plain := lower word
      match plain, rest with
      | "on", next :: others =>
          if isColor (lower next).toList then
            read? { setting with background := some (lower next) } others
          else none
      | "not", next :: others =>
          (attribute? next).bind fun name => read? (setting.mark name false) others
      | "link", next :: others => read? { setting with link := some next } others
      | "on", [] => none
      | "not", [] => none
      | "link", [] => none
      | plain, others =>
          match attribute? plain with
          | some name => read? (setting.mark name true) others
          | none =>
              if isColor plain.toList then read? { setting with color := some plain } others
              else none

def Setting.words (setting : Setting) : List String :=
  attributes.filterMap (fun (name, _) =>
      (setting.marks.lookup name).map fun isOn => if isOn then name else "not " ++ name)
    ++ setting.color.toList ++ (setting.background.map ("on " ++ ·)).toList
    ++ (setting.link.map ("link " ++ ·)).toList

def Setting.text (setting : Setting) : String :=
  match setting.words with
  | [] => "none"
  | words => String.intercalate " " words

/-- The normal form of a style. A text that is no style is only trimmed and put in lower
case.
-/
def normal (style : String) : String :=
  let trimmed := String.ofList (Text.strip style.toList)
  if trimmed = "none" || style = "" then "none"
  else match read? {} ((splitWords style.toList).map String.ofList) with
    | some setting => setting.text
    | none => lower trimmed

end LiteralEnum.Console.Style
