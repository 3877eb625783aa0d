import LiteralEnum.Text.Encoding.Utf8
import LiteralEnum.Text.Lines
import LiteralEnum.Text.Quoted

/-! Encodings of text files, found by name. -/

namespace LiteralEnum.Text

def DecodeError.message (error : DecodeError) : String :=
  let place :=
    if error.length = 1 then
      s!"byte 0x{String.ofList (hexDigits 2 error.byte.toNat)} in position {error.start}"
    else s!"bytes in position {error.start}-{error.start + error.length - 1}"
  s!"'{error.codec}' codec can't decode {place}: {error.reason}"

inductive Encoding where
  | utf8
  /-- UTF-8 that may begin with a byte order mark. -/
  | markedUtf8
  | latin1
  | ascii
deriving Repr, DecidableEq

namespace Encoding

/-- A name without regard to case, in which a run of marks between letters counts as one. -/
def canonicalName (name : List Char) : List Char :=
  let words := (name.map fun c => if c.isAlphanum || c = '.' then c.toLower else ' ')
  ['_'].intercalate ((splitAt ' ' words).filter (!·.isEmpty))

def names : List (String × Encoding) :=
  ["utf_8", "utf8", "u8", "utf", "utf8_ucs2", "utf8_ucs4", "cp65001"].map (·, utf8)
    ++ [("utf_8_sig", markedUtf8)]
    ++ ["latin_1", "latin1", "latin", "l1", "8859", "cp819", "csisolatin1", "ibm819", "iso8859",
        "iso8859_1", "iso_8859_1", "iso_8859_1_1987", "iso_ir_100"].map (·, latin1)
    ++ ["ascii", "646", "ansi_x3.4_1968", "ansi_x3_4_1968", "ansi_x3.4_1986", "cp367", "csascii",
        "ibm367", "iso646_us", "iso_646.irv_1991", "iso_ir_6", "us", "us_ascii"].map (·, ascii)

def named? (name : String) : Option Encoding :=
  names.lookup (String.ofList (canonicalName name.toList))

def byteOrderMark : Bytes := [0xEF, 0xBB, 0xBF]

/-- The characters of bytes below 128. -/
def decodeAscii (position : Nat) : Bytes → Except DecodeError (List Char)
  | [] => .ok []
  | byte :: rest =>
      if byte.toNat < 0x80 then
        (decodeAscii (position + 1) rest).map (Char.ofNat byte.toNat :: ·)
      else .error ⟨"ascii", byte, position, 1, "ordinal not in range(128)"⟩

/-- Positions count from behind the mark. A mark that breaks off is an empty text. -/
def decodeMarked (bytes : Bytes) : Except DecodeError (List Char) :=
  if bytes.length < 3 ∧ bytes.isPrefixOf byteOrderMark then .ok []
  else if byteOrderMark.isPrefixOf bytes then Utf8.decode (bytes.drop 3)
  else Utf8.decode bytes

def decode : Encoding → Bytes → Except DecodeError (List Char)
  | utf8, bytes => Utf8.decode bytes
  | markedUtf8, bytes => decodeMarked bytes
  | latin1, bytes => .ok (bytes.map fun byte => Char.ofNat byte.toNat)
  | ascii, bytes => decodeAscii 0 bytes

/-- The text of a file: the characters of its bytes, with every line break as one line
feed.
-/
def readText (encoding : Encoding) (bytes : Bytes) : Except DecodeError String :=
  (encoding.decode bytes).map fun text => String.ofList (unifyBreaks text)

end Encoding

end LiteralEnum.Text
