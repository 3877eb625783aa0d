/-! UTF-8. The decoder takes one byte at a time and holds the sequence that is not
complete yet.
-/

namespace LiteralEnum.Text

abbrev Bytes := List UInt8

/-- Why bytes are not a text: the codec, the bad bytes and the rule that they break. -/
structure DecodeError where
  codec : String
  /-- The first bad byte. -/
  byte : UInt8
  /-- The place of the first bad byte. -/
  start : Nat
  /-- The number of bad bytes. -/
  length : Nat
  reason : String
deriving Repr, DecidableEq

namespace Utf8

/-- A sequence that has begun. -/
structure Sequence where
  leading : UInt8
  start : Nat
  /-- The number of bytes that were read. -/
  length : Nat
  /-- The bits that were read. -/
  value : Nat
  /-- The number of bytes that are missing. -/
  missing : Nat
  /-- The bounds of the next byte, which keep out long forms and surrogates. -/
  low : Nat
  high : Nat
deriving Repr, DecidableEq

/-- The sequence that a byte begins, if it begins one of several bytes. -/
def beginSequence? (start : Nat) (byte : UInt8) : Option Sequence :=
  let code := byte.toNat
  if code < 0xC2 then none
  else if code < 0xE0 then some ⟨byte, start, 1, code - 0xC0, 1, 0x80, 0xBF⟩
  else if code < 0xF0 then
    some ⟨byte, start, 1, code - 0xE0, 2, if code = 0xE0 then 0xA0 else 0x80,
      if code = 0xED then 0x9F else 0xBF⟩
  else if code < 0xF5 then
    some ⟨byte, start, 1, code - 0xF0, 3, if code = 0xF0 then 0x90 else 0x80,
      if code = 0xF4 then 0x8F else 0xBF⟩
  else none

/-- The sequence is longer by a byte within its bounds. -/
def Sequence.extend (sequence : Sequence) (byte : UInt8) : Sequence :=
  { sequence with
    length := sequence.length + 1
    value := sequence.value * 64 + (byte.toNat - 0x80)
    missing := sequence.missing - 1
    low := 0x80
    high := 0xBF }

/-- The error of a sequence that does not go on. -/
def Sequence.error (sequence : Sequence) (reason : String) : DecodeError :=
  ⟨"utf-8", sequence.leading, sequence.start, sequence.length, reason⟩

/-- The characters of bytes that start at a position, inside a sequence or not. -/
def decodeFrom (position : Nat) : Option Sequence → Bytes → Except DecodeError (List Char)
  | none, [] => .ok []
  | some sequence, [] => .error (sequence.error "unexpected end of data")
  | none, byte :: rest =>
      if byte.toNat < 0x80 then
        (decodeFrom (position + 1) none rest).map (Char.ofNat byte.toNat :: ·)
      else match beginSequence? position byte with
        | some sequence => decodeFrom (position + 1) (some sequence) rest
        | none => .error ⟨"utf-8", byte, position, 1, "invalid start byte"⟩
  | some sequence, byte :: rest =>
      if byte.toNat < sequence.low ∨ sequence.high < byte.toNat then
        .error (sequence.error "invalid continuation byte")
      else
        let longer := sequence.extend byte
        if longer.missing = 0 then
          (decodeFrom (position + 1) none rest).map (Char.ofNat longer.value :: ·)
        else decodeFrom (position + 1) (some longer) rest

def decode (bytes : Bytes) : Except DecodeError (List Char) :=
  decodeFrom 0 none bytes

def encode (text : List Char) : Bytes :=
  text.flatMap String.utf8EncodeChar

end Utf8

end LiteralEnum.Text
