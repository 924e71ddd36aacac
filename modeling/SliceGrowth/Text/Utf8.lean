/-!
Reading bytes as UTF-8. Bytes that are no character are kept apart as malformed parts, each as long as
the bytes that could still have begun a character.
-/
namespace SliceGrowth.Text

/-- What bytes spell: a character, or bytes that spell none. -/
inductive Glyph where
  | char (c : Char)
  | malformed (size : Nat)
deriving DecidableEq

namespace Glyph

/-- The number of bytes. -/
def size : Glyph → Nat
  | .char c => c.utf8Size
  | .malformed size => size

/-- The character, or the replacement character for malformed bytes. -/
def shown : Glyph → Char
  | .char c => c
  | .malformed _ => '\uFFFD'

def char? : Glyph → Option Char
  | .char c => some c
  | .malformed _ => none

end Glyph

/-- A character begun: the bytes read, their value, how many are missing, and the bounds of the next. -/
structure PartialChar where
  read : Nat
  value : Nat
  missing : Nat
  low : UInt8
  high : UInt8

/-- What a byte at the start of a character means. -/
def readLead (b : UInt8) : List Glyph × Option PartialChar :=
  let begin (value missing : Nat) (low high : UInt8) : List Glyph × Option PartialChar :=
    ([], some ⟨1, value, missing, low, high⟩)
  if b < 0x80 then ([.char (Char.ofNat b.toNat)], none)
  else if b < 0xC2 then ([.malformed 1], none)
  else if b < 0xE0 then begin (b.toNat - 0xC0) 1 0x80 0xBF
  else if b == 0xE0 then begin 0 2 0xA0 0xBF
  else if b == 0xED then begin 13 2 0x80 0x9F
  else if b < 0xF0 then begin (b.toNat - 0xE0) 2 0x80 0xBF
  else if b == 0xF0 then begin 0 3 0x90 0xBF
  else if b < 0xF4 then begin (b.toNat - 0xF0) 3 0x80 0xBF
  else if b == 0xF4 then begin 4 3 0x80 0x8F
  else ([.malformed 1], none)

/-- What a byte means after the bytes of a character begun. -/
def readByte (begun : Option PartialChar) (b : UInt8) : List Glyph × Option PartialChar :=
  match begun with
  | none => readLead b
  | some p =>
    if p.low ≤ b && b ≤ p.high then
      let value := p.value * 64 + (b.toNat - 0x80)
      if p.missing ≤ 1 then ([.char (Char.ofNat value)], none)
      else ([], some ⟨p.read + 1, value, p.missing - 1, 0x80, 0xBF⟩)
    else
      let (glyphs, next) := readLead b
      (.malformed p.read :: glyphs, next)

def glyphsFrom (begun : Option PartialChar) : List UInt8 → List Glyph
  | [] => match begun with
    | none => []
    | some p => [.malformed p.read]
  | b :: rest =>
    let (glyphs, next) := readByte begun b
    glyphs ++ glyphsFrom next rest

def glyphs (bytes : ByteArray) : List Glyph := glyphsFrom none bytes.data.toList

/-- The text of the bytes, with the replacement character for every malformed part. -/
def decodeLossy (bytes : ByteArray) : String := String.ofList ((glyphs bytes).map Glyph.shown)

/-- The characters of the bytes, if there is no malformed part. -/
def decode? (bytes : ByteArray) : Option (List Char) := (glyphs bytes).mapM Glyph.char?

end SliceGrowth.Text
