import GuidedDecoding.Blake3
import GuidedDecoding.Json.Decode
import GuidedDecoding.Json.Reader

/-!
# Fingerprints

A fingerprint names content by a hash of 32 bytes. It is written in 64 hexadecimal digits in
lower case and read in either case.
-/

namespace GuidedDecoding

/-- A hash that names some content. -/
structure Fingerprint where
  bytes : List UInt8
  length_bytes : bytes.length = 32
deriving DecidableEq

namespace Fingerprint

/-- The fingerprint of some content. -/
def ofContent (content : List UInt8) : Fingerprint :=
  ⟨Blake3.hash content, Blake3.length_hash content⟩

/-- The fingerprint that has the same byte everywhere. -/
def filled (byte : UInt8) : Fingerprint := ⟨List.replicate 32 byte, by simp⟩

/-- The bytes of a text. -/
def utf8 (text : String) : List UInt8 := text.toUTF8.data.toList

/-- A length in eight bytes, the least significant one first. -/
def lengthBytes (n : Nat) : List UInt8 := (List.range 8).map fun i => (n >>> (8 * i)).toUInt8

/-- The two digits of a byte. -/
def byteDigits (b : UInt8) : List Char :=
  [Json.hexDigit (b.toNat / 16), Json.hexDigit b.toNat]

/-- All 64 digits. -/
def hex (f : Fingerprint) : String := String.ofList (f.bytes.flatMap byteDigits)

/-- The first twelve digits, for people to read. -/
def short (f : Fingerprint) : String := String.ofList ((f.bytes.flatMap byteDigits).take 12)

/-- The bytes that pairs of digits stand for. -/
def bytesOfDigits? : List Char → Option (List UInt8)
  | [] => some []
  | a :: b :: rest => do
    let high ← Json.hexValue? a
    let low ← Json.hexValue? b
    return (high * 16 + low).toUInt8 :: (← bytesOfDigits? rest)
  | [_] => none

/-- The fingerprint of 32 bytes. -/
def ofBytes? (bytes : List UInt8) : Option Fingerprint :=
  if h : bytes.length = 32 then some ⟨bytes, h⟩ else none

/-- The fingerprint that 64 hexadecimal digits stand for. -/
def ofHex? (text : String) : Option Fingerprint := (bytesOfDigits? text.toList).bind ofBytes?

/-- Order by bytes. -/
def precedes (f g : Fingerprint) : Bool := decide (f.bytes < g.bytes)

def toJson (f : Fingerprint) : Json := .str f.hex

def ofJson? (doc : Json) : Option Fingerprint := doc.string?.bind ofHex?

end Fingerprint

end GuidedDecoding
