import Registry.Text.Encoding.Utf8
import Registry.Text.Encoding.Wide

/-!
# Detecting the encoding of data

Data without a declared encoding are UTF-8, UTF-16 or UTF-32. A byte order mark decides; without one
the places of the zero octets do, as the first code points of structured text are ASCII.
-/

namespace Registry

/-- An encoding, and whether the data begin with its mark. -/
inductive Encoding
  | utf8 (marked : Bool)
  | utf16 (order : ByteOrder) (marked : Bool)
  | utf32 (order : ByteOrder) (marked : Bool)
deriving DecidableEq

namespace Encoding

/-- The encoding that a mark at the beginning tells. -/
def ofMark? : Octets → Option Encoding
  | 0x00 :: 0x00 :: 0xFE :: 0xFF :: _ => some (utf32 .big true)
  | 0xFF :: 0xFE :: 0x00 :: 0x00 :: _ => some (utf32 .little true)
  | 0xFE :: 0xFF :: _ => some (utf16 .big true)
  | 0xFF :: 0xFE :: _ => some (utf16 .little true)
  | 0xEF :: 0xBB :: 0xBF :: _ => some (utf8 true)
  | _ => none

/-- The encoding that the zero octets at the beginning tell. -/
def ofZeros : Octets → Encoding
  | a :: b :: c :: d :: _ =>
    if a = 0 then if b = 0 then utf32 .big false else utf16 .big false
    else if b = 0 then if c = 0 ∧ d = 0 then utf32 .little false else utf16 .little false
    else utf8 false
  | [a, b] =>
    if a = 0 then utf16 .big false else if b = 0 then utf16 .little false else utf8 false
  | _ => utf8 false

def detect (b : Octets) : Encoding := (ofMark? b).getD (ofZeros b)

/-- The text that data carry in this encoding, without the mark. Positions of faults count from the
beginning of the data in the wide encodings and from the end of the mark in UTF-8. -/
def decode : Encoding → Octets → Except DecodeError Text
  | utf8 marked, b => Utf8.decodeWithSurrogates (if marked then b.drop 3 else b)
  | utf16 order marked, b =>
    if marked then Utf16.decode order 2 (b.drop 2) else Utf16.decode order 0 b
  | utf32 order marked, b =>
    if marked then Utf32.decode order 4 (b.drop 4) else Utf32.decode order 0 b

end Encoding

end Registry
