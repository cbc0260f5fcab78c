import Registry.Text.Encoding.Utf8

/-!
# Percent coding

Octets that are not allowed where they stand are written as a percent sign and two hexadecimal
digits. Decoding takes every run of ASCII by itself: its octets are UTF-8, and what is not is
replaced; a percent sign without two digits stands for itself.
-/

namespace Registry.Percent

/-- The upper-case escape of an octet. -/
def escape (b : UInt8) : Text :=
  [CodePoint.ofChar '%', CodePoint.ofUpperHexDigit (b.toNat / 16),
    CodePoint.ofUpperHexDigit (b.toNat % 16)]

/-- A code point that no encoding escapes: an ASCII letter or digit or one of `_.-~`. -/
def isUnreserved (c : CodePoint) : Bool :=
  c.isAsciiAlphanumeric || c.is '_' || c.is '.' || c.is '-' || c.is '~'

/-- The text with everything escaped but unreserved code points and an additional class of ASCII. -/
def encode (isSafe : CodePoint → Bool) (t : Text) : Text :=
  t.flatMap fun c =>
    if isUnreserved c || (c.val < 0x80 && isSafe c) then [c]
    else (Utf8.encodePoint c).flatMap escape

/-- The text of a part of a query: a space is a plus sign. -/
def encodeQuery (t : Text) : Text :=
  (encode (fun c => c.is ' ') t).map fun c => if c.is ' ' then '+' else c

/-- The octets of an ASCII text, escapes undone. -/
def octets : Text → Octets
  | a :: b :: c :: rest =>
    match a.is '%', b.hexValue?, c.hexValue? with
    | true, some x, some y => (x * 16 + y).toUInt8 :: octets rest
    | _, _, _ => a.val.toUInt8 :: octets (b :: c :: rest)
  | a :: rest => a.val.toUInt8 :: octets rest
  | [] => []

/-- Decodes a text, `ascii` being the run of ASCII before it in reverse. -/
def decodeRuns (ascii : Text) : Text → Text
  | [] => Utf8.decodeLossy (octets ascii.reverse)
  | c :: rest =>
    if c.val < 0x80 then decodeRuns (c :: ascii) rest
    else Utf8.decodeLossy (octets ascii.reverse) ++ c :: decodeRuns [] rest

/-- The text with its escapes undone. -/
def decode (t : Text) : Text := decodeRuns [] t

/-- The text of a part of a query with its escapes undone. -/
def decodeQuery (t : Text) : Text := decode (t.map fun c => if c.is '+' then ' ' else c)

end Registry.Percent
