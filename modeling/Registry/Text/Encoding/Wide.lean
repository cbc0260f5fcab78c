import Registry.Text.Encoding

/-!
# UTF-16 and UTF-32

Encodings of a text by units of two and of four octets, in either byte order. Both decoders admit
surrogates: a high unit directly followed by a low one is one code point, any other surrogate stands
for itself. What is left when the data do not fill the last unit is a fault.
-/

namespace Registry

/-- The order of the octets of a unit. -/
inductive ByteOrder
  | little
  | big
deriving DecidableEq

namespace ByteOrder

/-- How the order is written in the name of an encoding. -/
def suffix : ByteOrder → String
  | little => "le"
  | big => "be"

/-- The number that octets in this order stand for. -/
def value (order : ByteOrder) (b : Octets) : Nat :=
  match order with
  | big => b.foldl (fun n x => n * 0x100 + x.toNat) 0
  | little => b.foldr (fun x n => n * 0x100 + x.toNat) 0

/-- The `count` octets of a number in this order. -/
def octets (order : ByteOrder) (count n : Nat) : Octets :=
  let small := (List.range count).map fun i => (n / Nat.pow 0x100 i).toUInt8
  match order with
  | little => small
  | big => small.reverse

end ByteOrder

namespace Utf16

/-- The units of the data from position `pos` on, and the fault of an odd octet at the end. -/
def units (order : ByteOrder) : Nat → Octets → List CodePoint × Option DecodeError
  | pos, a :: b :: rest =>
    let (more, e) := units order (pos + 2) rest
    (CodePoint.ofNat (order.value [a, b]) :: more, e)
  | pos, [a] => ([], some ⟨"utf-16-" ++ order.suffix, pos, [a], .truncated⟩)
  | _, [] => ([], none)

/-- Joins every high surrogate with the low one that follows it directly. -/
def joinSurrogates : Text → Text
  | a :: b :: rest =>
    if a.isHighSurrogate && b.isLowSurrogate then CodePoint.ofSurrogates a b :: joinSurrogates rest
    else a :: joinSurrogates (b :: rest)
  | t => t

/-- The text that octets carry from position `pos` on. -/
def decode (order : ByteOrder) (pos : Nat) (b : Octets) : Except DecodeError Text :=
  match units order pos b with
  | (t, none) => .ok (joinSurrogates t)
  | (_, some e) => .error e

/-- The units of a code point: itself, or two surrogates beyond the basic plane. -/
def unitsOf (c : CodePoint) : List Nat :=
  if c.val < 0x10000 then [c.val]
  else [0xD800 + (c.val - 0x10000) / 0x400, 0xDC00 + (c.val - 0x10000) % 0x400]

def encode (order : ByteOrder) (t : Text) : Octets :=
  (t.flatMap unitsOf).flatMap (order.octets 2)

end Utf16

namespace Utf32

/-- The text that octets carry from position `pos` on. -/
def decode (order : ByteOrder) : Nat → Octets → Except DecodeError Text
  | pos, a :: b :: c :: d :: rest =>
    let n := order.value [a, b, c, d]
    if h : n < 0x110000 then (decode order (pos + 4) rest).map (⟨n, h⟩ :: ·)
    else .error ⟨"utf-32-" ++ order.suffix, pos, [a, b, c, d], .outOfRange⟩
  | _, [] => .ok []
  | pos, rest => .error ⟨"utf-32-" ++ order.suffix, pos, rest, .truncated⟩

def encode (order : ByteOrder) (t : Text) : Octets := t.flatMap fun c => order.octets 4 c.val

end Utf32

end Registry
