import Registry.Text

/-!
# Encodings of text

Octets that carry a text, and the faults that decoding them can meet. Decoding yields a list of
items, a code point or a faulty run of octets each. `Item.strict` gives the text or the first fault,
`Item.lossy` puts a replacement character for every fault.
-/

namespace Registry

abbrev Octets := List UInt8

namespace Octets

/-- Two lower-case hexadecimal digits for every octet. -/
def hex (b : Octets) : Text := b.flatMap fun x => Text.hex 2 x.toNat

end Octets

/-- What is wrong with a run of octets. -/
inductive DecodeFault
  | startByte
  | continuationByte
  | endOfData
  | truncated
  | outOfRange
deriving DecidableEq

/-- A run of octets that stands for no code point, and where in the data it begins. -/
structure DecodeError where
  encoding : String
  position : Nat
  octets : Octets
  fault : DecodeFault
deriving DecidableEq

namespace DecodeFault

/-- The wording of a fault. -/
def message : DecodeFault → String
  | startByte => "invalid start byte"
  | continuationByte => "invalid continuation byte"
  | endOfData => "unexpected end of data"
  | truncated => "truncated data"
  | outOfRange => "code point not in range(0x110000)"

end DecodeFault

namespace DecodeError

/-- The place of a fault: one octet with its value, or the positions of the first and the last. -/
def place (e : DecodeError) : Text :=
  match e.octets with
  | [b] =>
    Text.ofString "byte 0x" ++ Octets.hex [b] ++ Text.ofString " in position "
      ++ Text.ofNat e.position
  | _ =>
    Text.ofString "bytes in position " ++ Text.ofNat e.position ++ Text.ofString "-"
      ++ Text.ofNat (e.position + e.octets.length - 1)

/-- The wording of an error: the encoding, the place and the fault. -/
def message (e : DecodeError) : Text :=
  Text.ofString s!"'{e.encoding}' codec can't decode " ++ e.place
    ++ Text.ofString s!": {e.fault.message}"

end DecodeError

/-- A piece of decoded data. -/
inductive Item
  | point (c : CodePoint)
  | bad (e : DecodeError)

namespace Item

/-- The text, or the first fault. -/
def strict : List Item → Except DecodeError Text
  | [] => .ok []
  | point c :: rest => (strict rest).map (c :: ·)
  | bad e :: _ => .error e

/-- The text with a replacement character for every fault. -/
def lossy (items : List Item) : Text :=
  items.map fun
    | point c => c
    | bad _ => CodePoint.ofNat 0xFFFD

end Item

end Registry
