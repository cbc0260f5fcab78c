import Registry.Text.Encoding

/-!
# Identifiers

An identifier is a tag for the kind of record, an underscore and a random UUID of version 4. The
random octets are given; their version and variant bits are fixed.
-/

namespace Registry.Identifier

/-- Random octets with the version nibble 4 and the two variant bits `10`. -/
def versioned (random : Octets) : Octets :=
  random.mapIdx fun i b =>
    if i = 6 then b &&& 0x0F ||| 0x40 else if i = 8 then b &&& 0x3F ||| 0x80 else b

/-- The text of a UUID: groups of 4, 2, 2, 2 and 6 octets with hyphens between them. -/
def uuidText (octets : Octets) : Text :=
  let group (first count : Nat) : Text := Octets.hex ((octets.drop first).take count)
  let hyphen := Text.ofString "-"
  group 0 4 ++ hyphen ++ group 4 2 ++ hyphen ++ group 6 2 ++ hyphen ++ group 8 2 ++ hyphen
    ++ group 10 6

/-- The identifier of a tag and random octets. -/
def generate (tag : Text) (random : Octets) : Text :=
  tag ++ Text.ofString "_" ++ uuidText (versioned random)

example :
    generate (Text.ofString "idt") (List.replicate 16 0xFF)
      = Text.ofString "idt_ffffffff-ffff-4fff-bfff-ffffffffffff" := by decide +kernel

end Registry.Identifier
