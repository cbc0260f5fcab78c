import Registry.Text.Encoding

/-!
# UTF-8

The decoder reads one octet at a time. Between code points it classifies a first octet; after one it
holds the bits seen so far, how many octets are owed and the range of the next. The faulty run that
it reports is the longest beginning of a well-formed sequence, or one octet that starts none.

Surrogates have no well-formed sequence. A decoder that admits them takes the three octets that the
pattern would give, as a whole: an incomplete one is a fault of its first octet.
-/

namespace Registry.Utf8

/-- A sequence that has begun: where it begins, its octets (the last first), how many are owed, the
bits so far, the range of the next octet, and whether it can only be a surrogate. -/
structure Pending where
  first : Nat
  octets : Octets
  owed : Nat
  bits : Nat
  low : Nat
  high : Nat
  surrogate : Bool

/-- The decoder after a first octet. -/
inductive Start
  | point (n : Nat)
  | pending (p : Pending)
  | bad

/-- What a first octet begins. -/
def start (admitSurrogates : Bool) (pos : Nat) (b : UInt8) : Start :=
  let n := b.toNat
  if n < 0x80 then .point n
  else if n < 0xC2 then .bad
  else if n < 0xE0 then .pending ⟨pos, [b], 1, n - 0xC0, 0x80, 0xBF, false⟩
  else if n = 0xE0 then .pending ⟨pos, [b], 2, n - 0xE0, 0xA0, 0xBF, false⟩
  else if n = 0xED then
    .pending ⟨pos, [b], 2, n - 0xE0, 0x80, if admitSurrogates then 0xBF else 0x9F, false⟩
  else if n < 0xF0 then .pending ⟨pos, [b], 2, n - 0xE0, 0x80, 0xBF, false⟩
  else if n = 0xF0 then .pending ⟨pos, [b], 3, n - 0xF0, 0x90, 0xBF, false⟩
  else if n < 0xF4 then .pending ⟨pos, [b], 3, n - 0xF0, 0x80, 0xBF, false⟩
  else if n = 0xF4 then .pending ⟨pos, [b], 3, n - 0xF0, 0x80, 0x8F, false⟩
  else .bad

namespace Pending

/-- The error of a sequence that does not go on. -/
def error (p : Pending) (fault : DecodeFault) : DecodeError :=
  if p.surrogate then ⟨"utf-8", p.first, [0xED], .continuationByte⟩
  else ⟨"utf-8", p.first, p.octets.reverse, fault⟩

/-- The next octet can go on with the sequence. -/
def Admits (p : Pending) (b : UInt8) : Prop := p.low ≤ b.toNat ∧ b.toNat ≤ p.high

instance (p : Pending) (b : UInt8) : Decidable (p.Admits b) :=
  inferInstanceAs (Decidable (_ ∧ _))

/-- The bits of the sequence with those of the next octet. -/
def bitsWith (p : Pending) (b : UInt8) : Nat := p.bits * 0x40 + (b.toNat - 0x80)

/-- The sequence with the next octet. -/
def push (p : Pending) (b : UInt8) : Pending :=
  ⟨p.first, b :: p.octets, p.owed - 1, p.bitsWith b, 0x80, 0xBF,
    p.surrogate || (p.octets == [0xED] && 0xA0 ≤ b.toNat)⟩

end Pending

/-- Reads octets, the first of which is at `pos`. -/
def scan (admitSurrogates : Bool) : Option Pending → Nat → Octets → List Item
  | none, _, [] => []
  | some p, _, [] => [.bad (p.error .endOfData)]
  | none, pos, b :: rest => fresh none pos b rest
  | some p, pos, b :: rest =>
    if p.Admits b then
      if p.owed ≤ 1 then
        .point (CodePoint.ofNat (p.bitsWith b)) :: scan admitSurrogates none (pos + 1) rest
      else scan admitSurrogates (some (p.push b)) (pos + 1) rest
    else fresh (some (.bad (p.error .continuationByte))) pos b rest
where
  /-- Reads an octet between code points, after an item that its arrival completes. -/
  fresh (before : Option Item) (pos : Nat) (b : UInt8) (rest : Octets) : List Item :=
    before.toList ++
      match start admitSurrogates pos b with
      | .point n => .point (CodePoint.ofNat n) :: scan admitSurrogates none (pos + 1) rest
      | .pending p => scan admitSurrogates (some p) (pos + 1) rest
      | .bad => .bad ⟨"utf-8", pos, [b], .startByte⟩ :: scan admitSurrogates none (pos + 1) rest

def decode (b : Octets) : Except DecodeError Text := Item.strict (scan false none 0 b)

/-- The text that octets carry, if surrogates are admitted. -/
def decodeWithSurrogates (b : Octets) : Except DecodeError Text := Item.strict (scan true none 0 b)

/-- The text that octets carry, faults replaced. -/
def decodeLossy (b : Octets) : Text := Item.lossy (scan false none 0 b)

/-- The octets of a code point; a surrogate has three. -/
def encodePoint (c : CodePoint) : Octets :=
  let n := c.val
  if n < 0x80 then [n.toUInt8]
  else if n < 0x800 then [(0xC0 + n / 0x40).toUInt8, (0x80 + n % 0x40).toUInt8]
  else if n < 0x10000 then
    [(0xE0 + n / 0x1000).toUInt8, (0x80 + n / 0x40 % 0x40).toUInt8, (0x80 + n % 0x40).toUInt8]
  else
    [(0xF0 + n / 0x40000).toUInt8, (0x80 + n / 0x1000 % 0x40).toUInt8,
      (0x80 + n / 0x40 % 0x40).toUInt8, (0x80 + n % 0x40).toUInt8]

def encode (t : Text) : Octets := t.flatMap encodePoint

end Registry.Utf8
