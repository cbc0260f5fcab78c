import Registry.Text.Encoding

/-!
# Base64

Octets written as texts, six bits a character. Reading passes over whatever is no digit, so a text
can be broken into lines. A text may go on after its padding, but is not read there; without padding
it must end with a whole group of four digits.
-/

namespace Registry.Base64

def digit? (c : CodePoint) : Option Nat :=
  if 0x41 ≤ c.val ∧ c.val ≤ 0x5A then some (c.val - 0x41)
  else if 0x61 ≤ c.val ∧ c.val ≤ 0x7A then some (c.val - 0x61 + 26)
  else if c.isDigit then some (c.digitValue + 52)
  else if c.is '+' then some 62
  else if c.is '/' then some 63
  else none

/-- The octets that the digits of one group give, with the bits of a last incomplete octet left out.
-/
def octets : List Nat → Octets
  | [a, b] => [UInt8.ofNat (a * 4 + b / 16)]
  | [a, b, c] => octets [a, b] ++ [UInt8.ofNat (b % 16 * 16 + c / 4)]
  | [a, b, c, d] => octets [a, b, c] ++ [UInt8.ofNat (c % 4 * 64 + d)]
  | _ => []

/-- Reads a text after the digits `group` of a group and `pads` signs of padding. -/
def decodeFrom? (group : List Nat) (pads : Nat) : Text → Option Octets
  | [] => if group.isEmpty then some [] else none
  | c :: rest =>
    if c.is '=' then
      if 2 ≤ group.length then
        if 4 ≤ group.length + (pads + 1) then some (octets group)
        else decodeFrom? group (pads + 1) rest
      else decodeFrom? group pads rest
    else
      match digit? c with
      | none => decodeFrom? group pads rest
      | some n =>
        if group.length = 3 then (decodeFrom? [] 0 rest).map (octets (group ++ [n]) ++ ·)
        else decodeFrom? (group ++ [n]) 0 rest

def decode? (t : Text) : Option Octets := decodeFrom? [] 0 t

end Registry.Base64
