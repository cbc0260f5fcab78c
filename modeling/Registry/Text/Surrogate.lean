import Registry.Text

/-!
# Texts with surrogates

No database and no file holds a text with surrogates in it. The name of a file or of a variable may
have those that stand for octets.
-/

namespace Registry

/-- Code points of a text that no database text can hold: the positions of the first and the last of
a run of surrogates. -/
structure EncodeError where
  first : Nat
  last : Nat
  point : CodePoint
deriving DecidableEq

namespace EncodeError

/-- The first run of surrogates of a text. -/
def of? (t : Text) : Option EncodeError :=
  let before := t.takeWhile fun c => !c.isSurrogate
  match t.drop before.length with
  | [] => none
  | c :: rest =>
    some ⟨before.length, before.length + (rest.takeWhile CodePoint.isSurrogate).length, c⟩

/-- A surrogate that stands for an octet in the name of a file or of a variable. -/
def standsForOctet (c : CodePoint) : Bool := 0xDC80 ≤ c.val && c.val ≤ 0xDCFF

/-- The first run of surrogates in a name that has one which stands for no octet, from that one on;
`position` counts the code points before. -/
def inName? (position : Nat) : Text → Option EncodeError
  | [] => none
  | c :: rest =>
    if c.isSurrogate && !standsForOctet c then
      some ⟨position, position + (rest.takeWhile CodePoint.isSurrogate).length, c⟩
    else inName? (position + 1) rest

/-- What keeps a text from being the name of a file or of a variable. -/
def ofName? (t : Text) : Option EncodeError := inName? 0 t

/-- The wording of an error. -/
def message (e : EncodeError) : Text :=
  Text.ofString "'utf-8' codec can't encode "
    ++ (if e.first = e.last then
          Text.ofString "character '\\u" ++ Text.hex 4 e.point.val
            ++ Text.ofString "' in position " ++ Text.ofNat e.first
        else
          Text.ofString "characters in position " ++ Text.ofNat e.first ++ Text.ofString "-"
            ++ Text.ofNat e.last)
    ++ Text.ofString ": surrogates not allowed"

end EncodeError

end Registry
