import Registry.Text

/-!
# Blank code points

Two classes that differ only in the four ASCII information separators: `isBlank` counts them in,
`isWhiteSpace` is the Unicode property White_Space. Lines of a template and secrets read from a file
are stripped of the former, numerals in configuration fields of the latter.
-/

namespace Registry.CodePoint

/-- The Unicode property White_Space. -/
def isWhiteSpace (c : CodePoint) : Bool :=
  (0x09 ≤ c.val && c.val ≤ 0x0D) || c.val == 0x20 || c.val == 0x85 || c.val == 0xA0
    || c.val == 0x1680 || (0x2000 ≤ c.val && c.val ≤ 0x200A) || c.val == 0x2028
    || c.val == 0x2029 || c.val == 0x202F || c.val == 0x205F || c.val == 0x3000

/-- White space or one of the ASCII separators of files, groups, records and units. -/
def isBlank (c : CodePoint) : Bool := c.isWhiteSpace || (0x1C ≤ c.val && c.val ≤ 0x1F)

end Registry.CodePoint
