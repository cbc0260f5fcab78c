import Registry.Text.Printable

/-!
# Quoted texts

A text between quotes, for messages that show it to a reader. Single quotes are used unless the text
has a single quote and no double one. The backslash, the quote in use and everything that is not
printable are escaped, so the quoted form is on one line.
-/

namespace Registry.Text

/-- The quote around a text: the double one if the text has a single quote and no double one. -/
def quoteOf (t : Text) : CodePoint :=
  if t.contains (CodePoint.ofChar '\'') && !t.contains (CodePoint.ofChar '"') then '"' else '\''

/-- How one code point is shown between quotes. -/
def escapeQuoted (quote c : CodePoint) : Text :=
  if c = quote ∨ c = CodePoint.ofChar '\\' then [CodePoint.ofChar '\\', c]
  else if c = CodePoint.ofChar '\n' then "\\n"
  else if c = CodePoint.ofChar '\r' then "\\r"
  else if c = CodePoint.ofChar '\t' then "\\t"
  else if c.isPrintable then [c]
  else if c.val < 0x100 then ofString "\\x" ++ hex 2 c.val
  else if c.val < 0x10000 then ofString "\\u" ++ hex 4 c.val
  else ofString "\\U" ++ hex 8 c.val

def quoted (t : Text) : Text :=
  quoteOf t :: t.flatMap (escapeQuoted (quoteOf t)) ++ [quoteOf t]

example : quoted (ofString "it's") = ofString "\"it's\"" := by decide +kernel

example : quoted (ofString "a\n'\"") = ofString "'a\\n\\'\"'" := by decide +kernel

end Registry.Text
