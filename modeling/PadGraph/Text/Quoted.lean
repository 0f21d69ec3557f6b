import PadGraph.Text.Printable

/-!
# Quoted paths

A path inside a message stands in double quotes. Quotes, backslashes and line ends in it are
escaped, and so is every character that cannot be seen on its own.

* `Text.quoted` — a text in double quotes.
-/

namespace PadGraph

namespace Text

/-- A character inside double quotes. -/
def escapeQuoted (c : Char) : Text :=
  if c = '"' ∨ c = '\\' then ['\\', c]
  else if c = '\t' then ['\\', 't']
  else if c = '\n' then ['\\', 'n']
  else if c = '\r' then ['\\', 'r']
  else if c.toNat = 0 then ['\\', '0']
  else if isPrintable c then [c]
  else '\\' :: 'u' :: '\x7b' :: hex c.toNat ++ ['\x7d']

/-- A text in double quotes. -/
def quoted (text : Text) : Text := '"' :: text.flatMap escapeQuoted ++ ['"']

end Text

end PadGraph
