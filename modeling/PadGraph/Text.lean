/-!
# Text

Expressions, names, paths and messages are lists of characters, so that a law about reading and
writing them is a law about lists.

* `Text` — a list of characters.
* `lit` — the characters of a string that stands in this library.
* `Text.decimal`, `Text.hex` — a number in digits, without leading zeros.
* `Text.lines` — the lines of a text; joined by newlines they give the text back.
-/

namespace PadGraph

/-- A text is the list of its characters. -/
abbrev Text := List Char

/-- The characters of a string. A definition that writes a string this way can be unfolded without
its characters being worked out. -/
@[irreducible] def lit (s : String) : Text := s.toList

namespace Text

/-- The decimal digits of `n`, most significant first; zero is one digit. -/
def decimal (n : Nat) : Text := Nat.toDigits 10 n

/-- The lower-case hexadecimal digits of `n`, most significant first; zero is one digit. -/
def hex (n : Nat) : Text := Nat.toDigits 16 n

/-- The lines of a text: the pieces between its newlines, empty ones included. -/
def lines (text : Text) : List Text := text.splitOnP (· == '\n')

/-- The value of a hexadecimal digit of either case. -/
def hexDigit? (c : Char) : Option Nat :=
  if '0' ≤ c ∧ c ≤ '9' then some (c.toNat - '0'.toNat)
  else if 'a' ≤ c ∧ c ≤ 'f' then some (c.toNat - 'a'.toNat + 10)
  else if 'A' ≤ c ∧ c ≤ 'F' then some (c.toNat - 'A'.toNat + 10)
  else none

/-- The number that hexadecimal digits write, or nothing when one of the characters is no digit. -/
def ofHex? (digits : Text) : Option Nat :=
  digits.foldlM (fun value c => (hexDigit? c).map (value * 16 + ·)) 0

end Text

end PadGraph
