import PadGraph.Text

/-!
# Texts as bytes

The bytes of a text are those of its characters in UTF-8. Reading bytes back takes one byte at a
time: a first byte says how many continuation bytes it owes and which the next of them may be.

* `Utf8.encode`, `Utf8.byteLength` — the bytes of a text, and how many there are.
* `Utf8.Fault` — where bytes stop being a text, and why.
* `Utf8.decode` — the text with given bytes, or the first fault.
-/

namespace PadGraph

namespace Utf8

/-! ### Writing -/

/-- The bytes of a character: one to four, the first of which tells their number. -/
def encodeChar (c : Char) : List UInt8 :=
  let n := c.toNat
  if n < 0x80 then [n.toUInt8]
  else if n < 0x800 then [(0xC0 + n / 0x40).toUInt8, (0x80 + n % 0x40).toUInt8]
  else if n < 0x10000 then
    [(0xE0 + n / 0x1000).toUInt8, (0x80 + n / 0x40 % 0x40).toUInt8, (0x80 + n % 0x40).toUInt8]
  else
    [(0xF0 + n / 0x40000).toUInt8, (0x80 + n / 0x1000 % 0x40).toUInt8,
      (0x80 + n / 0x40 % 0x40).toUInt8, (0x80 + n % 0x40).toUInt8]

/-- The bytes of a text. -/
def encode (text : Text) : List UInt8 := text.flatMap encodeChar

/-- How many bytes a text takes. -/
def byteLength (text : Text) : Nat := text.foldl (fun n c => n + c.utf8Size) 0

/-! ### Reading -/

/-- Why bytes are no text. -/
inductive Fault where
  /-- The `length` bytes from `index` on begin no character. -/
  | invalid (length index : Nat)
  /-- The bytes from `index` on begin a character and end before it does. -/
  | incomplete (index : Nat)
  deriving DecidableEq, Repr, Inhabited

/-- The wording of a fault. -/
def Fault.message : Fault → Text
  | invalid length index =>
    lit "invalid utf-8 sequence of " ++ Text.decimal length ++ lit " bytes from index " ++
      Text.decimal index
  | incomplete index => lit "incomplete utf-8 byte sequence from index " ++ Text.decimal index

/-- A character of which some bytes have been read and some are owed. -/
structure Unfinished where
  /-- Where its first byte stands. -/
  index : Nat
  /-- How many of its bytes have been read. -/
  seen : Nat
  /-- How many bytes are owed behind the next one. -/
  owed : Nat
  bits : Nat
  /-- The least that the next byte may be. -/
  low : Nat
  /-- The greatest that the next byte may be. -/
  high : Nat
  deriving DecidableEq, Repr, Inhabited

/-- The character that a first byte above the single-byte ones begins. The bounds on the second byte
keep out longer forms than needed, surrogates and numbers above the last character. -/
def first? (index byte : Nat) : Option Unfinished :=
  if 0xC2 ≤ byte ∧ byte ≤ 0xDF then some ⟨index, 1, 0, byte - 0xC0, 0x80, 0xBF⟩
  else if byte = 0xE0 then some ⟨index, 1, 1, byte - 0xE0, 0xA0, 0xBF⟩
  else if byte = 0xED then some ⟨index, 1, 1, byte - 0xE0, 0x80, 0x9F⟩
  else if 0xE1 ≤ byte ∧ byte ≤ 0xEF then some ⟨index, 1, 1, byte - 0xE0, 0x80, 0xBF⟩
  else if byte = 0xF0 then some ⟨index, 1, 2, byte - 0xF0, 0x90, 0xBF⟩
  else if byte = 0xF4 then some ⟨index, 1, 2, byte - 0xF0, 0x80, 0x8F⟩
  else if 0xF1 ≤ byte ∧ byte ≤ 0xF3 then some ⟨index, 1, 2, byte - 0xF0, 0x80, 0xBF⟩
  else none

/-- What the next byte of an unfinished character leads to. -/
inductive Next where
  | character (c : Char)
  | unfinished (u : Unfinished)
  | refused (fault : Fault)

/-- Reads the next byte of an unfinished character. -/
def Unfinished.next (u : Unfinished) (byte : Nat) : Next :=
  if u.low ≤ byte ∧ byte ≤ u.high then
    let bits := u.bits * 0x40 + (byte - 0x80)
    match u.owed with
    | 0 => .character (Char.ofNat bits)
    | owed + 1 => .unfinished ⟨u.index, u.seen + 1, owed, bits, 0x80, 0xBF⟩
  else .refused (.invalid u.seen u.index)

/-- Reads a byte between characters. -/
def start (index byte : Nat) : Next :=
  if byte < 0x80 then .character (Char.ofNat byte)
  else
    match first? index byte with
    | some u => .unfinished u
    | none => .refused (.invalid 1 index)

/-- Reads bytes, the first of which stands at `index`, behind an unfinished character if there is
one. -/
def decodeFrom (index : Nat) (unfinished : Option Unfinished) : List UInt8 → Except Fault Text
  | [] =>
    match unfinished with
    | none => .ok []
    | some u => .error (.incomplete u.index)
  | byte :: bytes =>
    let next := match unfinished with
      | none => start index byte.toNat
      | some u => u.next byte.toNat
    match next with
    | .character c => (decodeFrom (index + 1) none bytes).map (c :: ·)
    | .unfinished u => decodeFrom (index + 1) (some u) bytes
    | .refused fault => .error fault

/-- The text with given bytes, or the first fault in them. -/
def decode (bytes : List UInt8) : Except Fault Text := decodeFrom 0 none bytes

end Utf8

end PadGraph
