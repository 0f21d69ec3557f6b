import PadGraph.Toml.Reader

/-!
# TOML strings

A string stands on one line between single quotes, or on several between triple ones. Between double
quote characters a backslash escapes; between apostrophes every character stands for itself.

* `Toml.lineSpan`, `Toml.blockSpan` — what stands up to the closing quotes.
* `Toml.unescape` — the text that escapes write.
* `Toml.lineString` — reads a string on one line; `Toml.string` — reads any string.
-/

namespace PadGraph

namespace Toml

/-! ### Up to the closing quotes -/

/-- Puts a character before those that have been read. -/
def addChar (c : Char) (read : Text × Text) : Text × Text := (c :: read.1, read.2)

/-- What stands up to the closing quote of a string on one line. With `escapes`, the character
behind a backslash does not close the string. -/
def lineSpan (quote : Char) (escapes : Bool) : Reader Text
  | [] => none
  | [c] => if c = quote then some ([], []) else none
  | c :: d :: rest =>
    if c = quote then some ([], d :: rest)
    else if escapes && c == '\\' then
      (lineSpan quote escapes rest).map fun read => addChar c (addChar d read)
    else if isVisible c then (lineSpan quote escapes (d :: rest)).map (addChar c)
    else none

/-- What stands up to the closing quotes of a string on several lines. Up to two quotes may stand
directly before the three that close it. -/
def blockSpan (quote : Char) (escapes : Bool) : Reader Text
  | [] => none
  | [_] => none
  | c :: d :: rest =>
    if c = quote then
      let further := ((d :: rest).takeWhile (· == quote)).length
      if 2 ≤ further then
        some (List.replicate (min (further - 2) 2) quote, (d :: rest).drop (min further 4))
      else (blockSpan quote escapes (d :: rest)).map (addChar c)
    else if escapes && c == '\\' then
      (blockSpan quote escapes rest).map fun read => addChar c (addChar d read)
    else if c == '\n' || isVisible c then (blockSpan quote escapes (d :: rest)).map (addChar c)
    else none

/-! ### Escapes -/

/-- What happened to a backslash at the end of a line. -/
inductive Joining where
  /-- There was none. -/
  | no
  /-- There was one, and the end of its line has not been reached. -/
  | within
  /-- There was one, and blanks and newlines are dropped up to the next other character. -/
  | behind
  deriving DecidableEq, Repr, Inhabited

/-- A text without the line ends that a backslash takes away, together with the blanks and newlines
behind them. Behind such a backslash only blanks may stand on its line. -/
def joinLines (joining : Joining) : Text → Option Text
  | [] => if joining = .within then none else some []
  | c :: rest =>
    match joining with
    | .within =>
      if c = '\n' then joinLines .behind rest
      else if isBlank c then joinLines .within rest
      else none
    | .no | .behind =>
      if joining = .behind ∧ (c = '\n' ∨ isBlank c) then joinLines .behind rest
      else if c = '\\' then
        match rest with
        | [] => none
        | d :: rest =>
          if d = '\n' then joinLines .behind rest
          else if isBlank d then joinLines .within rest
          else (joinLines .no rest).map fun joined => c :: d :: joined
      else (joinLines .no rest).map (c :: ·)

/-- The character that a one-letter escape stands for. -/
def unescape? (c : Char) : Option Char :=
  match c with
  | 'b' => some '\x08'
  | 't' => some '\t'
  | 'n' => some '\n'
  | 'f' => some '\x0c'
  | 'r' => some '\r'
  | '"' => some '"'
  | '\\' => some '\\'
  | _ => none

/-- The character whose number is written in hexadecimal digits. -/
def charOfHex? (digits : Text) : Option Char := do
  let value ← Text.ofHex? digits
  if value.isValidChar then some (Char.ofNat value) else none

/-- The text that escapes write. -/
def unescape : Text → Option Text
  | [] => some []
  | '\\' :: 'u' :: a :: b :: c :: d :: rest => do
    let escaped ← charOfHex? [a, b, c, d]
    return escaped :: (← unescape rest)
  | '\\' :: 'U' :: a :: b :: c :: d :: e :: f :: g :: h :: rest => do
    let escaped ← charOfHex? [a, b, c, d, e, f, g, h]
    return escaped :: (← unescape rest)
  | '\\' :: c :: rest => do
    let escaped ← unescape? c
    return escaped :: (← unescape rest)
  | c :: rest => if c = '\\' then none else (unescape rest).map (c :: ·)

/-! ### Strings -/

/-- The rest of a text behind the newline at its front, if there is one. -/
def dropNewline (text : Text) : Text := (newline? text).getD text

/-- Reads a string on one line. -/
def lineString : Reader Text
  | '"' :: rest => do
    let (span, rest) ← lineSpan '"' true rest
    let content ← unescape span
    return (content, rest)
  | '\'' :: rest => lineSpan '\'' false rest
  | _ => none

/-- Reads a string. -/
def string : Reader Text
  | '"' :: '"' :: '"' :: rest => do
    let (span, rest) ← blockSpan '"' true (dropNewline rest)
    let joined ← joinLines .no span
    let content ← unescape joined
    return (content, rest)
  | '\'' :: '\'' :: '\'' :: rest => blockSpan '\'' false (dropNewline rest)
  | text => lineString text

end Toml

end PadGraph
