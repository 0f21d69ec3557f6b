import PadGraph.Text

/-!
# Reading TOML from the front of a text

A reader takes something off the front of a text and leaves the rest, or does not answer.

* `Toml.Reader` — a reader.
* `Toml.unifyNewlines` — a text with one kind of newline.
* `Toml.skipBlanks`, `Toml.newline?`, `Toml.skipLines`, `Toml.lineEnd?` — what may stand between the
  parts of a document.
* `Toml.Reader.separated` — one or more items with a character between them.
-/

namespace PadGraph

namespace Toml

/-- Takes something off the front of a text, and leaves the rest. -/
abbrev Reader (α : Type) := Text → Option (α × Text)

/-- The blanks within a line. -/
def isBlank (c : Char) : Bool := c == ' ' || c == '\t'

/-- The characters that may stand in comments and strings: all but controls other than the tab. -/
def isVisible (c : Char) : Bool := c == '\t' || (32 ≤ c.toNat && c.toNat ≠ 127)

/-- A text in which every newline is one character: a carriage return directly before one is
dropped. -/
def unifyNewlines : Text → Text
  | '\r' :: '\n' :: rest => '\n' :: unifyNewlines rest
  | c :: rest => c :: unifyNewlines rest
  | [] => []

/-- The rest of a text behind the blanks at its front. -/
def skipBlanks (text : Text) : Text := text.dropWhile isBlank

/-- The rest of a text behind the newline at its front. -/
def newline? : Text → Option Text
  | '\n' :: rest => some rest
  | _ => none

/-- The rest of a text behind the comment at its front, if there is one. -/
def skipComment : Text → Text
  | '#' :: rest => rest.dropWhile isVisible
  | text => text

/-- The rest of a text behind the end of a line: blanks, a comment, and a newline or the end of the
text. -/
def lineEnd? (text : Text) : Option Text :=
  match skipComment (skipBlanks text) with
  | [] => some []
  | text => newline? text

/-- The rest of a text behind blanks, newlines and comments; `comment` tells whether the text begins
inside a comment. -/
def skipLinesFrom (comment : Bool) : Text → Text
  | [] => []
  | '\n' :: rest => skipLinesFrom false rest
  | c :: rest =>
    if comment then if isVisible c then skipLinesFrom true rest else c :: rest
    else if isBlank c then skipLinesFrom false rest
    else if c = '#' then skipLinesFrom true rest
    else c :: rest

/-- The rest of a text behind blanks, newlines and comments. -/
def skipLines (text : Text) : Text := skipLinesFrom false text

/-- The rest of a text behind a given character. -/
def behind? (c : Char) : Text → Option Text
  | d :: rest => if d = c then some rest else none
  | [] => none

/-- The rest of a text behind a given beginning. -/
def behindAll? : (beginning : Text) → Text → Option Text
  | [], text => some text
  | c :: beginning, text => (behind? c text).bind (behindAll? beginning)

/-- One or more items with a separator between them. A separator that no item follows is left. -/
def Reader.separated {α : Type} (item : Reader α) (separator : Char) : Reader (List α) :=
  fun text =>
    match item text with
    | none => none
    | some (first, rest) =>
      match behind? separator rest with
      | none => some ([first], rest)
      | some next =>
        if _h : next.length < text.length then
          match separated item separator next with
          | some (items, last) => some (first :: items, last)
          | none => some ([first], rest)
        else none
termination_by text => text.length
decreasing_by exact _h

end Toml

end PadGraph
