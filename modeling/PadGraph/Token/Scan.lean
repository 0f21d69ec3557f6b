import PadGraph.Token

/-!
# Scanning a text into tokens

A text is scanned once, from left to right. What the next character means depends only on where
the scan stands: between tokens, behind a backslash, inside a quote, or behind a backslash inside
a quote.

* `Mode` — where a scan stands.
* `Scan.step` — one character.
* `Scan.finish` — the tokens once the text has ended.
* `tokenize` — the tokens of a text.
* `Scan.foldl_step_found`, `tokenize_append` — a scan only ever adds tokens, so the tokens of a
  text are those of its front followed by those of its back, scanned from where the front ended.
-/

namespace PadGraph

/-- Outside quotes, spaces and newlines mean nothing; every other character is significant. -/
def isInsignificant (c : Char) : Bool := c == ' ' || c == '\n'

/-- Where a scan stands. A span that is being read is kept last character first. -/
inductive Mode where
  /-- Between tokens. -/
  | outside
  /-- Behind a backslash outside quotes. -/
  | escape
  /-- Inside a quote, of which `span` has been read. -/
  | quote (span : Text)
  /-- Behind a backslash inside a quote; `span` holds the backslash too. -/
  | quoteEscape (span : Text)
  deriving DecidableEq, Repr, Inhabited

/-- A scan under way: the tokens found so far, last one first, and where it stands. -/
structure Scan where
  /-- The tokens found so far, last one first. -/
  found : List Token := []
  /-- Where the scan stands. -/
  mode : Mode := .outside
  deriving DecidableEq, Repr, Inhabited

namespace Scan

/-- Reads one character. Inside a quote a backslash keeps the next character from closing it, and
both characters stay in the span. -/
def step (s : Scan) (c : Char) : Scan :=
  match s.mode with
  | .outside =>
    if isInsignificant c then s
    else if c = '\'' then { s with mode := .quote [c] }
    else if c = '\\' then { s with mode := .escape }
    else { s with found := .plain c :: s.found }
  | .escape => ⟨.escaped c :: s.found, .outside⟩
  | .quote span =>
    if c = '\'' then ⟨.quoted (c :: span).reverse :: s.found, .outside⟩
    else if c = '\\' then { s with mode := .quoteEscape (c :: span) }
    else { s with mode := .quote (c :: span) }
  | .quoteEscape span => { s with mode := .quote (c :: span) }

/-- The tokens found once the text has ended: a quote still open is one span as far as it goes, and
a backslash with nothing behind it is dropped. -/
def finish (s : Scan) : List Token :=
  match s.mode with
  | .outside => s.found.reverse
  | .escape => s.found.reverse
  | .quote span => (.quoted span.reverse :: s.found).reverse
  | .quoteEscape span => (.quoted span.reverse :: s.found).reverse

end Scan

/-- The scan of a text from its beginning. -/
def scan (text : Text) : Scan := text.foldl Scan.step {}

/-- The tokens of a text. -/
def tokenize (text : Text) : List Token := (scan text).finish

/-! ### A scan only adds tokens -/

namespace Scan

/-- A step adds to the tokens found and otherwise depends on the mode alone. -/
theorem step_found (found : List Token) (mode : Mode) (c : Char) :
    step ⟨found, mode⟩ c = ⟨(step ⟨[], mode⟩ c).found ++ found, (step ⟨[], mode⟩ c).mode⟩ := by
  cases mode <;> simp only [step] <;> (repeat' split) <;> simp

/-- A run of steps adds to the tokens found and otherwise depends on the mode alone. -/
theorem foldl_step_found (text : Text) (found : List Token) (mode : Mode) :
    text.foldl step ⟨found, mode⟩ =
      ⟨(text.foldl step ⟨[], mode⟩).found ++ found, (text.foldl step ⟨[], mode⟩).mode⟩ := by
  induction text generalizing found mode with
  | nil => simp
  | cons c rest ih =>
      rw [List.foldl_cons, List.foldl_cons, step_found, ih, ih (step ⟨[], mode⟩ c).found]
      simp

/-- Tokens found earlier come first. -/
theorem finish_found (found : List Token) (mode : Mode) :
    finish ⟨found, mode⟩ = found.reverse ++ finish ⟨[], mode⟩ := by
  cases mode <;> simp [finish]

end Scan

/-- The tokens of a text are those found in its front, followed by those of its back scanned from
where the front ended. -/
theorem tokenize_append (x y : Text) :
    tokenize (x ++ y) =
      (scan x).found.reverse ++ (y.foldl Scan.step ⟨[], (scan x).mode⟩).finish := by
  rw [tokenize, scan, List.foldl_append]
  show (y.foldl Scan.step (scan x)).finish = _
  rw [show scan x = ⟨(scan x).found, (scan x).mode⟩ from rfl, Scan.foldl_step_found,
    Scan.finish_found, List.reverse_append, List.append_assoc,
    ← Scan.finish_found]

end PadGraph
