import PadGraph.Token.Scan

/-!
# Scanning with flags

The rules of scanning can be told with two flags and a buffer instead of a mode: whether the next
character is escaped, whether the scan is inside a quote, and what has been read of the span. All
combinations of the two flags occur, and they are the four modes.

* `FlagScan`, `FlagScan.step`, `FlagScan.finish` — the scan with flags.
* `FlagScan.Agrees` — when a scan with flags and a scan with modes stand at the same place.
* `Agrees.step`, `Agrees.foldl`, `Agrees.finish` — they stay together and find the same tokens.
* **`tokenize_eq_flagTokens`** — the tokens of a text are those that the flags find.
-/

namespace PadGraph

/-- A scan under way, told with flags. -/
structure FlagScan where
  /-- Whether a backslash stands before the next character. -/
  escaped : Bool := false
  /-- Whether a quote has been opened and not closed. -/
  quoted : Bool := false
  /-- What has been read of the span, its opening quote included. -/
  buffer : Text := []
  /-- The tokens found so far. -/
  found : List Token := []
  deriving DecidableEq, Repr, Inhabited

namespace FlagScan

/-- Reads one character. An escaped one is a token of its own, or within quotes belongs to the span
together with its backslash. A quote opens a span or closes it, and only outside quotes do spaces
and newlines mean nothing. -/
def step (s : FlagScan) (c : Char) : FlagScan :=
  if s.escaped then
    if s.quoted then { s with escaped := false, buffer := s.buffer ++ ['\\', c] }
    else { s with escaped := false, found := s.found ++ [.escaped c] }
  else if c = '\\' then { s with escaped := true }
  else if c = '\'' then
    if s.quoted then
      { s with quoted := false, buffer := [], found := s.found ++ [.quoted (s.buffer ++ [c])] }
    else { s with quoted := true, buffer := [c] }
  else if s.quoted then { s with buffer := s.buffer ++ [c] }
  else if c = ' ' ∨ c = '\n' then s
  else { s with found := s.found ++ [.plain c] }

/-- The tokens once the text has ended. A span that is still open is one token, with the backslash
that ends it if one does; a backslash outside quotes is dropped. -/
def finish (s : FlagScan) : List Token :=
  if s.quoted then s.found ++ [.quoted (s.buffer ++ if s.escaped then ['\\'] else [])]
  else s.found

end FlagScan

/-- The tokens that a scan with flags finds in a text. -/
def flagTokens (text : Text) : List Token := (text.foldl FlagScan.step {}).finish

namespace FlagScan

/-- A scan with flags and one with modes stand at the same place: each mode is one setting of the
flags, and the span that is being read is the buffer. -/
inductive Agrees : FlagScan → Scan → Prop
  | outside (found : List Token) : Agrees ⟨false, false, [], found⟩ ⟨found.reverse, .outside⟩
  | escape (found : List Token) : Agrees ⟨true, false, [], found⟩ ⟨found.reverse, .escape⟩
  | quote (buffer : Text) (found : List Token) :
      Agrees ⟨false, true, buffer, found⟩ ⟨found.reverse, .quote buffer.reverse⟩
  | quoteEscape (buffer : Text) (found : List Token) :
      Agrees ⟨true, true, buffer, found⟩ ⟨found.reverse, .quoteEscape ('\\' :: buffer.reverse)⟩

namespace Agrees

variable {f : FlagScan} {s : Scan}

/-- What is found is added at the end on the one side, and at the front on the other. -/
theorem outside_concat (found : List Token) (t : Token) :
    Agrees ⟨false, false, [], found ++ [t]⟩ ⟨t :: found.reverse, .outside⟩ := by
  have h := outside (found ++ [t])
  rwa [List.reverse_append] at h

theorem quote_append (buffer more : Text) (found : List Token) :
    Agrees ⟨false, true, buffer ++ more, found⟩
      ⟨found.reverse, .quote (more.reverse ++ buffer.reverse)⟩ := by
  have h := quote (buffer ++ more) found
  rwa [List.reverse_append] at h

theorem step (h : Agrees f s) (c : Char) : Agrees (f.step c) (s.step c) := by
  cases h with
  | outside found =>
      by_cases hs : c = '\\'
      · subst hs
        exact .escape found
      by_cases hq : c = '\''
      · subst hq
        exact .quote ['\''] found
      by_cases hi : c = ' ' ∨ c = '\n'
      · have hblank : isInsignificant c = true := by simpa [isInsignificant] using hi
        simpa [FlagScan.step, Scan.step, hs, hq, hi, hblank] using Agrees.outside found
      · have hblank : isInsignificant c = false := by simpa [isInsignificant] using hi
        simpa [FlagScan.step, Scan.step, hs, hq, hi, hblank] using outside_concat found (.plain c)
  | escape found => exact outside_concat found (.escaped c)
  | quote buffer found =>
      by_cases hs : c = '\\'
      · subst hs
        exact .quoteEscape buffer found
      by_cases hq : c = '\''
      · subst hq
        have hclosed := outside_concat found (.quoted (buffer ++ ['\'']))
        simpa [FlagScan.step, Scan.step] using hclosed
      · have hgrown := quote_append buffer [c] found
        simpa [FlagScan.step, Scan.step, hs, hq] using hgrown
  | quoteEscape buffer found => exact quote_append buffer ['\\', c] found

theorem foldl (h : Agrees f s) (text : Text) :
    Agrees (text.foldl FlagScan.step f) (text.foldl Scan.step s) := by
  induction text generalizing f s with
  | nil => exact h
  | cons c rest ih => exact ih (h.step c)

theorem finish (h : Agrees f s) : f.finish = s.finish := by
  cases h <;> simp [FlagScan.finish, Scan.finish]

end Agrees

end FlagScan

/-- **Flags and modes find the same tokens.** -/
theorem tokenize_eq_flagTokens (text : Text) : tokenize text = flagTokens text := by
  have hstart : FlagScan.Agrees {} {} := .outside []
  have hend := hstart.foldl text
  exact hend.finish.symm

end PadGraph
