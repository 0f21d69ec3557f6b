import PadGraph.Text

/-!
# Tokens

An expression is read as a list of tokens. Only a plain character can separate, open or close
anything; an escaped character and a quoted span are opaque, whatever they contain.

* `Token` — a plain character, an escaped character or a quoted span.
* `Token.isPlain` — whether a token is one given character with its structural meaning.
* `Token.text` — how a token is written.
* `render` — how a list of tokens is written, with nothing between them.
-/

namespace PadGraph

/-- One significant unit of an expression. -/
inductive Token where
  /-- An ordinary character, which may be a separator or a bracket. -/
  | plain (c : Char)
  /-- A character written behind a backslash. -/
  | escaped (c : Char)
  /-- A quoted span as it is written, its quotes included. -/
  | quoted (span : Text)
  deriving DecidableEq, Repr, Inhabited

namespace Token

/-- Whether the token is the plain character `c`. -/
def isPlain (c : Char) : Token → Bool
  | plain d => d == c
  | escaped _ => false
  | quoted _ => false

/-- Whether the token is an escaped character. -/
def isEscaped : Token → Bool
  | escaped _ => true
  | _ => false

/-- Whether the token is a quoted span. -/
def isQuoted : Token → Bool
  | quoted _ => true
  | _ => false

/-- The written form of a token: an escaped character gets its backslash back. -/
def text : Token → Text
  | plain c => [c]
  | escaped c => ['\\', c]
  | quoted span => span

end Token

/-- The written form of a list of tokens. -/
def render (tokens : List Token) : Text := tokens.flatMap Token.text

@[simp] theorem render_nil : render [] = [] := rfl

@[simp] theorem render_cons (t : Token) (ts : List Token) :
    render (t :: ts) = t.text ++ render ts := rfl

@[simp] theorem render_append (ts us : List Token) :
    render (ts ++ us) = render ts ++ render us := by
  simp [render]

end PadGraph
