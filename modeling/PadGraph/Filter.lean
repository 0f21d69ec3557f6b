import PadGraph.Token.Split

/-!
# Filters

A filter reads `name` or `name=argument:argument:…`, and an argument reads `key` or `key=value`.
Only plain `=` and `:` structure it.

* `Argument` — a key with or without a value.
* `Argument.ofTokens?` — the argument that a piece between two colons writes.
* `FilterSpec`, `FilterSpec.ofTokens` — a filter's name and arguments.
-/

namespace PadGraph

/-- One argument of a filter. -/
structure Argument where
  /-- The option's key, or a positional value when there is no `value`. -/
  key : Text
  /-- The option's value, if one is given. -/
  value : Option Text
  deriving DecidableEq, Repr, Inhabited

namespace Argument

/-- An argument that is being read, piece by piece between its equals signs. -/
structure Draft where
  /-- The first non-empty piece. -/
  key : Option Text := none
  /-- The latest non-empty piece behind the first. -/
  value : Option Text := none
  /-- The piece being read, last character first. -/
  piece : Text := []
  deriving DecidableEq, Repr, Inhabited

namespace Draft

/-- Ends the piece being read: the first non-empty one is the key, each later one replaces the
value, and an empty one is dropped. -/
def close (d : Draft) : Draft :=
  match d.piece, d.key with
  | [], _ => d
  | c :: piece, none => { key := some (c :: piece).reverse, value := d.value }
  | c :: piece, some key => { key := some key, value := some (c :: piece).reverse }

/-- Reads one token. -/
def read (d : Draft) (t : Token) : Draft :=
  if t.isPlain '=' then d.close else { d with piece := t.text.reverse ++ d.piece }

end Draft

/-- The argument written by a piece between two colons; a piece without a key writes none. -/
def ofTokens? (tokens : List Token) : Option Argument :=
  let draft := (tokens.foldl Draft.read {}).close
  draft.key.map fun key => ⟨key, draft.value⟩

end Argument

/-- A filter's name with its arguments in order. -/
structure FilterSpec where
  /-- The name, which may be empty. -/
  name : Text
  /-- The arguments in the order in which they are written. -/
  arguments : List Argument
  deriving DecidableEq, Repr, Inhabited

/-- The filter written by `tokens`: the name runs up to the first plain `=`, and each piece behind
it is an argument. -/
def FilterSpec.ofTokens (tokens : List Token) : FilterSpec where
  name := render (tokens.takeWhile (!·.isPlain '='))
  arguments :=
    (PadGraph.arguments (tokens.dropWhile (!·.isPlain '=')).tail).filterMap Argument.ofTokens?

end PadGraph
