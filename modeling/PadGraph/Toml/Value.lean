import PadGraph.Text

/-!
# TOML values

A document is a table. Tables come about in several ways, and how a table came about decides whether
something may still be added to it.

* `Toml.Value` — a value; `Toml.Origin` — how a table came about.
* `Toml.Entries` — the entries of a table, in the order in which they were given.
* `Toml.Entries.put` — adds a value under a dotted key.
* `Toml.Entries.within` — changes the table that a header's leading keys name.
-/

namespace PadGraph

namespace Toml

/-- How a table came about. -/
inductive Origin where
  /-- It was written between braces, and is complete. -/
  | braces
  /-- It has a header of its own, or is the document itself. -/
  | header
  /-- It was named in the header of a table inside it, and may still get a header of its own. -/
  | implied
  /-- It was named in a dotted key, and may get more entries from dotted keys. -/
  | dotted
  deriving DecidableEq, Repr, Inhabited

/-- A TOML value. -/
inductive Value where
  | string (content : Text)
  /-- An integer, which has 64 bits and a sign. -/
  | integer (value : Int64)
  /-- A floating-point number, as it is written. -/
  | float (literal : Text)
  | boolean (value : Bool)
  /-- A date, a time or both, as they are written. -/
  | dateTime (literal : Text)
  /-- A list between brackets. -/
  | array (items : List Value)
  | table (origin : Origin) (entries : List (Text × Value))
  /-- The tables under headers in double brackets, in order. -/
  | tables (elements : List (List (Text × Value)))
  deriving Repr, Inhabited

/-- The entries of a table. -/
abbrev Entries := List (Text × Value)

namespace Entries

/-- Puts a value in the place of the one with the same key, or behind all others. -/
def set (key : Text) (value : Value) : Entries → Entries
  | [] => [(key, value)]
  | entry :: entries =>
    if entry.1 = key then (key, value) :: entries else entry :: set key value entries

/-- Adds a value under a new key. -/
def add (entries : Entries) (key : Text) (value : Value) : Option Entries :=
  match entries.lookup key with
  | none => some (entries ++ [(key, value)])
  | some _ => none

/-- Adds a value under the key `path.key`. The tables on the way are made where they are missing;
those that are there must have been implied by headers or dotted keys, and the last of them by
dotted keys. -/
def put (entries : Entries) (path : List Text) (key : Text) (value : Value) : Option Entries :=
  match path with
  | [] => entries.add key value
  | part :: path =>
    match entries.lookup part with
    | none => do
      let inner ← put [] path key value
      return entries.set part (.table .dotted inner)
    | some (.table .dotted inner) => do
      let inner ← put inner path key value
      return entries.set part (.table .dotted inner)
    | some (.table .implied inner) =>
      if path.isEmpty then none
      else do
        let inner ← put inner path key value
        return entries.set part (.table .implied inner)
    | some (.tables elements) =>
      match elements.getLast? with
      | none => none
      | some last =>
        if path.isEmpty then none
        else do
          let last ← put last path key value
          return entries.set part (.tables (elements.dropLast ++ [last]))
    | some _ => none

/-- Changes the table that the leading keys of a header name. The tables on the way are made where
they are missing; a list of tables stands for its last element. -/
def within (entries : Entries) (path : List Text) (change : Entries → Option Entries) :
    Option Entries :=
  match path with
  | [] => change entries
  | part :: path =>
    match entries.lookup part with
    | none => do
      let inner ← within [] path change
      return entries.set part (.table .implied inner)
    | some (.table .braces _) => none
    | some (.table origin inner) => do
      let inner ← within inner path change
      return entries.set part (.table origin inner)
    | some (.tables elements) =>
      match elements.getLast? with
      | none => none
      | some last => do
        let last ← within last path change
        return entries.set part (.tables (elements.dropLast ++ [last]))
    | some _ => none

end Entries

end Toml

end PadGraph
