import PadGraph.Toml.DateTime
import PadGraph.Toml.Number
import PadGraph.Toml.Quoted
import PadGraph.Toml.Value

/-!
# TOML statements

A document is a list of statements, each on a line of its own: an entry, a header, or nothing.

* `Toml.Key` — a dotted key.
* `Toml.value` — reads a value, whose lists and tables are nested at most as deep as allowed.
* `Toml.Statement`, `Toml.statements` — the statements of a text.
-/

namespace PadGraph

namespace Toml

/-! ### Keys -/

/-- A dotted key: the parts before the last dot, and the last part. -/
structure Key where
  /-- The parts before the last dot. -/
  path : List Text
  last : Text
  deriving DecidableEq, Repr, Inhabited

/-- The characters of a part of a key that needs no quotes. -/
def isBareKeyChar (c : Char) : Bool := c.isAlphanum || c == '-' || c == '_'

/-- The greatest number of parts of a dotted key. -/
def maxKeyParts : Nat := 79

/-- Reads one part of a key, with the blanks around it. -/
def keyPart : Reader Text := fun text => do
  let text := skipBlanks text
  let (part, rest) ← match text.takeWhile isBareKeyChar with
    | [] => lineString text
    | part => some (part, text.dropWhile isBareKeyChar)
  return (part, skipBlanks rest)

/-- Reads a dotted key, with the blanks around it. -/
def key : Reader Key := fun text => do
  let (parts, rest) ← Reader.separated keyPart '.' text
  let last ← parts.getLast?
  if parts.length ≤ maxKeyParts then some (⟨parts.dropLast, last⟩, rest) else none

/-! ### Values -/

/-- What was read off the front of a text, given what is left of it. -/
def consumed (text rest : Text) : Text := text.take (text.length - rest.length)

/-- Reads a date, a time or a number. -/
def number : Reader Value := fun text =>
  match dateTime text with
  | some (_, rest) => some (.dateTime (consumed text rest), rest)
  | none =>
    match float text with
    | some (_, rest) => some (.float (consumed text rest), rest)
    | none => (integer text).map fun (value, rest) => (.integer value, rest)

/-- Reads a truth value. -/
def boolean : Reader Value := fun text =>
  match behindAll? ['t', 'r', 'u', 'e'] text with
  | some rest => some (.boolean true, rest)
  | none => (behindAll? ['f', 'a', 'l', 's', 'e'] text).map (.boolean false, ·)

/-- Reads the items of a list and its closing bracket. Items stand between commas, there may be a
comma behind the last, and blanks, newlines and comments may stand around each. -/
def listItems (item : Reader Value) : Reader (List Value) := fun text =>
  let padded : Reader Value := fun text =>
    (item (skipLines text)).map fun (value, rest) => (value, skipLines rest)
  match Reader.separated padded ',' text with
  | none => (behind? ']' (skipLines text)).map ([], ·)
  | some (items, rest) =>
    let rest := (behind? ',' rest).getD rest
    (behind? ']' (skipLines rest)).map (items, ·)

/-- Reads a key, an equals sign and a value. -/
def pair (item : Reader Value) : Reader (Key × Value) := fun text => do
  let (key, text) ← key text
  let text ← behind? '=' text
  let (value, rest) ← item (skipBlanks text)
  return ((key, value), rest)

/-- The table with the given entries. -/
def Entries.ofPairs? (pairs : List (Key × Value)) : Option Entries :=
  pairs.foldlM (fun entries (key, value) => Entries.put entries key.path key.last value) []

/-- Reads the entries of a table on one line and its closing brace. -/
def tableEntries (item : Reader Value) : Reader Entries := fun text => do
  let padded : Reader (Key × Value) := fun text =>
    (pair item text).map fun (entry, rest) => (entry, skipBlanks rest)
  let (pairs, rest) := (Reader.separated padded ',' text).getD ([], text)
  let rest ← behind? '\x7d' (skipBlanks rest)
  let entries ← Entries.ofPairs? pairs
  return (entries, rest)

/-- How deep lists and tables within braces may be nested. -/
def maxDepth : Nat := 79

/-- Reads a value in which lists and tables are nested at most `depth` levels deep. -/
def valueWithin (depth : Nat) : Reader Value
  | [] => none
  | c :: rest =>
    if c = '"' ∨ c = '\'' then
      (string (c :: rest)).map fun (content, rest) => (.string content, rest)
    else if c = '[' then
      match depth with
      | 0 => none
      | depth + 1 =>
        (listItems (valueWithin depth) rest).map fun (items, rest) => (.array items, rest)
    else if c = '\x7b' then
      match depth with
      | 0 => none
      | depth + 1 =>
        (tableEntries (valueWithin depth) rest).map fun (entries, rest) =>
          (.table .braces entries, rest)
    else if c = 't' ∨ c = 'f' then boolean (c :: rest)
    else number (c :: rest)

/-- Reads a value. -/
def value : Reader Value := valueWithin maxDepth

/-! ### Statements -/

/-- One line of a document. -/
inductive Statement where
  | blank
  /-- An entry of the table whose header came last. -/
  | entry (key : Key) (value : Value)
  | table (key : Key)
  /-- The header of the next element of a list of tables. -/
  | element (key : Key)
  deriving Repr, Inhabited

/-- Reads a header behind its opening bracket. -/
def header : Reader Statement
  | '[' :: text => do
    let (key, text) ← key text
    let rest ← behindAll? [']', ']'] text
    return (.element key, rest)
  | text => do
    let (key, text) ← key text
    let rest ← behind? ']' text
    return (.table key, rest)

/-- Reads the content of a line. -/
def content : Reader Statement := fun text =>
  match text with
  | '[' :: rest => header rest
  | _ => (pair value text).map fun ((key, value), rest) => (.entry key value, rest)

/-- Reads a line with its end. -/
def statement : Reader Statement := fun text =>
  let text := skipBlanks text
  match lineEnd? text with
  | some rest => some (.blank, rest)
  | none => do
    let (statement, rest) ← content text
    let rest ← lineEnd? rest
    return (statement, rest)

/-- The statements of a text. -/
def statements (text : Text) : Option (List Statement) :=
  match text with
  | [] => some []
  | c :: rest =>
    match statement (c :: rest) with
    | none => none
    | some (first, behind) =>
      if _h : behind.length < (c :: rest).length then (statements behind).map (first :: ·) else none
termination_by text.length
decreasing_by exact _h

end Toml

end PadGraph
