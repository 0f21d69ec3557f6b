import PadGraph.Config
import PadGraph.Toml.Document

/-!
# Reading a configuration

A configuration is a TOML document with the tables `parser` and `output`. Either may be left out,
and so may their entries; entries with other names mean nothing. A table may also be given as the list
of its entries in their order, of which the last ones may be left out.

* `Config.Fault` — why a text is no configuration.
* `Config.read` — the configuration that a text writes.
-/

namespace PadGraph

namespace Config

/-- Why a text is no configuration. -/
inductive Fault where
  | notToml
  /-- The setting has a value of another kind than it should. -/
  | mistyped (setting : String)
  deriving DecidableEq, Repr, Inhabited

/-- The wording of a fault. -/
def Fault.message : Fault → Text
  | notToml => lit "invalid TOML document"
  | mistyped setting => lit "invalid value for " ++ setting.toList

/-- The entries of a group of settings, by name: of a table, or of a list by position. A date or a
time is a group that names no setting, so every setting in it keeps its default. -/
def group? (names : List String) : Toml.Value → Option Toml.Entries
  | .table _ entries => some entries
  | .array items => some ((names.map String.toList).zip items)
  | .tables elements =>
    some ((names.map String.toList).zip (elements.map (Toml.Value.table .header)))
  | .dateTime _ => some []
  | _ => none

/-- The limit that a value gives: an integer that is not negative. -/
def limit? : Toml.Value → Option UInt64
  | .integer n => if 0 ≤ n then some n.toUInt64 else none
  | _ => none

/-- Whether a value holds nothing. -/
def isVoid : Toml.Value → Bool
  | .table _ [] => true
  | .array [] => true
  | .tables [] => true
  | _ => false

/-- The format that a value gives: its name, or a table whose only entry has its name and holds
nothing. -/
def format? : Toml.Value → Option OutputFormat
  | .string name => OutputFormat.ofName? name
  | .table _ [(name, value)] => if isVoid value then OutputFormat.ofName? name else none
  | _ => none

/-- The truth value that a value gives. -/
def bool? : Toml.Value → Option Bool
  | .boolean value => some value
  | _ => none

/-- The setting with a given name, or its default when it is left out. -/
def setting {α : Type} (entries : Toml.Entries) (name : String) (read : Toml.Value → Option α)
    (default : α) : Except Fault α :=
  match entries.lookup name.toList with
  | none => .ok default
  | some value =>
    match read value with
    | some setting => .ok setting
    | none => .error (.mistyped name)

/-- The limits that a group of settings gives. -/
def limitsOf (entries : Toml.Entries) : Except Fault Limits := do
  let maxInputLen ← setting entries "max_input_len" limit? ({} : Limits).maxInputLen
  return { maxInputLen }

/-- The output settings that a group of settings gives. -/
def outputOf (entries : Toml.Entries) : Except Fault OutputSettings := do
  let format ← setting entries "format" format? ({} : OutputSettings).format
  let pretty ← setting entries "pretty" bool? ({} : OutputSettings).pretty
  return { format, pretty }

/-- The configuration that the table of a document gives. -/
def ofEntries (entries : Toml.Entries) : Except Fault Config := do
  let parser ← setting entries "parser" (group? ["max_input_len"]) []
  let output ← setting entries "output" (group? ["format", "pretty"]) []
  return { parser := ← limitsOf parser, output := ← outputOf output }

/-- The configuration that a text writes. -/
def read (text : Text) : Except Fault Config :=
  match Toml.parse text with
  | none => .error .notToml
  | some entries => ofEntries entries

end Config

end PadGraph
