import PadGraph.Text

/-!
# Configuration

How long an expression may be, and how a graph is reported.

* `Config` — the settings, with their defaults.
* `Config.render` — the settings as a TOML document.
-/

namespace PadGraph

/-- What bounds the expressions that are read. -/
structure Limits where
  /-- The greatest number of bytes of an expression. -/
  maxInputLen : UInt64 := 65536
  deriving DecidableEq, Repr, Inhabited

/-- How a graph is reported. -/
inductive OutputFormat where
  | text
  | json
  deriving DecidableEq, Repr, Inhabited

/-- How a format is named in a configuration. -/
def OutputFormat.name : OutputFormat → Text
  | text => ['t', 'e', 'x', 't']
  | json => ['j', 's', 'o', 'n']

/-- How a format is shown. -/
def OutputFormat.title : OutputFormat → Text
  | text => lit "Text"
  | json => lit "Json"

/-- The format with a given name. -/
def OutputFormat.ofName? (name : Text) : Option OutputFormat :=
  if name = OutputFormat.name text then some text
  else if name = OutputFormat.name json then some json
  else none

/-- How graphs are written. -/
structure OutputSettings where
  format : OutputFormat := .text
  /-- Whether JSON is laid out over lines. -/
  pretty : Bool := true
  deriving DecidableEq, Repr, Inhabited

/-- All settings. -/
structure Config where
  /-- What bounds the expressions that are read. -/
  parser : Limits := {}
  output : OutputSettings := {}
  deriving DecidableEq, Repr, Inhabited

/-- A truth value as it is written. -/
def renderBool : Bool → Text
  | true => ['t', 'r', 'u', 'e']
  | false => ['f', 'a', 'l', 's', 'e']

/-- The number of bytes that a limit allows, in decimal digits. -/
def Limits.shown (limits : Limits) : Text := Text.decimal limits.maxInputLen.toNat

/-- The settings as a document with one table for each group. -/
def Config.render (config : Config) : Text :=
  lit "[parser]\nmax_input_len = " ++ config.parser.shown ++
    lit "\n\n[output]\nformat = \"" ++ config.output.format.name ++
    lit "\"\npretty = " ++ renderBool config.output.pretty ++ ['\n']

end PadGraph
