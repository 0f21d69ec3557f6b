import PadGraph.Toml.Statement

/-!
# TOML documents

The statements of a document are taken section by section: a header and the entries up to the next
one. Each section is put into the table that the sections before it have made.

* `Toml.Section`, `Toml.sections` — the sections of a document.
* `Toml.Section.addTo` — puts a section into a table.
* `Toml.parse` — the table that a text writes.
-/

namespace PadGraph

namespace Toml

/-- What heads a section. -/
inductive Heading where
  /-- Nothing: the entries before the first header. -/
  | document
  | table (key : Key)
  | element (key : Key)
  deriving DecidableEq, Repr, Inhabited

/-- A heading with the entries up to the next. -/
structure Section where
  heading : Heading
  pairs : List (Key × Value)
  deriving Repr, Inhabited

/-- The first section under a given heading, and the sections behind it. -/
def sectionsUnder (heading : Heading) : List Statement → Section × List Section
  | [] => (⟨heading, []⟩, [])
  | .blank :: rest => sectionsUnder heading rest
  | .entry key value :: rest =>
    let (first, behind) := sectionsUnder heading rest
    (⟨first.heading, (key, value) :: first.pairs⟩, behind)
  | .table key :: rest =>
    let (first, behind) := sectionsUnder (.table key) rest
    (⟨heading, []⟩, first :: behind)
  | .element key :: rest =>
    let (first, behind) := sectionsUnder (.element key) rest
    (⟨heading, []⟩, first :: behind)

/-- The sections of a document; the first is the one without a header. -/
def sections (statements : List Statement) : List Section :=
  let (first, behind) := sectionsUnder .document statements
  first :: behind

/-- Adds entries to a table. -/
def Entries.putAll (entries : Entries) (pairs : List (Key × Value)) : Option Entries :=
  pairs.foldlM (fun entries (key, value) => entries.put key.path key.last value) entries

namespace Section

/-- Puts a section into the table that the sections before it have made. A table may have only one
header, and none when dotted keys or braces have made it. -/
def addTo (entries : Entries) (part : Section) : Option Entries :=
  match part.heading with
  | .document => entries.putAll part.pairs
  | .table key =>
    entries.within key.path fun parent =>
      match parent.lookup key.last with
      | none => do
        let inner ← Entries.putAll [] part.pairs
        return parent.set key.last (.table .header inner)
      | some (.table .implied inner) => do
        let inner ← Entries.putAll inner part.pairs
        return parent.set key.last (.table .header inner)
      | some _ => none
  | .element key =>
    entries.within key.path fun parent =>
      match parent.lookup key.last with
      | none => do
        let inner ← Entries.putAll [] part.pairs
        return parent.set key.last (.tables [inner])
      | some (.tables elements) => do
        let inner ← Entries.putAll [] part.pairs
        return parent.set key.last (.tables (elements ++ [inner]))
      | some _ => none

end Section

/-- The table that the statements of a document make. -/
def ofStatements (statements : List Statement) : Option Entries :=
  (sections statements).foldlM Section.addTo []

/-- The mark that may stand at the very beginning of a text. -/
def byteOrderMark : Char := '\ufeff'

/-- The table that a text writes. -/
def parse (text : Text) : Option Entries := do
  let statements ← statements (unifyNewlines ((behind? byteOrderMark text).getD text))
  ofStatements statements

end Toml

end PadGraph
