import PadGraph.Json.Lexeme

/-!
# Reading JSON

The lexemes of a text drive a machine with a stack: for each list and object that is open, the stack
holds what has been read of it. The machine has read a value when the stack is empty again.

* `Json.Frame` — a list or an object that is open.
* `Json.Machine` — what may come next, and what is open.
* `Json.Machine.step` — one lexeme.
* `Json.parse` — the value that a text writes.
-/

namespace PadGraph

namespace Json

/-- A list or an object of which a part is being read; what was read before is kept last first. -/
inductive Frame where
  /-- A list and its items. -/
  | array (read : List Json)
  /-- An object, its fields, and the key of the field being read. -/
  | object (read : List (Option Text × Json)) (key : Option Text)
  deriving Repr, Inhabited

/-- What may come next. -/
inductive Machine where
  /-- A value must come. -/
  | needValue (stack : List Frame)
  /-- A list has just been opened: its first item, or its end. -/
  | needFirstItem (stack : List Frame)
  /-- An object has just been opened: its first key, or its end. -/
  | needFirstKey (stack : List Frame)
  /-- A key must come; `read` are the fields before it. -/
  | needKey (read : List (Option Text × Json)) (stack : List Frame)
  /-- The colon behind a key must come. -/
  | needColon (read : List (Option Text × Json)) (key : Option Text) (stack : List Frame)
  /-- A value is complete. -/
  | complete (value : Json) (stack : List Frame)
  deriving Repr, Inhabited

namespace Machine

/-- Starts the value that a lexeme starts. -/
def start (stack : List Frame) : Lexeme → Option Machine
  | .openArray => some (.needFirstItem stack)
  | .openObject => some (.needFirstKey stack)
  | .string content => some (.complete (.string content) stack)
  | .scalar value => some (.complete value stack)
  | _ => none

/-- Goes on behind a complete value: with the next item or field, or with the end of the list or
object that the value stands in. -/
def proceed (value : Json) : List Frame → Lexeme → Option Machine
  | .array read :: stack, .comma => some (.needValue (.array (value :: read) :: stack))
  | .array read :: stack, .closeArray => some (.complete (.array (value :: read).reverse) stack)
  | .object read key :: stack, .comma => some (.needKey ((key, value) :: read) stack)
  | .object read key :: stack, .closeObject =>
    some (.complete (.object ((key, value) :: read).reverse) stack)
  | _, _ => none

/-- Reads one lexeme. -/
def step : Machine → Lexeme → Option Machine
  | .needValue stack, lexeme => start stack lexeme
  | .needFirstItem stack, .closeArray => some (.complete (.array []) stack)
  | .needFirstItem stack, lexeme => start (.array [] :: stack) lexeme
  | .needFirstKey stack, .closeObject => some (.complete (.object []) stack)
  | .needFirstKey stack, .string key => some (.needColon [] key stack)
  | .needFirstKey _, _ => none
  | .needKey read stack, .string key => some (.needColon read key stack)
  | .needKey _ _, _ => none
  | .needColon read key stack, .colon => some (.needValue (.object read key :: stack))
  | .needColon _ _ _, _ => none
  | .complete value stack, lexeme => proceed value stack lexeme

/-- The value that has been read, once nothing is open any more. -/
def result? : Machine → Option Json
  | .complete value [] => some value
  | _ => none

end Machine

/-- The value that a text writes, if it writes exactly one. -/
def parse (text : Text) : Option Json := do
  let lexemes ← lexemes text
  let machine ← lexemes.foldlM Machine.step (.needValue [])
  machine.result?

end Json

end PadGraph
