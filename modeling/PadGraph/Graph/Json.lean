import PadGraph.Graph
import PadGraph.Json.Read

/-!
# Graphs as JSON

A graph is a list of branches, each a list of nodes; a node and an argument are objects with a fixed
order of fields. When read, an object may hold further fields, which are passed over, and a node or
an argument may also be the list of its fields in their order.

* `Graph.toJson`, `Graph.ofJson?` — the JSON value of a graph, and back.
* `Graph.jsonText`, `Graph.ofJsonText?` — the JSON text of a graph, and back.
-/

namespace PadGraph

/-! ### Writing -/

/-- Fields that all have content in their names. -/
def Json.record (fields : List (String × Json)) : Json :=
  .object (fields.map fun (name, value) => (some name.toList, value))

/-- The list of some texts. -/
def Json.texts (items : List Text) : Json := .array (items.map .text)

/-- The JSON value of an argument; a value that is absent is null. -/
def Argument.toJson (argument : Argument) : Json :=
  .record [
    ("key", .text argument.key),
    ("value", match argument.value with
      | some value => .text value
      | none => .null)]

/-- The JSON value of a node. -/
def Node.toJson (node : Node) : Json :=
  .record [
    ("source_labels", .texts node.sourceLabels),
    ("name", .text node.name),
    ("arguments", .array (node.arguments.map Argument.toJson)),
    ("destination_labels", .texts node.destinationLabels)]

/-- The JSON value of a graph. -/
def Graph.toJson (graph : Graph) : Json :=
  .array (graph.map fun branch => .array (branch.map Node.toJson))

/-- The JSON text of a graph, laid out over lines or without any blanks. -/
def Graph.jsonText (graph : Graph) (pretty : Bool) : Text :=
  if pretty then graph.toJson.pretty else graph.toJson.compact

/-! ### Reading -/

namespace Json

/-- The content of a string. -/
def text? : Json → Option Text
  | string content => content
  | _ => none

/-- The items of a list. -/
def items? : Json → Option (List Json)
  | array items => some items
  | _ => none

/-- A list of texts. -/
def texts? (value : Json) : Option (List Text) := value.items?.bind (·.mapM text?)

/-- The value of the field with a given name; `some none` when there is no such field, and no answer
when there are several. -/
def field? (fields : List (Option Text × Json)) (name : String) : Option (Option Json) :=
  match fields.filter fun field => field.1 == some name.toList with
  | [] => some none
  | [field] => some (some field.2)
  | _ => none

/-- The values of the named fields of an object, in the order of the names; a list with just as many
items gives them by position. A field without content in its name refuses the object. -/
def fieldsNamed? (names : List String) : Json → Option (List (Option Json))
  | object fields =>
    if fields.all (·.1.isSome) then names.mapM (field? fields) else none
  | array items => if items.length = names.length then some (items.map some) else none
  | _ => none

end Json

/-- The value of an argument: absent, null, or a string. -/
def Argument.valueOfJson? : Option Json → Option (Option Text)
  | none => some none
  | some .null => some none
  | some value => value.text?.map some

/-- The argument with a given JSON value. -/
def Argument.ofJson? (json : Json) : Option Argument :=
  match json.fieldsNamed? ["key", "value"] with
  | some [some key, value] => do
    let key ← key.text?
    let value ← Argument.valueOfJson? value
    return ⟨key, value⟩
  | _ => none

/-- The node with a given JSON value. -/
def Node.ofJson? (json : Json) : Option Node :=
  match json.fieldsNamed? ["source_labels", "name", "arguments", "destination_labels"] with
  | some [some sources, some name, some arguments, some destinations] => do
    let sources ← sources.texts?
    let name ← name.text?
    let arguments ← arguments.items?
    let arguments ← arguments.mapM Argument.ofJson?
    let destinations ← destinations.texts?
    return ⟨sources, name, arguments, destinations⟩
  | _ => none

/-- The graph with a given JSON value. -/
def Graph.ofJson? (json : Json) : Option Graph :=
  json.items?.bind fun branches =>
    branches.mapM fun branch => branch.items?.bind fun nodes => nodes.mapM Node.ofJson?

/-- The graph that a JSON text writes. -/
def Graph.ofJsonText? (text : Text) : Option Graph := (Json.parse text).bind Graph.ofJson?

end PadGraph
