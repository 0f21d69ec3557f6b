import PadGraph.Filter

/-!
# Filter graphs

A graph is a list of branches and a branch a list of nodes, one for each chain. Every string of a
node is kept as it was written, escapes and quotes included.

* `Node` — one filter with its labels.
* `Graph` — branches of nodes.
* `Graph.summary` — how many branches and chains there are.
-/

namespace PadGraph

/-- One filter of a graph with the labels that wire it. -/
structure Node where
  /-- Labels of the pads that feed the filter. -/
  sourceLabels : List Text := []
  /-- The filter's name; empty when a chain holds labels alone. -/
  name : Text := []
  /-- The filter's arguments, in order. -/
  arguments : List Argument := []
  /-- Labels of the pads that the filter feeds. -/
  destinationLabels : List Text := []
  deriving DecidableEq, Repr, Inhabited

/-- The nodes of one branch, one for each chain. -/
abbrev Branch := List Node

/-- A filter graph. -/
abbrev Graph := List Branch

namespace Node

/-- A node of which only the name is given. -/
def named (name : Text) : Node := { name }

/-- The first argument with a given key. -/
def argument? (node : Node) (key : Text) : Option Argument :=
  node.arguments.find? fun a => a.key == key

/-- The value of the first argument with a given key, if that one has a value. -/
def valueOf? (node : Node) (key : Text) : Option Text :=
  (node.argument? key).bind (·.value)

/-- Whether no label leads into the node. -/
def isSource (node : Node) : Bool := node.sourceLabels.isEmpty

/-- Whether no label leads out of the node. -/
def isSink (node : Node) : Bool := node.destinationLabels.isEmpty

end Node

namespace Graph

/-- How many chains a graph has over all its branches. -/
def chainCount (graph : Graph) : Nat := graph.foldl (fun count branch => count + branch.length) 0

/-- A count with its noun. -/
def counted (n : Nat) (one many : String) : Text :=
  Text.decimal n ++ ' ' :: (if n = 1 then one else many).toList

/-- The counts of a graph on one line. -/
def summary (graph : Graph) : Text :=
  counted graph.length "branch" "branches" ++ lit ", " ++
    counted graph.chainCount "chain" "chains"

end Graph

end PadGraph
