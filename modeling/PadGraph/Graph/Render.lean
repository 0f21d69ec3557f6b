import PadGraph.Graph

/-!
# Writing a graph

A node is written `[source]…name=argument:…[destination]…`, the nodes of a branch are joined by `,`
and the branches by `;`. A graph that was read and is written again reads as the same graph.

* `Node.render` — the written form of a node.
* `Branch.render`, `Graph.render` — the written form of a branch and of a graph.
-/

namespace PadGraph

/-- The written form of a label. -/
def renderLabel (label : Text) : Text := '[' :: label ++ [']']

/-- The written form of labels, one behind the other. -/
def renderLabels (labels : List Text) : Text := labels.flatMap renderLabel

/-- The written form of an argument. -/
def Argument.render (argument : Argument) : Text :=
  match argument.value with
  | some value => argument.key ++ '=' :: value
  | none => argument.key

namespace Node

/-- Whether a node without name and arguments needs an equals sign in its place: without one the
chain would vanish, or its destination labels would be read as source labels. -/
def needsMark (node : Node) : Bool :=
  node.name.isEmpty && (node.sourceLabels.isEmpty || !node.destinationLabels.isEmpty)

/-- The written form of a node's arguments with the equals sign before them. -/
def renderArguments (node : Node) : Text :=
  match node.arguments with
  | [] => if node.needsMark then ['='] else []
  | arguments => '=' :: [':'].intercalate (arguments.map Argument.render)

/-- The written form of a node. -/
def render (node : Node) : Text :=
  renderLabels node.sourceLabels ++ node.name ++ node.renderArguments ++
    renderLabels node.destinationLabels

end Node

/-- The written form of a branch; one without nodes is a lone comma, so that it is read again. -/
def Branch.render (branch : Branch) : Text :=
  match branch with
  | [] => [',']
  | nodes => [','].intercalate (nodes.map Node.render)

/-- The written form of a graph. -/
def Graph.render (graph : Graph) : Text := [';'].intercalate (graph.map Branch.render)

end PadGraph
