import PadGraph.Graph.Render

/-!
# The text report

A report lists a graph branch by branch and chain by chain, each part of a node on a line of its
own; lines for parts that a node does not have are left out.

* `Report.nodeLines`, `Report.branchLines` — the lines of a node and of a branch.
* `Report.text` — the report.
-/

namespace PadGraph

namespace Report

/-- A line that is there only when the list that it shows is not empty. -/
def optionalLine {α : Type} (heading : String) (shown : List α → Text) : List α → List Text
  | [] => []
  | items => [heading.toList ++ shown items]

/-- The name under which a node is listed. -/
def displayName (name : Text) : Text := if name.isEmpty then lit "(none)" else name

/-- The lines of the node with a given index in its branch. -/
def nodeLines (index : Nat) (node : Node) : List Text :=
  (lit "  chain " ++ Text.decimal index ++ lit ": " ++ displayName node.name) ::
    (optionalLine "    sources: " renderLabels node.sourceLabels ++
      optionalLine "    arguments: "
        (fun arguments => (lit ", ").intercalate (arguments.map Argument.render)) node.arguments ++
      optionalLine "    destinations: " renderLabels node.destinationLabels)

/-- The lines of the branch with a given index. -/
def branchLines (index : Nat) (branch : Branch) : List Text :=
  (lit "branch " ++ Text.decimal index) :: (branch.mapIdx nodeLines).flatten

/-- The lines of a report, each ended by a newline. -/
def unlines (lines : List Text) : Text := lines.flatMap (· ++ ['\n'])

/-- The text report of a graph. -/
def text (graph : Graph) : Text := unlines (graph.mapIdx branchLines).flatten

end Report

end PadGraph
