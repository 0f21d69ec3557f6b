import PadGraph.Chain
import PadGraph.Graph
import PadGraph.Token.Scan

/-!
# From a text to a graph

A text is scanned, cut into branches and those into chains, and each chain gives one definition.
What a definition is, is left open: anything that can be given labels, a name and arguments. A
factory supplies one for each chain, the factory and what it supplies may share a state, and the
first chain that cannot be read ends the parse.

* `Definition` — what can be filled with the parts of a chain.
* `Definition.fill` — the four settings in their order.
* `parseWith` — a text read into definitions of any kind.
* `parse` — a text read into a graph.
-/

namespace PadGraph

/-- What can be filled with the parts of a chain. A setting may use and change a state that it shares
with others. -/
class Definition (σ δ : Type) where
  setSourceLabels : List Text → δ → StateM σ δ
  setDestinationLabels : List Text → δ → StateM σ δ
  setName : Text → δ → StateM σ δ
  setArguments : List Argument → δ → StateM σ δ

/-- A node is set in place, and the state stays as it is. -/
instance {σ : Type} : Definition σ Node where
  setSourceLabels labels node := return { node with sourceLabels := labels }
  setDestinationLabels labels node := return { node with destinationLabels := labels }
  setName name node := return { node with name }
  setArguments arguments node := return { node with arguments }

/-- Fills a definition with the parts of a chain: source labels, destination labels, name and
arguments, in this order. -/
def Definition.fill {σ δ : Type} [Definition σ δ] (parts : ChainParts) (definition : δ) :
    StateM σ δ := do
  let spec := FilterSpec.ofTokens parts.filter
  let definition ← setSourceLabels parts.sourceLabels definition
  let definition ← setDestinationLabels parts.destinationLabels definition
  let definition ← setName spec.name definition
  setArguments spec.arguments definition

/-- The chains of a text, branch by branch. -/
def chainsOf (tokens : List Token) : List (List (List Token)) := (branches tokens).map chains

section Assembly

variable {σ δ : Type} [Definition σ δ]

/-- Reads one chain. The factory is asked only for a chain that can be cut into its parts. -/
def define (factory : StateM σ δ) (chain : List Token) : ExceptT ChainError (StateM σ) δ := do
  let parts ← ExceptT.mk (pure (decompose chain))
  let blank ← ExceptT.lift factory
  ExceptT.lift (Definition.fill parts blank)

/-- Reads the chains of a graph in order, up to the first that cannot be read. What was done to the
state up to then stays done. -/
def assemble (factory : StateM σ δ) (graph : List (List (List Token))) :
    ExceptT ChainError (StateM σ) (List (List δ)) :=
  graph.mapM fun branch => branch.mapM (define factory)

/-- Reads a text into definitions that a factory supplies. -/
def parseWith (factory : StateM σ δ) (text : Text) :
    ExceptT ChainError (StateM σ) (List (List δ)) :=
  assemble factory (chainsOf (tokenize text))

end Assembly

/-- Reads a text into a graph. -/
def parse (text : Text) : Except ChainError Graph :=
  ((parseWith (pure {} : StateM Unit Node) text).run.run ()).1

end PadGraph
