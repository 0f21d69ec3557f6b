import Mathlib.Tactic.MkIffOfInductiveProp
import PadGraph.Graph.Render
import PadGraph.Proofs.Filter.Pieces

/-!
# Canonical graphs

A graph may hold any texts, but only some of them are found again where they are written. Which ones
these are is said here of the texts of a graph, one by one, and of the place where it ends.

* `Text.Verbatim`, `Text.Closed` — a text that its tokens write, and one that ends outside quotes.
* `Argument.WellWritten`, `FilterSpec.WellWritten`, `Node.WellWritten` — what each text of a node has
  to be free of at its place.
* `Graph.texts`, `Graph.closedTexts` — the names, keys and values of a graph in the order in which
  they are written, and those of them behind which something else is written.
* `Graph.Canonical` — well-written nodes, and texts that are closed where something follows.
-/

namespace PadGraph

namespace Text

/-- A text in which a scan passes nothing over: its tokens write it. -/
def Verbatim (text : Text) : Prop := render (tokenize text) = text

/-- A text in which a scan passes nothing over and that does not end within a quote. -/
def Closed (text : Text) : Prop := text.Verbatim ∧ ∀ t ∈ tokenize text, ¬ t.Unterminated

instance (text : Text) : Decidable text.Verbatim :=
  inferInstanceAs (Decidable (render (tokenize text) = text))

/-- A text is closed when its tokens write it and are all closed. -/
theorem closed_iff {text : Text} :
    text.Closed ↔ text.Verbatim ∧ ∀ t ∈ tokenize text, t.Closed := by
  refine and_congr_right fun _ => forall₂_congr fun t ht => ⟨fun h => ?_, fun h => ?_⟩
  · exact (wellFormed_tokenize text).closed_of_not_unterminated ht h
  · exact h.not_unterminated

instance (text : Text) : Decidable text.Closed := decidable_of_iff _ closed_iff.symm

/-- Of a verbatim text without tokens there is nothing. -/
theorem Verbatim.tokenize_eq_nil {text : Text} (h : text.Verbatim) :
    tokenize text = [] ↔ text = [] := by
  constructor
  · intro hnil
    rw [← h, hnil]
    rfl
  · rintro rfl
    rfl

end Text

/-- A key or value ends before the next colon or equals sign, and is not empty. -/
def Argument.WellWritten (argument : Argument) : Prop :=
  ∀ text ∈ argument.texts,
    text ≠ [] ∧ text.Verbatim ∧ FreeOf ['[', ',', ';', ':', '='] (tokenize text)

instance : DecidablePred Argument.WellWritten := fun argument =>
  inferInstanceAs (Decidable (∀ text ∈ argument.texts, text ≠ [] ∧ text.Verbatim ∧ FreeOf _ _))

namespace FilterSpec

/-- A name ends before the first equals sign or opening bracket. It does not begin with a closing
bracket, which would be taken for the end of a label. -/
@[mk_iff] structure WellWritten (spec : FilterSpec) : Prop where
  name_verbatim : spec.name.Verbatim
  name_free : FreeOf ['[', ',', ';', '='] (tokenize spec.name)
  name_head : FreeOf [']'] ((tokenize spec.name).take 1)
  arguments : ∀ argument ∈ spec.arguments, argument.WellWritten

instance : DecidablePred WellWritten := fun spec =>
  decidable_of_iff' _ (wellWritten_iff spec)

/-- The name, keys and values of a filter in the order in which they are written. -/
def texts (spec : FilterSpec) : List Text := spec.name :: spec.arguments.flatMap Argument.texts

theorem texts_ne_nil (spec : FilterSpec) : spec.texts ≠ [] := by
  simp [texts]

end FilterSpec

namespace Node

/-- The name and arguments of a node. -/
def spec (node : Node) : FilterSpec := ⟨node.name, node.arguments⟩

/-- What a node has to be for its texts to be found where they are written: none of them holds what
would end it at its place, nor what separates chains and branches, and labels are closed. -/
@[mk_iff] structure WellWritten (node : Node) : Prop where
  labels : ∀ label ∈ node.sourceLabels ++ node.destinationLabels,
    label.Closed ∧ FreeOf ['[', ']', ',', ';'] (tokenize label)
  spec : node.spec.WellWritten

instance : DecidablePred WellWritten := fun node =>
  decidable_of_iff' _ (wellWritten_iff node)

/-- The name, keys and values of a node behind which more of the node is written: all of them, or
all but the last when the node has no destination labels. -/
def closedTexts (node : Node) : List Text :=
  if node.isSink then node.spec.texts.dropLast else node.spec.texts

end Node

namespace Graph

/-- The names, keys and values of a graph in the order in which they are written. -/
def texts (graph : Graph) : List Text :=
  graph.flatMap fun branch => branch.flatMap fun node => node.spec.texts

/-- Whether the last thing written of a graph is a name, a key or a value: there is a last node in
the last branch, and it has no destination labels. -/
def endsInText (graph : Graph) : Bool := (graph.getLast?.bind List.getLast?).any Node.isSink

/-- The names, keys and values of a graph, the last one left out when the graph ends in it. -/
def closedTexts (graph : Graph) : List Text :=
  if graph.endsInText then graph.texts.dropLast else graph.texts

/-- **Canonical graphs.** Each text is free of what would end it at its place, and all are closed
but the one in which the graph ends, if it ends in one. -/
@[mk_iff] structure Canonical (graph : Graph) : Prop where
  nodes : ∀ branch ∈ graph, ∀ node ∈ branch, node.WellWritten
  closed : ∀ text ∈ graph.closedTexts, text.Closed

instance : DecidablePred Canonical := fun graph =>
  decidable_of_iff' _ (canonical_iff graph)

/-- A graph whose last branch has no nodes does not end in a text. -/
theorem closedTexts_concat_nil (init : Graph) : closedTexts (init ++ [[]]) = texts init := by
  simp [closedTexts, endsInText, texts]

/-- A graph with a last node ends in a text when this node does. -/
theorem closedTexts_concat_concat (init : Graph) (branch : Branch) (node : Node) :
    closedTexts (init ++ [branch ++ [node]]) =
      texts init ++ (branch.flatMap (fun n => n.spec.texts) ++ node.closedTexts) := by
  have htexts : texts (init ++ [branch ++ [node]]) =
      texts init ++ (branch.flatMap (fun n => n.spec.texts) ++ node.spec.texts) := by
    simp [texts]
  have hends : endsInText (init ++ [branch ++ [node]]) = node.isSink := by
    simp [endsInText]
  rw [closedTexts, htexts, hends, Node.closedTexts]
  split
  · rw [List.dropLast_append_of_ne_nil (by simp [node.spec.texts_ne_nil]),
      List.dropLast_append_of_ne_nil node.spec.texts_ne_nil]
  · rfl

end Graph

end PadGraph
