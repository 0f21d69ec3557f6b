import PadGraph.Text

/-!
# What can be wrong with a chain

* `LabelSide` — the labels before the filter or those behind it.
* `ChainError` — a bracket without its partner, or something behind the labels that is no label.
* `ChainError.message` — the wording.
-/

namespace PadGraph

/-- The two runs of labels of a chain. -/
inductive LabelSide where
  | source
  | destination
  deriving DecidableEq, Repr, Inhabited

/-- The name of a run of labels. -/
def LabelSide.name : LabelSide → Text
  | source => lit "source"
  | destination => lit "destination"

/-- Why a chain cannot be read. Every cause carries the written form of the whole chain. -/
inductive ChainError where
  /-- A closing bracket without a label, or a label that is not closed before the next opening
  bracket or the end of the chain. -/
  | unmatchedBracket (side : LabelSide) (chain : Text)
  /-- Behind the destination labels stands the token written `content`. -/
  | trailingContent (chain : Text) (content : Text)
  deriving DecidableEq, Repr, Inhabited

namespace ChainError

/-- The run of labels that was being read. -/
def side : ChainError → LabelSide
  | unmatchedBracket side _ => side
  | trailingContent _ _ => .destination

/-- The written form of the chain that cannot be read. -/
def chain : ChainError → Text
  | unmatchedBracket _ chain => chain
  | trailingContent chain _ => chain

/-- The wording of an error. -/
def message : ChainError → Text
  | unmatchedBracket side chain =>
    lit "unmatched bracket in " ++ side.name ++ lit " labels of chain `" ++ chain ++ ['`']
  | trailingContent chain content =>
    lit "unexpected content `" ++ content ++ lit "` after destination labels of chain `" ++
      chain ++ ['`']

end ChainError

end PadGraph
