import PadGraph.Token
import PadGraph.Chain.Error

/-!
# Chains

A chain reads `[source]…[source]filter[destination]…[destination]`: labels in plain brackets, a
filter that runs up to the next plain opening bracket, and labels again up to the end.

* `Labels.read` — the labels at the front of a list of tokens, and what stands behind them.
* `ChainParts` — the three parts of a chain.
* `decompose` — a chain cut into its parts, or what is wrong with it.
* `sourceLabels`, `filterTokens`, `destinationLabels` — one part alone.
-/

namespace PadGraph

namespace Labels

/-- Reads labels from the front of a list of tokens, up to the first token that cannot belong to a
label. `opened` holds the tokens of a label that has been opened and not closed, last one first.
There is no answer when a bracket has no partner: a closing one outside a label, or a label in
which another one is opened or the tokens end. -/
def readFrom : (opened : Option (List Token)) → List Token → Option (List (List Token) × List Token)
  | none, [] => some ([], [])
  | some _, [] => none
  | none, t :: rest =>
    if t.isPlain '[' then readFrom (some []) rest
    else if t.isPlain ']' then none
    else some ([], t :: rest)
  | some label, t :: rest =>
    if t.isPlain ']' then
      (readFrom none rest).map fun (labels, behind) => (label.reverse :: labels, behind)
    else if t.isPlain '[' then none
    else readFrom (some (t :: label)) rest

/-- The labels at the front of a list of tokens, each with its tokens, and what stands behind them,
which does not begin with a plain bracket. -/
def read (tokens : List Token) : Option (List (List Token) × List Token) := readFrom none tokens

end Labels

/-- A chain cut into its parts. -/
structure ChainParts where
  /-- The written labels before the filter. -/
  sourceLabels : List Text
  filter : List Token
  /-- The written labels behind the filter. -/
  destinationLabels : List Text
  deriving DecidableEq, Repr, Inhabited

/-- The source labels of a chain, and what stands behind them. -/
def readSources (chain : List Token) : Except ChainError (List Text × List Token) :=
  match Labels.read chain with
  | some (labels, behind) => .ok (labels.map render, behind)
  | none => .error (.unmatchedBracket .source (render chain))

/-- The destination labels of a chain of which `tokens` stands behind the filter. -/
def readDestinations (chain tokens : List Token) : Except ChainError (List Text) :=
  match Labels.read tokens with
  | some (labels, []) => .ok (labels.map render)
  | some (_, t :: _) => .error (.trailingContent (render chain) t.text)
  | none => .error (.unmatchedBracket .destination (render chain))

/-- The filter at the front of `tokens`: everything up to the first plain opening bracket. -/
def filterPart (tokens : List Token) : List Token := tokens.takeWhile (!·.isPlain '[')

/-- What stands behind the filter at the front of `tokens`. -/
def behindFilter (tokens : List Token) : List Token := tokens.dropWhile (!·.isPlain '[')

/-- Cuts a chain into its parts. -/
def decompose (chain : List Token) : Except ChainError ChainParts := do
  let (sources, behind) ← readSources chain
  let destinations ← readDestinations chain (behindFilter behind)
  return ⟨sources, filterPart behind, destinations⟩

/-- The source labels of a chain; nothing behind them is looked at. -/
def sourceLabels (chain : List Token) : Except ChainError (List Text) :=
  (readSources chain).map (·.1)

/-- The filter of a chain; the labels behind it are not looked at. -/
def filterTokens (chain : List Token) : Except ChainError (List Token) :=
  (readSources chain).map fun (_, behind) => filterPart behind

/-- The destination labels of a chain. -/
def destinationLabels (chain : List Token) : Except ChainError (List Text) :=
  (decompose chain).map (·.destinationLabels)

end PadGraph
