import PadGraph.Proofs.Chain.Grammar
import PadGraph.Proofs.Filter.Pieces
import PadGraph.Proofs.Graph.Parse

/-!
# Nodes by their tokens

A chain can be read without a look at any text: what it gives then is a node whose labels, name, keys
and values are still lists of tokens, or a fault for which it cannot be read. Writing these down is
all that is left to do.

* `ArgumentRuns`, `NodeRuns`, `ChainFault` — an argument, a node and an error by their tokens, and how
  they are written down.
* `argumentRuns`, `cutNode`, `cutTokens` — what filters, chains and graphs give by their tokens.
* `filter_sublist` — the name and the arguments of a filter stand in it.
* **`cutNode_sublist`** — what is cut out of a chain stands in it, in the order of the chain.
-/

namespace PadGraph

/-! ### Arguments -/

/-- An argument by its tokens. -/
structure ArgumentRuns where
  key : List Token
  value : Option (List Token)
  deriving DecidableEq, Repr, Inhabited

namespace ArgumentRuns

/-- The tokens of an argument in their order. -/
def tokens (runs : ArgumentRuns) : List Token := runs.key ++ runs.value.getD []

/-- The argument with its key and its value written by `w`. -/
def write (w : List Token → Text) (runs : ArgumentRuns) : Argument :=
  ⟨w runs.key, runs.value.map w⟩

/-- The argument with given pieces between its equals signs. -/
def ofPieces? : List (List Token) → Option ArgumentRuns
  | [] => none
  | key :: values => some ⟨key, values.getLast?⟩

/-- The argument that a piece between two colons holds. -/
def ofTokens? (tokens : List Token) : Option ArgumentRuns := ofPieces? (split assignMark tokens)

theorem tokens_sublist_of_ofPieces? {pieces : List (List Token)} {runs : ArgumentRuns}
    (h : ofPieces? pieces = some runs) : runs.tokens.Sublist pieces.flatten := by
  cases pieces with
  | nil => cases h
  | cons key values =>
      obtain rfl := Option.some.inj h
      rcases List.eq_nil_or_concat' values with rfl | ⟨front, value, rfl⟩
      · simp [tokens]
      · simp [tokens]

end ArgumentRuns

/-- The pieces of a list stand in it. -/
theorem flatten_split_sublist (separator : Char) (tokens : List Token) :
    (split separator tokens).flatten.Sublist tokens := by
  induction tokens using split_induction separator with
  | piece tokens hfree =>
      rcases eq_or_ne tokens [] with rfl | hne
      · simp
      · simp [hfree.split_eq hne]
  | cut front back hfree ih =>
      rcases eq_or_ne front [] with rfl | hne
      · rw [List.nil_append, split_separator_cons]
        exact ih.cons _
      · rw [split_piece_cons hne hfree, List.flatten_cons]
        exact (ih.cons _).append_left front

theorem ArgumentRuns.tokens_sublist {tokens : List Token} {runs : ArgumentRuns}
    (h : ofTokens? tokens = some runs) : runs.tokens.Sublist tokens :=
  (tokens_sublist_of_ofPieces? h).trans (flatten_split_sublist assignMark tokens)

/-! ### Filters -/

/-- The tokens of the name of a filter. -/
def nameRun (filter : List Token) : List Token := filter.takeWhile (!·.isPlain assignMark)

/-- The pieces of a filter that are read as arguments. -/
def argumentPieces (filter : List Token) : List (List Token) :=
  arguments (filter.dropWhile (!·.isPlain assignMark)).tail

/-- The arguments of a filter by their tokens. -/
def argumentRuns (filter : List Token) : List ArgumentRuns :=
  (argumentPieces filter).filterMap ArgumentRuns.ofTokens?

theorem flatMap_filterMap_sublist {α β γ : Type} {f : α → Option β} {g : β → List γ}
    {h : α → List γ} (hfg : ∀ a b, f a = some b → (g b).Sublist (h a)) (items : List α) :
    ((items.filterMap f).flatMap g).Sublist (items.flatMap h) := by
  induction items with
  | nil => simp
  | cons a items ih =>
      rw [List.flatMap_cons]
      cases ha : f a with
      | none =>
          rw [List.filterMap_cons_none ha]
          exact ih.trans (List.sublist_append_right _ _)
      | some b =>
          rw [List.filterMap_cons_some ha, List.flatMap_cons]
          exact (hfg a b ha).append ih

theorem argumentPieces_sublist (filter : List Token) :
    (nameRun filter ++ (argumentPieces filter).flatten).Sublist filter := by
  have hpieces : (argumentPieces filter).flatten.Sublist
      (filter.dropWhile (!·.isPlain assignMark)) :=
    (flatten_split_sublist argumentSeparator _).trans (List.tail_sublist _)
  have hfilter := hpieces.append_left (nameRun filter)
  rwa [nameRun, List.takeWhile_append_dropWhile] at hfilter

theorem filter_sublist (filter : List Token) :
    (nameRun filter ++ (argumentRuns filter).flatMap ArgumentRuns.tokens).Sublist filter := by
  have hruns : ((argumentRuns filter).flatMap ArgumentRuns.tokens).Sublist
      ((argumentPieces filter).flatMap id) :=
    flatMap_filterMap_sublist (fun _ _ h => ArgumentRuns.tokens_sublist h) _
  rw [List.flatMap_id] at hruns
  exact (hruns.append_left _).trans (argumentPieces_sublist filter)

/-! ### Chains -/

/-- A node by its tokens. -/
structure NodeRuns where
  sourceLabels : List (List Token)
  name : List Token
  arguments : List ArgumentRuns
  destinationLabels : List (List Token)
  deriving DecidableEq, Repr, Inhabited

namespace NodeRuns

/-- The tokens of a node in the order of its chain. -/
def tokens (runs : NodeRuns) : List Token :=
  runs.sourceLabels.flatten ++
    ((runs.name ++ runs.arguments.flatMap ArgumentRuns.tokens) ++ runs.destinationLabels.flatten)

/-- The node with every label, name, key and value written by `w`. -/
def write (w : List Token → Text) (runs : NodeRuns) : Node where
  sourceLabels := runs.sourceLabels.map w
  name := w runs.name
  arguments := runs.arguments.map (ArgumentRuns.write w)
  destinationLabels := runs.destinationLabels.map w

end NodeRuns

/-- Why a chain cannot be read, by its tokens. -/
inductive ChainFault where
  /-- A bracket has no partner. -/
  | unmatchedBracket (side : LabelSide)
  /-- A token stands behind the destination labels. -/
  | trailingContent (content : Token)
  deriving DecidableEq, Repr, Inhabited

/-- The error of a chain with its tokens written by `w`. -/
def ChainFault.write (w : List Token → Text) (chain : List Token) : ChainFault → ChainError
  | unmatchedBracket side => .unmatchedBracket side (w chain)
  | trailingContent content => .trailingContent (w chain) (w [content])

/-- The destination labels of a chain by their tokens, when `tokens` stands behind the filter. -/
def cutDestinations (tokens : List Token) : Except ChainFault (List (List Token)) :=
  match Labels.read tokens with
  | some (labels, []) => .ok labels
  | some (_, content :: _) => .error (.trailingContent content)
  | none => .error (.unmatchedBracket .destination)

/-- Reads a chain into a node by its tokens. -/
def cutNode (chain : List Token) : Except ChainFault NodeRuns :=
  match Labels.read chain with
  | some (sources, behind) =>
    (cutDestinations (behindFilter behind)).map fun destinations =>
      ⟨sources, nameRun (filterPart behind), argumentRuns (filterPart behind), destinations⟩
  | none => .error (.unmatchedBracket .source)

theorem decompose_of_read {chain behind : List Token} {sources : List (List Token)}
    (h : Labels.read chain = some (sources, behind)) :
    decompose chain = (readDestinations chain (behindFilter behind)).map fun destinations =>
      ⟨sources.map render, filterPart behind, destinations⟩ := by
  rw [decompose, readSources, h]
  show (do
    let destinations ← readDestinations chain (behindFilter behind)
    return ChainParts.mk _ (filterPart behind) destinations) = _
  cases readDestinations chain (behindFilter behind) <;> rfl

theorem cutNode_of_read {chain behind : List Token} {sources : List (List Token)}
    (h : Labels.read chain = some (sources, behind)) :
    cutNode chain = (cutDestinations (behindFilter behind)).map fun destinations =>
      ⟨sources, nameRun (filterPart behind), argumentRuns (filterPart behind), destinations⟩ := by
  rw [cutNode, h]

theorem cutDestinations_eq_ok {tokens : List Token} {labels : List (List Token)}
    (h : cutDestinations tokens = .ok labels) : labels.flatMap bracketed = tokens := by
  rw [cutDestinations] at h
  split at h
  · next hread =>
    obtain rfl := Except.ok.inj h
    obtain ⟨rfl, -, -⟩ := Labels.read_eq_some_iff.mp hread
    rw [List.append_nil]
  · cases h
  · cases h

theorem mem_of_cutDestinations {tokens : List Token} {content : Token}
    (h : cutDestinations tokens = .error (.trailingContent content)) : content ∈ tokens := by
  rw [cutDestinations] at h
  split at h
  · cases h
  · next hread =>
    obtain rfl := ChainFault.trailingContent.inj (Except.error.inj h)
    obtain ⟨rfl, -, -⟩ := Labels.read_eq_some_iff.mp hread
    simp
  · cases h

theorem flatten_sublist_bracketed (labels : List (List Token)) :
    labels.flatten.Sublist (labels.flatMap bracketed) := by
  induction labels with
  | nil => simp
  | cons label labels ih =>
      have hlabel : label.Sublist (bracketed label) :=
        (List.sublist_append_left label [.plain ']']).cons _
      rw [List.flatten_cons, List.flatMap_cons]
      exact hlabel.append ih

/-- **What is cut out of a chain stands in it**, in the order of the chain. -/
theorem cutNode_sublist {chain : List Token} {runs : NodeRuns} (h : cutNode chain = .ok runs) :
    runs.tokens.Sublist chain := by
  rw [cutNode] at h
  split at h
  · next sources behind hread =>
    obtain ⟨rfl, -, -⟩ := Labels.read_eq_some_iff.mp hread
    cases hd : cutDestinations (behindFilter behind) with
    | error fault =>
        rw [hd] at h
        cases h
    | ok destinations =>
        rw [hd] at h
        obtain rfl := Except.ok.inj h
        have hbehind : filterPart behind ++ destinations.flatMap bracketed = behind := by
          rw [cutDestinations_eq_ok hd]
          exact List.takeWhile_append_dropWhile
        have hrest := (filter_sublist (filterPart behind)).append
          (flatten_sublist_bracketed destinations)
        rw [hbehind] at hrest
        exact (flatten_sublist_bracketed sources).append hrest
  · cases h

theorem mem_of_cutNode {chain : List Token} {content : Token}
    (h : cutNode chain = .error (.trailingContent content)) : content ∈ chain := by
  rw [cutNode] at h
  split at h
  · next sources behind hread =>
    obtain ⟨rfl, -, -⟩ := Labels.read_eq_some_iff.mp hread
    cases hd : cutDestinations (behindFilter behind) with
    | error fault =>
        rw [hd] at h
        obtain rfl := Except.error.inj h
        have hmem := (List.dropWhile_sublist _).subset (mem_of_cutDestinations hd)
        exact List.mem_append_right _ hmem
    | ok destinations =>
        rw [hd] at h
        cases h
  · cases h

/-! ### Graphs -/

/-- Reads tokens into nodes by their tokens. -/
def cutTokens (tokens : List Token) : Except ChainFault (List (List NodeRuns)) :=
  (chainsOf tokens).mapM fun branch => branch.mapM cutNode

theorem cutTokens_sublist {tokens : List Token} {graph : List (List NodeRuns)}
    (h : cutTokens tokens = .ok graph) :
    List.Forall₂ (List.Forall₂ fun chain runs => runs.tokens.Sublist chain) (chainsOf tokens)
      graph := by
  rw [cutTokens, mapM_eq_ok_iff] at h
  refine h.imp ?_
  intro branch row hrow
  rw [mapM_eq_ok_iff] at hrow
  exact hrow.imp fun _ _ => cutNode_sublist

theorem sublist_of_mem_chainsOf {tokens chain : List Token}
    (h : chain ∈ (chainsOf tokens).flatten) : chain.Sublist tokens := by
  obtain ⟨row, hrow, hchain⟩ := List.mem_flatten.mp h
  obtain ⟨branch, hbranch, rfl⟩ := List.mem_map.mp hrow
  exact (sublist_of_mem_split hchain).trans (sublist_of_mem_split hbranch)

end PadGraph
