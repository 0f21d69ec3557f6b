import PadGraph.Proofs.Chain.Grammar
import PadGraph.Proofs.Graph.Canonical
import PadGraph.Proofs.Graph.Parse

/-!
# The tokens of a graph

What is written of a graph is a text; here it is written as tokens, part by part as the text is. The
tokens are cut at the places where they were joined, and each chain gives back its node, so a graph
is read from its tokens whatever stands at their end.

* `Argument.tokens`, `FilterSpec.tokens`, `Node.tokens`, `Branch.tokens`, `Graph.tokens` — the tokens
  of each level.
* `Graph.render_tokens` — their written form is that of the graph.
* `ChainForm.node` — the node that is read from a chain by its parts.
* `Node.form`, `Node.WellWritten.readNode_tokens` — the tokens of a node are a chain, and it is read
  back.
* `Graph.chainsOf_tokens` — the tokens of a graph are cut into those of its nodes.
* **`Graph.parse_render_of_wellFormed`** — a graph with well-written nodes is read from its written
  form when its tokens are well formed.
-/

namespace PadGraph

/-! ### Tokens, level by level -/

/-- The tokens of an argument: those of its texts, with an equals sign between them. -/
def Argument.tokens (argument : Argument) : List Token :=
  [.plain assignMark].intercalate (argument.texts.map tokenize)

/-- The tokens of a filter: those of its name, and behind an equals sign those of its arguments. A
filter without arguments may be marked by an equals sign alone. -/
def FilterSpec.tokens (spec : FilterSpec) (marked : Bool) : List Token :=
  tokenize spec.name ++
    match spec.arguments with
    | [] => if marked then [.plain assignMark] else []
    | arguments =>
        .plain assignMark :: [.plain argumentSeparator].intercalate (arguments.map Argument.tokens)

/-- The tokens of some labels in their brackets. -/
def labelTokens (labels : List Text) : List Token := (labels.map tokenize).flatMap bracketed

namespace Node

/-- The tokens of a node's filter, marked where the node needs it. -/
def filterTokens (node : Node) : List Token := node.spec.tokens node.needsMark

def tokens (node : Node) : List Token :=
  labelTokens node.sourceLabels ++ (node.filterTokens ++ labelTokens node.destinationLabels)

end Node

/-- The tokens of a branch; one without nodes is a lone comma. -/
def Branch.tokens (branch : Branch) : List Token :=
  match branch with
  | [] => [.plain chainSeparator]
  | nodes => [.plain chainSeparator].intercalate (nodes.map Node.tokens)

def Graph.tokens (graph : Graph) : List Token :=
  [.plain branchSeparator].intercalate (graph.map Branch.tokens)

/-! ### Their written form -/

theorem map_render_tokenize {texts : List Text} (h : ∀ text ∈ texts, text.Verbatim) :
    (texts.map tokenize).map render = texts := by
  rw [List.map_map]
  exact (List.map_congr_left h).trans (List.map_id texts)

theorem Argument.WellWritten.render_tokens {argument : Argument} (h : argument.WellWritten) :
    PadGraph.render argument.tokens = argument.render := by
  rw [Argument.tokens, render_intercalate, map_render_tokenize fun text ht => (h text ht).2.1]
  obtain ⟨key, value⟩ := argument
  cases value <;> simp [Argument.texts, Argument.render, assignMark]

theorem render_labelTokens {labels : List Text} (h : ∀ label ∈ labels, label.Verbatim) :
    render (labelTokens labels) = renderLabels labels := by
  induction labels with
  | nil => rfl
  | cons label labels ih =>
      have hlabel : render (tokenize label) = label := h label (by simp)
      have hrest := ih fun l hl => h l (by simp [hl])
      simp only [labelTokens, renderLabels] at hrest
      simp [labelTokens, bracketed, renderLabels, renderLabel, Token.text, hlabel, hrest]

namespace Node

variable {node : Node}

theorem WellWritten.render_filterTokens (h : node.WellWritten) :
    PadGraph.render node.filterTokens = node.name ++ node.renderArguments := by
  have hname : PadGraph.render (tokenize node.name) = node.name := h.spec.name_verbatim
  have hall : ∀ argument ∈ node.arguments, argument.WellWritten := h.spec.arguments
  rw [filterTokens, FilterSpec.tokens, renderArguments, render_append, Node.spec, hname]
  cases harguments : node.arguments with
  | nil => cases node.needsMark <;> rfl
  | cons argument arguments =>
      rw [harguments] at hall
      have hmap : (argument :: arguments).map (PadGraph.render ∘ Argument.tokens) =
          (argument :: arguments).map Argument.render :=
        List.map_congr_left fun a ha => (hall a ha).render_tokens
      show _ ++ PadGraph.render (_ :: [Token.plain argumentSeparator].intercalate _) = _
      rw [render_cons, render_intercalate, List.map_map, hmap]
      rfl

theorem WellWritten.render_tokens (h : node.WellWritten) :
    PadGraph.render node.tokens = node.render := by
  have hsources := render_labelTokens fun l hl => (h.labels l (List.mem_append_left _ hl)).1.1
  have hdestinations := render_labelTokens fun l hl =>
    (h.labels l (List.mem_append_right _ hl)).1.1
  rw [tokens, Node.render, render_append, render_append, hsources, hdestinations,
    h.render_filterTokens]
  simp

end Node

theorem Branch.render_tokens {branch : Branch} (h : ∀ node ∈ branch, node.WellWritten) :
    PadGraph.render (Branch.tokens branch) = Branch.render branch := by
  cases branch with
  | nil => rfl
  | cons node nodes =>
      have hmap : (node :: nodes).map (PadGraph.render ∘ Node.tokens) =
          (node :: nodes).map Node.render :=
        List.map_congr_left fun n hn => (h n hn).render_tokens
      show PadGraph.render ([Token.plain chainSeparator].intercalate _) = _
      rw [render_intercalate, List.map_map, hmap]
      rfl

/-- The tokens of a graph are written as the graph is. -/
theorem Graph.render_tokens {graph : Graph}
    (h : ∀ branch ∈ graph, ∀ node ∈ branch, node.WellWritten) :
    PadGraph.render graph.tokens = graph.render := by
  have hmap : graph.map (PadGraph.render ∘ Branch.tokens) = graph.map Branch.render :=
    List.map_congr_left fun branch hb => Branch.render_tokens (h branch hb)
  rw [Graph.tokens, render_intercalate, List.map_map, hmap]
  rfl

/-! ### A node is read from its tokens -/

namespace Argument.WellWritten

variable {argument : Argument}

theorem ofTokens?_tokens (h : argument.WellWritten) :
    ofTokens? argument.tokens = some argument := by
  have hpieces : ∀ piece ∈ argument.texts.map tokenize,
      piece ≠ [] ∧ FreeOf [assignMark] piece := by
    intro piece hp
    obtain ⟨text, ht, rfl⟩ := List.mem_map.mp hp
    obtain ⟨hne, hverbatim, hfree⟩ := h text ht
    exact ⟨fun hnil => hne (hverbatim.tokenize_eq_nil.mp hnil),
      hfree.fewer (by decide)⟩
  have htext : ∀ t ∈ argument.tokens, t.text ≠ [] := by
    rw [tokens, forall_mem_intercalate (by simp [Token.text])]
    intro piece hp
    obtain ⟨text, -, rfl⟩ := List.mem_map.mp hp
    exact (wellFormed_tokenize text).text_ne_nil
  rw [ofTokens?_eq htext, tokens, split_intercalate hpieces]
  exact ofPieces?_texts (map_render_tokenize fun text ht => (h text ht).2.1).symm

theorem tokens_ne_nil (h : argument.WellWritten) : argument.tokens ≠ [] := by
  obtain ⟨hne, hverbatim, -⟩ := h argument.key (by simp [texts])
  rw [tokens, texts, List.map_cons, intercalate_cons]
  simp [hverbatim.tokenize_eq_nil, hne]

theorem freeOf_tokens (h : argument.WellWritten) :
    FreeOf ['[', ',', ';', ':'] argument.tokens := by
  rw [FreeOf, tokens, forall_mem_intercalate (Token.isPlain_of_notMem (by decide))]
  intro piece hp
  obtain ⟨text, ht, rfl⟩ := List.mem_map.mp hp
  exact (h text ht).2.2.fewer (by decide)

end Argument.WellWritten

/-- Arguments are read back from their tokens. -/
theorem Argument.filterMap_ofTokens?_tokens {arguments : List Argument}
    (h : ∀ argument ∈ arguments, argument.WellWritten) :
    (arguments.map tokens).filterMap ofTokens? = arguments := by
  have hread : arguments.filterMap (ofTokens? ∘ tokens) = arguments.filterMap some :=
    List.filterMap_congr fun a ha => (h a ha).ofTokens?_tokens
  rw [List.filterMap_map, hread, List.filterMap_some]

namespace FilterSpec.WellWritten

variable {spec : FilterSpec}

/-- A filter is read back from its tokens, marked or not. -/
theorem ofTokens_tokens (h : spec.WellWritten) (marked : Bool) :
    ofTokens (spec.tokens marked) = spec := by
  obtain ⟨name, arguments⟩ := spec
  have hname : render (tokenize name) = name := h.name_verbatim
  have hfree : FreeOf [assignMark] (tokenize name) :=
    h.name_free.fewer (by decide)
  rw [tokens]
  cases arguments with
  | nil =>
      cases marked with
      | false => simp [ofTokens_free hfree, hname]
      | true => simp [ofTokens_cut hfree, hname, PadGraph.arguments]
  | cons argument arguments =>
      have hall : ∀ a ∈ argument :: arguments, a.WellWritten := h.arguments
      have hpieces : ∀ piece ∈ (argument :: arguments).map Argument.tokens,
          piece ≠ [] ∧ FreeOf [argumentSeparator] piece := by
        intro piece hp
        obtain ⟨a, ha, rfl⟩ := List.mem_map.mp hp
        exact ⟨(hall a ha).tokens_ne_nil,
          (hall a ha).freeOf_tokens.fewer (by decide)⟩
      show ofTokens (tokenize name ++ .plain assignMark :: _) = _
      rw [ofTokens_cut hfree, hname, PadGraph.arguments, split_intercalate hpieces,
        Argument.filterMap_ofTokens?_tokens hall]

theorem freeOf_tokens (h : spec.WellWritten) (marked : Bool) :
    FreeOf ['[', ',', ';'] (spec.tokens marked) := by
  refine freeOf_append.mpr ⟨h.name_free.fewer (by decide), ?_⟩
  split
  · cases marked <;> decide
  · refine freeOf_cons.mpr ⟨Token.isPlain_of_notMem (by decide), ?_⟩
    rw [FreeOf, forall_mem_intercalate (Token.isPlain_of_notMem (by decide))]
    intro piece hp
    obtain ⟨a, ha, rfl⟩ := List.mem_map.mp hp
    exact (h.arguments a ha).freeOf_tokens.fewer (by decide)

theorem head_tokens (h : spec.WellWritten) (marked : Bool) :
    FreeOf [']'] ((spec.tokens marked).take 1) := by
  have hhead := h.name_head
  rw [tokens]
  cases hname : tokenize spec.name with
  | cons t ts =>
      rw [hname] at hhead
      exact hhead
  | nil =>
      rw [List.nil_append]
      split
      · cases marked <;> decide
      · show FreeOf [']'] [.plain assignMark]
        decide

/-- Only a filter without name, arguments and mark has no tokens. -/
theorem tokens_eq_nil (h : spec.WellWritten) {marked : Bool} (hnil : spec.tokens marked = []) :
    spec.name = [] ∧ marked = false := by
  obtain ⟨hname, harguments⟩ := List.append_eq_nil_iff.mp hnil
  refine ⟨h.name_verbatim.tokenize_eq_nil.mp hname, ?_⟩
  cases ha : spec.arguments with
  | nil => simpa [ha] using harguments
  | cons a as => simp [ha] at harguments

end FilterSpec.WellWritten

namespace ChainForm

/-- The node that a chain with this form writes. -/
def node (form : ChainForm) : Node :=
  { sourceLabels := form.sources.map render
    name := (FilterSpec.ofTokens form.filter).name
    arguments := (FilterSpec.ofTokens form.filter).arguments
    destinationLabels := form.destinations.map render }

theorem readNode_tokens (form : ChainForm) : readNode form.tokens = .ok form.node := by
  rw [readNode, decompose_tokens]
  rfl

theorem exists_of_readNode {chain : List Token} {node : Node} (h : readNode chain = .ok node) :
    ∃ form : ChainForm, form.tokens = chain ∧ form.node = node := by
  rw [readNode] at h
  cases hd : decompose chain with
  | error e => simp [hd, Except.map] at h
  | ok parts =>
      obtain ⟨form, htokens, hparts⟩ := exists_form_of_decompose hd
      refine ⟨form, htokens, ?_⟩
      subst hparts
      rw [hd] at h
      exact Except.ok.inj h

end ChainForm

theorem freeOf_labelTokens {labels : List Text}
    (h : ∀ label ∈ labels, FreeOf ['[', ']', ',', ';'] (tokenize label)) :
    FreeOf [',', ';'] (labelTokens labels) := by
  intro t ht
  obtain ⟨tokens, hlabel, ht⟩ := List.mem_flatMap.mp ht
  obtain ⟨label, hl, rfl⟩ := List.mem_map.mp hlabel
  have hfree : FreeOf [',', ';'] (bracketed (tokenize label)) := by
    refine freeOf_cons.mpr
      ⟨Token.isPlain_of_notMem (by decide), freeOf_append.mpr ⟨?_, by decide⟩⟩
    exact (h label hl).fewer (by decide)
  exact hfree t ht

namespace Node

variable {node : Node}

/-- A node with destination labels has a filter, and so has one without source labels. -/
theorem WellWritten.filterTokens_eq_nil (h : node.WellWritten) (hnil : node.filterTokens = []) :
    node.sourceLabels ≠ [] ∧ node.destinationLabels = [] := by
  obtain ⟨hname, hmark⟩ := h.spec.tokens_eq_nil hnil
  simpa [needsMark, show node.name = [] from hname] using hmark

/-- The tokens of a node are a chain: its labels and its filter. -/
def form (node : Node) (h : node.WellWritten) : ChainForm where
  sources := node.sourceLabels.map tokenize
  filter := node.filterTokens
  destinations := node.destinationLabels.map tokenize
  sources_free := by
    intro label hl
    obtain ⟨text, ht, rfl⟩ := List.mem_map.mp hl
    exact (h.labels text (by simp [ht])).2.fewer (by decide)
  filter_free := (h.spec.freeOf_tokens _).fewer (by decide)
  filter_head := h.spec.head_tokens _
  destinations_free := by
    intro label hl
    obtain ⟨text, ht, rfl⟩ := List.mem_map.mp hl
    exact (h.labels text (by simp [ht])).2.fewer (by decide)
  destinations_nil := fun hnil => by simp [(h.filterTokens_eq_nil hnil).2]

/-- **A node is read from its tokens.** -/
theorem WellWritten.readNode_tokens (h : node.WellWritten) : readNode node.tokens = .ok node := by
  have hsources := map_render_tokenize fun l hl => (h.labels l (List.mem_append_left _ hl)).1.1
  have hdestinations := map_render_tokenize fun l hl =>
    (h.labels l (List.mem_append_right _ hl)).1.1
  have hspec : FilterSpec.ofTokens node.filterTokens = ⟨node.name, node.arguments⟩ :=
    h.spec.ofTokens_tokens _
  have hnode : (node.form h).node = node := by
    simp only [ChainForm.node, form]
    rw [hsources, hdestinations, hspec]
  rw [show node.tokens = (node.form h).tokens from rfl, ChainForm.readNode_tokens, hnode]

/-- The tokens of a node are a piece of a branch. -/
theorem WellWritten.freeOf_tokens (h : node.WellWritten) :
    node.tokens ≠ [] ∧ FreeOf [',', ';'] node.tokens := by
  constructor
  · intro hnil
    obtain ⟨hsources, hrest⟩ := List.append_eq_nil_iff.mp hnil
    refine (h.filterTokens_eq_nil (List.append_eq_nil_iff.mp hrest).1).1 ?_
    cases hl : node.sourceLabels with
    | nil => rfl
    | cons label labels => simp [labelTokens, hl, bracketed] at hsources
  · refine freeOf_append.mpr ⟨freeOf_labelTokens fun l hl => (h.labels l (by simp [hl])).2, ?_⟩
    refine freeOf_append.mpr
      ⟨(h.spec.freeOf_tokens _).fewer (by decide), ?_⟩
    exact freeOf_labelTokens fun l hl => (h.labels l (by simp [hl])).2

end Node

/-! ### A graph is read from its tokens -/

theorem Branch.chains_tokens {branch : Branch} (h : ∀ node ∈ branch, node.WellWritten) :
    chains (Branch.tokens branch) = branch.map Node.tokens := by
  cases branch with
  | nil => exact split_separator_cons chainSeparator []
  | cons node nodes =>
      refine split_intercalate fun piece hp => ?_
      obtain ⟨n, hn, rfl⟩ := List.mem_map.mp hp
      obtain ⟨hne, hfree⟩ := (h n hn).freeOf_tokens
      exact ⟨hne, hfree.fewer (by decide)⟩

theorem Branch.freeOf_tokens {branch : Branch} (h : ∀ node ∈ branch, node.WellWritten) :
    Branch.tokens branch ≠ [] ∧ FreeOf [branchSeparator] (Branch.tokens branch) := by
  cases branch with
  | nil => exact ⟨by simp [Branch.tokens], by decide⟩
  | cons node nodes =>
      show [Token.plain chainSeparator].intercalate ((node :: nodes).map Node.tokens) ≠ [] ∧
        FreeOf [branchSeparator]
          ([Token.plain chainSeparator].intercalate ((node :: nodes).map Node.tokens))
      constructor
      · rw [List.map_cons, intercalate_cons]
        simp [(h node (by simp)).freeOf_tokens.1]
      · rw [FreeOf, forall_mem_intercalate (Token.isPlain_of_notMem (by decide))]
        intro piece hp
        obtain ⟨n, hn, rfl⟩ := List.mem_map.mp hp
        exact (h n hn).freeOf_tokens.2.fewer (by decide)

namespace Graph

variable {graph : Graph}

/-- The tokens of a graph are cut into those of its nodes. -/
theorem chainsOf_tokens (h : ∀ branch ∈ graph, ∀ node ∈ branch, node.WellWritten) :
    chainsOf graph.tokens = graph.map fun branch => branch.map Node.tokens := by
  have hpieces : ∀ piece ∈ graph.map Branch.tokens,
      piece ≠ [] ∧ FreeOf [branchSeparator] piece := by
    intro piece hp
    obtain ⟨branch, hb, rfl⟩ := List.mem_map.mp hp
    exact Branch.freeOf_tokens (h branch hb)
  rw [chainsOf, branches, tokens, split_intercalate hpieces, List.map_map]
  exact List.map_congr_left fun branch hb => Branch.chains_tokens (h branch hb)

/-- **A graph is read from its written form**, when its nodes are well written and its tokens are
well formed. -/
theorem parse_render_of_wellFormed (h : ∀ branch ∈ graph, ∀ node ∈ branch, node.WellWritten)
    (hwell : WellFormed graph.tokens) : parse graph.render = .ok graph := by
  rw [← render_tokens h, parse_render hwell, chainsOf_tokens h, mapM_eq_ok_iff,
    List.forall₂_map_left_iff, List.forall₂_same]
  intro branch hb
  rw [mapM_eq_ok_iff, List.forall₂_map_left_iff, List.forall₂_same]
  exact fun node hn => (h branch hb node hn).readNode_tokens

end Graph

end PadGraph
