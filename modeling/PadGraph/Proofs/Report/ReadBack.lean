import PadGraph.Proofs.Graph.RoundTrip
import PadGraph.Proofs.Report.Lines
import PadGraph.Proofs.Text.Decimal
import PadGraph.Proofs.Token.Layout

/-!
# Reading a report back

A report shows labels and arguments as they are written, and only marks them off by brackets, commas
and blanks, which a label or an argument may hold as well. But those that it may hold are quoted or
escaped, so that the tokens of what is shown tell where each label and each argument ends.

* `renderLabels_injective`, `shownArguments_injective` — labels and arguments are told from what is
  shown of them.
* `Node.Reportable` — texts on one line, and no name like the one that stands for none.
* `Report.nodeLines_injective`, `Report.branchLines_injective` — the lines of a node tell the node,
  and those of a branch the branch.
* **`Report.text_injective`** — graphs that were read are told from their reports.
-/

namespace PadGraph

/-! ### Labels -/

section Labels

variable {labels others : List Text}

/-- The labels are found in what is shown of them. -/
theorem read_renderLabels (h : ∀ label ∈ labels, label.Closed ∧ FreeOf brackets (tokenize label)) :
    Labels.read (tokenize (renderLabels labels)) = some (labels.map tokenize, []) := by
  have hclosed := closed_labelTokens fun label hl => (h label hl).1
  have hfree : ∀ label ∈ labels.map tokenize, FreeOf brackets label :=
    List.forall_mem_map.mpr fun label hl => (h label hl).2
  have hread : Labels.read (labelTokens labels ++ []) = some (labels.map tokenize, []) :=
    Labels.read_bracketed hfree (by simp)
  rw [List.append_nil] at hread
  rw [← render_labelTokens fun label hl => (h label hl).1.1,
    tokenize_render (wellFormed_of_closed hclosed)]
  exact hread

theorem renderLabels_injective
    (h : ∀ label ∈ labels, label.Closed ∧ FreeOf brackets (tokenize label))
    (ho : ∀ label ∈ others, label.Closed ∧ FreeOf brackets (tokenize label))
    (heq : renderLabels labels = renderLabels others) : labels = others := by
  have hread := read_renderLabels h
  rw [heq, read_renderLabels ho] at hread
  have htokens : others.map tokenize = labels.map tokenize :=
    congrArg Prod.fst (Option.some.inj hread)
  rw [← map_render_tokenize fun label hl => (h label hl).1.1, ← htokens,
    map_render_tokenize fun label hl => (ho label hl).1.1]

end Labels

/-! ### Arguments -/

/-- How a report shows arguments. -/
def shownArguments (arguments : List Argument) : Text :=
  (lit ", ").intercalate (arguments.map Argument.render)

section Arguments

variable {arguments others : List Argument}

/-- What is shown of arguments has their tokens, with commas between them: only the last argument
may end within a quote, and so the commas stand outside. -/
theorem tokenize_shownArguments (h : ∀ argument ∈ arguments, argument.WellWritten)
    (hwell : WellFormed ([.plain argumentSeparator].intercalate (arguments.map Argument.tokens))) :
    tokenize (shownArguments arguments) =
      [.plain chainSeparator].intercalate (arguments.map Argument.tokens) := by
  have hrender : arguments.map Argument.render = (arguments.map Argument.tokens).map render := by
    rw [List.map_map]
    exact List.map_congr_left fun a ha => (h a ha).render_tokens.symm
  rw [shownArguments, hrender]
  generalize arguments.map Argument.tokens = pieces at hwell
  induction pieces with
  | nil => rfl
  | cons piece pieces ih =>
      cases pieces with
      | nil =>
          rw [List.intercalate_singleton] at hwell
          simpa using tokenize_render hwell
      | cons next pieces =>
          rw [List.intercalate_cons_cons, List.append_assoc] at hwell
          obtain ⟨hpiece, hbehind⟩ := (wellFormed_append (by simp)).mp hwell
          have hrest := ih ((wellFormed_append_of_closed (by decide)).mp hbehind)
          have hblank : Blank [' '] := by
            simp [Blank, isInsignificant]
          have hcomma : lit ", " = (Token.plain chainSeparator).text ++ [' '] := by
            rw [lit]
            rfl
          rw [List.map_cons, List.map_cons, List.intercalate_cons_cons, ← List.map_cons,
            List.append_assoc, tokenize_render_append hpiece, hcomma, List.append_assoc,
            tokenize_closed_append (by decide), tokenize_blank_append hblank, ← hcomma, hrest,
            List.intercalate_cons_cons]
          simp

theorem shownArguments_injective (h : ∀ argument ∈ arguments, argument.WellWritten)
    (ho : ∀ argument ∈ others, argument.WellWritten)
    (hwell : WellFormed ([.plain argumentSeparator].intercalate (arguments.map Argument.tokens)))
    (hwello : WellFormed ([.plain argumentSeparator].intercalate (others.map Argument.tokens)))
    (heq : shownArguments arguments = shownArguments others) : arguments = others := by
  have hpieces : ∀ {arguments : List Argument}, (∀ a ∈ arguments, a.WellWritten) →
      ∀ piece ∈ arguments.map Argument.tokens, piece ≠ [] ∧ FreeOf [chainSeparator] piece :=
    fun h => List.forall_mem_map.mpr fun a ha =>
      ⟨(h a ha).tokens_ne_nil, (h a ha).freeOf_tokens.fewer (by decide)⟩
  have htokens := congrArg tokenize heq
  rw [tokenize_shownArguments h hwell, tokenize_shownArguments ho hwello] at htokens
  have hsplit := congrArg (split chainSeparator) htokens
  rw [split_intercalate (hpieces h), split_intercalate (hpieces ho)] at hsplit
  rw [← Argument.filterMap_ofTokens?_tokens h, hsplit, Argument.filterMap_ofTokens?_tokens ho]

end Arguments

/-! ### Nodes -/

/-- What a report tells of a node: each of its texts is on one line, and its name is not the one
under which nodes without a name are listed. -/
@[mk_iff] structure Node.Reportable (node : Node) : Prop where
  one_line : ∀ text ∈ node.sourceLabels ++ node.spec.texts ++ node.destinationLabels, '\n' ∉ text
  name_ne : node.name ≠ lit "(none)"

instance : DecidablePred Node.Reportable := fun node =>
  decidable_of_iff' _ (Node.reportable_iff node)

theorem Node.WellWritten.label {node : Node} (h : node.WellWritten) :
    ∀ label ∈ node.sourceLabels ++ node.destinationLabels,
      label.Closed ∧ FreeOf brackets (tokenize label) := fun label hl =>
  ⟨(h.labels label hl).1, (h.labels label hl).2.fewer (by decide)⟩

theorem Node.wellFormed_arguments {node : Node} (h : WellFormed node.tokens) :
    WellFormed ([.plain argumentSeparator].intercalate (node.arguments.map Argument.tokens)) := by
  have hfilter : WellFormed node.filterTokens :=
    h.sublist ((List.sublist_append_left _ _).trans (List.sublist_append_right _ _))
  refine hfilter.sublist ?_
  rw [filterTokens, FilterSpec.tokens, spec]
  cases node.arguments with
  | nil => simp
  | cons argument arguments =>
      exact (List.sublist_cons_self _ _).trans (List.sublist_append_right _ _)

namespace Report

theorem displayName_injective {name other : Text} (h : name ≠ lit "(none)")
    (ho : other ≠ lit "(none)") (heq : displayName name = displayName other) : name = other := by
  cases name with
  | nil =>
      cases other with
      | nil => rfl
      | cons d other => exact absurd heq.symm ho
  | cons c name =>
      cases other with
      | nil => exact absurd heq h
      | cons d other => exact heq

/-- A node that was read and that a report tells. -/
structure Told (node : Node) : Prop where
  wellWritten : node.WellWritten
  wellFormed : WellFormed node.tokens
  reportable : node.Reportable

/-- Of what was read, a report tells all nodes that are reportable. -/
theorem told_of_parse {x : Text} {graph : Graph} (hx : parse x = .ok graph)
    (h : ∀ branch ∈ graph, ∀ node ∈ branch, node.Reportable) :
    ∀ branch ∈ graph, ∀ node ∈ branch, Told node := by
  intro branch hb node hn
  obtain ⟨hnodes, hread⟩ := Graph.of_parse hx
  have hnode : node.tokens.Sublist (Branch.tokens branch) := by
    cases branch with
    | nil => simp at hn
    | cons first nodes => exact sublist_intercalate_of_mem _ (List.mem_map_of_mem hn)
  have hbranch : (Branch.tokens branch).Sublist graph.tokens :=
    sublist_intercalate_of_mem _ (List.mem_map_of_mem hb)
  have hwell : WellFormed node.tokens :=
    (wellFormed_tokenize x).sublist ((hnode.trans hbranch).trans hread)
  exact ⟨hnodes branch hb node hn, hwell, h branch hb node hn⟩

/-- The lines of a node tell the node. -/
theorem nodeLines_injective (index : Nat) (node other : Node) (h : Told node) (ho : Told other)
    (heq : nodeLines index node = nodeLines index other) : node = other := by
  obtain ⟨hhead, hlines⟩ := List.cons.inj heq
  have hname : node.name = other.name :=
    displayName_injective h.reportable.name_ne ho.reportable.name_ne
      (List.append_cancel_left hhead)
  rw [List.append_assoc, List.append_assoc] at hlines
  -- the headings differ in their first letters
  obtain ⟨hsources, hlines⟩ : node.sourceLabels = other.sourceLabels ∧ _ :=
    optionalLine_append_inj (p := (·[4]? == some 's')) (fun _ => rfl)
      (List.forall_mem_append.mpr
        ⟨forall_mem_optionalLine.mpr fun _ => rfl, forall_mem_optionalLine.mpr fun _ => rfl⟩)
      (List.forall_mem_append.mpr
        ⟨forall_mem_optionalLine.mpr fun _ => rfl, forall_mem_optionalLine.mpr fun _ => rfl⟩)
      (renderLabels_injective
        (fun label hl => h.wellWritten.label label (List.mem_append_left _ hl))
        (fun label hl => ho.wellWritten.label label (List.mem_append_left _ hl)))
      hlines
  obtain ⟨harguments, hlines⟩ : node.arguments = other.arguments ∧ _ :=
    optionalLine_append_inj (p := (·[4]? == some 'a')) (fun _ => rfl)
      (forall_mem_optionalLine.mpr fun _ => rfl) (forall_mem_optionalLine.mpr fun _ => rfl)
      (shownArguments_injective h.wellWritten.spec.arguments ho.wellWritten.spec.arguments
        (Node.wellFormed_arguments h.wellFormed) (Node.wellFormed_arguments ho.wellFormed))
      hlines
  have hdestinations : node.destinationLabels = other.destinationLabels :=
    optionalLine_injective
      (renderLabels_injective
        (fun label hl => h.wellWritten.label label (List.mem_append_right _ hl))
        (fun label hl => ho.wellWritten.label label (List.mem_append_right _ hl)))
      hlines
  cases node
  cases other
  simp only [Node.mk.injEq]
  exact ⟨hsources, hname, harguments, hdestinations⟩

/-! ### Lines -/

theorem newline_notMem_renderLabels {labels : List Text} (h : ∀ label ∈ labels, '\n' ∉ label) :
    '\n' ∉ renderLabels labels := by
  intro hmem
  obtain ⟨label, hl, hlabel⟩ := List.mem_flatMap.mp hmem
  simp [renderLabel, h label hl] at hlabel

theorem newline_notMem_shownArguments {arguments : List Argument}
    (h : ∀ argument ∈ arguments, ∀ text ∈ argument.texts, '\n' ∉ text) :
    '\n' ∉ shownArguments arguments := by
  have hrender : ∀ piece ∈ arguments.map Argument.render, '\n' ∉ piece := by
    rw [List.forall_mem_map]
    rintro ⟨key, value⟩ ha
    have htexts := h _ ha
    cases value <;> simpa [Argument.render, Argument.texts] using htexts
  rw [shownArguments]
  generalize arguments.map Argument.render = pieces at hrender
  induction pieces with
  | nil => simp
  | cons piece pieces ih =>
      have hrest := ih fun p hp => hrender p (by simp [hp])
      cases pieces with
      | nil => simpa using hrender
      | cons next pieces =>
          have hcomma : '\n' ∉ lit ", " := by
            simp [lit]
          rw [List.intercalate_cons_cons]
          simp [hrender piece (by simp), hcomma, hrest]

/-- The lines of a node are lines. -/
theorem newline_notMem_nodeLines (index : Nat) {node : Node} (h : node.Reportable) :
    ∀ line ∈ nodeLines index node, '\n' ∉ line := by
  obtain ⟨hline, -⟩ := h
  rw [List.forall_mem_append, List.forall_mem_append] at hline
  obtain ⟨⟨hsources, hspec⟩, hdestinations⟩ := hline
  obtain ⟨hname, harguments⟩ := List.forall_mem_cons.mp hspec
  have hname : '\n' ∉ node.name := hname
  have hshown : '\n' ∉ shownArguments node.arguments :=
    newline_notMem_shownArguments (List.forall_mem_flatMap.mp harguments)
  rw [nodeLines, List.forall_mem_cons, List.forall_mem_append, List.forall_mem_append,
    forall_mem_optionalLine, forall_mem_optionalLine, forall_mem_optionalLine]
  refine ⟨?_, ⟨fun _ => ?_, fun _ => ?_⟩, fun _ => ?_⟩
  · have hshown : '\n' ∉ displayName node.name := by
      rw [displayName]
      split
      · simp [lit]
      · exact hname
    simp [lit, Text.notMem_decimal, hshown]
  · simp [newline_notMem_renderLabels hsources]
  · exact fun hmem => (List.mem_append.mp hmem).elim (by simp) hshown
  · simp [newline_notMem_renderLabels hdestinations]

/-! ### Branches and graphs -/

/-- The lines of a node are a block. -/
theorem block_nodeLines (index : Nat) (node : Node) :
    Block (·[2]? == some 'c') (nodeLines index node) := by
  refine ⟨_, _, rfl, ?_, ?_⟩
  · simp [lit]
  · simp only [List.forall_mem_append, forall_mem_optionalLine]
    exact ⟨⟨fun _ => rfl, fun _ => rfl⟩, fun _ => rfl⟩

/-- The lines of a branch tell the branch. -/
theorem branchLines_injective (index : Nat) (branch other : Branch) (h : ∀ node ∈ branch, Told node)
    (ho : ∀ node ∈ other, Told node) (heq : branchLines index branch = branchLines index other) :
    branch = other :=
  flatten_mapIdx_injective block_nodeLines nodeLines_injective h ho (List.cons.inj heq).2

/-- The lines of a branch are lines. -/
theorem newline_notMem_branchLines (index : Nat) {branch : Branch}
    (h : ∀ node ∈ branch, node.Reportable) : ∀ line ∈ branchLines index branch, '\n' ∉ line := by
  refine List.forall_mem_cons.mpr ⟨?_, ?_⟩
  · simp [lit, Text.notMem_decimal]
  · exact forall_mem_flatten_mapIdx fun i node hn => newline_notMem_nodeLines i (h node hn)

/-- The lines of a branch are a block. -/
theorem block_branchLines (index : Nat) (branch : Branch) :
    Block (·[0]? == some 'b') (branchLines index branch) := by
  have hnode : ∀ i node, ∀ shown ∈ nodeLines i node, (shown[0]? == some 'b') = false := by
    intro i node
    simp only [nodeLines, List.forall_mem_cons, List.forall_mem_append, forall_mem_optionalLine]
    refine ⟨?_, ⟨fun _ => rfl, fun _ => rfl⟩, fun _ => rfl⟩
    simp [lit]
  refine ⟨_, _, rfl, ?_, forall_mem_flatten_mapIdx fun i node _ => hnode i node⟩
  simp [lit]

/-- **A report tells its graph.** Graphs that were read are the same when their reports are, if each
of their texts is on one line and no node has the name that stands for none. -/
theorem text_injective {x y : Text} {graph other : Graph} (hx : parse x = .ok graph)
    (hy : parse y = .ok other) (h : ∀ branch ∈ graph, ∀ node ∈ branch, node.Reportable)
    (ho : ∀ branch ∈ other, ∀ node ∈ branch, node.Reportable) (heq : text graph = text other) :
    graph = other := by
  have hone : ∀ {graph : Graph}, (∀ branch ∈ graph, ∀ node ∈ branch, node.Reportable) →
      ∀ line ∈ (graph.mapIdx branchLines).flatten, '\n' ∉ line := fun h =>
    forall_mem_flatten_mapIdx fun i branch hb => newline_notMem_branchLines i (h branch hb)
  have hlines := unlines_injective (hone h) (hone ho) heq
  exact flatten_mapIdx_injective block_branchLines branchLines_injective
    (told_of_parse hx h) (told_of_parse hy ho) hlines

-- neither condition can be left out
example : text [[.named []]] = text [[.named "(none)".toList]] ∧
    text [[.named "'x\n    sources: [a]".toList]] =
      text [[⟨["a".toList], "'x".toList, [], []⟩]] := by
  decide +kernel

/-- Commas, brackets and equals signs within quotes, labels without a name, a branch of commas and
an open quote. Separators too many change nothing, but a quote that is closed and opened again makes
one argument two, and the report tells. -/
theorem text_injective_quoted :
    let graphWith (arguments : List Argument) : Graph :=
      [[⟨["a".toList, "b".toList], "s".toList,
          arguments ++ [⟨"p".toList, some "\\]".toList⟩, ⟨"'['".toList, none⟩], ["c".toList]⟩,
          ⟨["d".toList], [], [], []⟩],
        [],
        [⟨[], "n".toList, [⟨"'open, ".toList, none⟩], []⟩]]
    let graph := graphWith [⟨"'k, j='".toList, none⟩]
    let other := graphWith [⟨"'k'".toList, none⟩, ⟨"'j='".toList, none⟩]
    parse "[a][b]s='k, j=':p=\\]:'[':[c],[d];,;n='open, ".toList = .ok graph ∧
      parse "[a] [b]s='k, j='::p=\\]:'['\n[c],,[d];;,,;n='open, ".toList = .ok graph ∧
      parse "[a][b]s='k':'j=':p=\\]:'[':[c],[d];,;n='open, ".toList = .ok other ∧
      (∀ branch ∈ graph, ∀ node ∈ branch, node.Reportable) ∧
      (∀ branch ∈ other, ∀ node ∈ branch, node.Reportable) ∧
      graph ≠ other ∧ text graph ≠ text other := by
  intro graphWith graph other
  have hx : parse "[a][b]s='k, j=':p=\\]:'[':[c],[d];,;n='open, ".toList = .ok graph := by
    decide +kernel
  have hx' : parse "[a] [b]s='k, j='::p=\\]:'['\n[c],,[d];;,,;n='open, ".toList = .ok graph := by
    decide +kernel
  have hy : parse "[a][b]s='k':'j=':p=\\]:'[':[c],[d];,;n='open, ".toList = .ok other := by
    decide +kernel
  have h : ∀ branch ∈ graph, ∀ node ∈ branch, node.Reportable := by decide +kernel
  have ho : ∀ branch ∈ other, ∀ node ∈ branch, node.Reportable := by decide +kernel
  have hne : graph ≠ other := by decide +kernel
  exact ⟨hx, hx', hy, h, ho, hne, fun heq => hne (text_injective hx' hy h ho heq)⟩

end Report

end PadGraph
