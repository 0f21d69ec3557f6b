import PadGraph.Proofs.Graph.Closed

/-!
# Round trips

A graph is found again where it is written exactly when it is canonical, and what a text is read
into always is: its tokens are some of those of the text, in their order.

* `Argument.of_piece`, `FilterSpec.of_filter`, `Node.of_chain`, `Branch.of_chains` — what is read of
  a piece, a filter, a chain and a branch is well written, and its tokens are part of what it was
  read from.
* `Graph.canonical_of_parse` — what a text is read into is canonical.
* **`parse_render_eq_ok_iff`** — a graph is read back from its written form exactly when it is
  canonical.
* **`parse_render_of_parse`** — a graph that was read is read back from its written form.
-/

namespace PadGraph

/-! ### Pieces and labels -/

theorem verbatim_render {tokens : List Token} (h : WellFormed tokens) :
    (render tokens).Verbatim := by
  rw [Text.Verbatim, tokenize_render h]

/-- Well-formed lists are found again in their written forms. -/
theorem map_tokenize_render {pieces : List (List Token)} (h : ∀ piece ∈ pieces, WellFormed piece) :
    (pieces.map render).map tokenize = pieces := by
  rw [List.map_map]
  exact (List.map_congr_left fun piece hp => tokenize_render (h piece hp)).trans
    (List.map_id pieces)

/-- Parts of the pieces of a list, joined, are part of the list. -/
theorem intercalate_sublist_of_split {separator : Char} {tokens : List Token}
    {parts pieces : List (List Token)} (h : List.Forall₂ List.Sublist parts pieces)
    (hp : pieces.Sublist (split separator tokens)) :
    ([.plain separator].intercalate parts).Sublist tokens := by
  have hparts : List.SublistForall₂ List.Sublist parts (split separator tokens) :=
    List.sublistForall₂_iff.mpr ⟨pieces, h, hp⟩
  exact (SublistForall₂.intercalate _ hparts).trans (intercalate_split_sublist _ _)

/-- A label that stood in its brackets is closed. -/
theorem Text.closed_of_bracketed {label : List Token} (h : WellFormed (bracketed label)) :
    (render label).Closed := by
  have hbracketed : WellFormed ((.plain '[' :: label) ++ [.plain ']']) := h
  have hclosed := (wellFormed_concat (by decide)).mp hbracketed
  have hlabel : ∀ t ∈ label, t.Closed := fun t ht => hclosed t (by simp [ht])
  have hwell : WellFormed label := wellFormed_of_closed hlabel
  rw [Text.closed_iff, tokenize_render hwell]
  exact ⟨verbatim_render hwell, hlabel⟩

/-! ### Arguments and filters -/

namespace Argument

/-- An argument that is read of a piece. -/
theorem of_piece {piece : List Token} {argument : Argument} (hwell : WellFormed piece)
    (hfree : FreeOf ['[', ',', ';', ':'] piece) (h : ofTokens? piece = some argument) :
    argument.WellWritten ∧ argument.tokens.Sublist piece := by
  rw [ofTokens?_eq hwell.text_ne_nil] at h
  obtain ⟨kept, hkept, htexts⟩ := texts_of_ofPieces? h
  have hpart : ∀ part ∈ kept, part.Sublist piece := fun part hp =>
    sublist_of_mem_split (hkept.subset hp)
  have hwells : ∀ part ∈ kept, WellFormed part := fun part hp => hwell.sublist (hpart part hp)
  constructor
  · intro text ht
    rw [htexts] at ht
    obtain ⟨part, hp, rfl⟩ := List.mem_map.mp ht
    obtain ⟨hne, heq⟩ := mem_split (hkept.subset hp)
    refine ⟨?_, verbatim_render (hwells part hp), ?_⟩
    · rwa [ne_eq, render_eq_nil (hwells part hp).text_ne_nil]
    · rw [tokenize_render (hwells part hp)]
      exact (hfree.subset (hpart part hp).subset).append_marks heq
  · rw [tokens, htexts, map_tokenize_render hwells]
    exact intercalate_sublist_of_split (List.forall₂_same.mpr fun part _ => List.Sublist.refl part)
      hkept

/-- The arguments that are read of some pieces, each from its own. -/
theorem of_pieces {pieces : List (List Token)}
    (h : ∀ piece ∈ pieces, WellFormed piece ∧ FreeOf ['[', ',', ';', ':'] piece) :
    (∀ argument ∈ pieces.filterMap ofTokens?, argument.WellWritten) ∧
      ∃ read : List (List Token), read.Sublist pieces ∧
        List.Forall₂ List.Sublist ((pieces.filterMap ofTokens?).map tokens) read := by
  induction pieces with
  | nil => exact ⟨by simp, [], by simp, by simp⟩
  | cons piece pieces ih =>
      obtain ⟨hwell, hfree⟩ := h piece (by simp)
      obtain ⟨hrest, read, hread, hsub⟩ := ih fun p hp => h p (by simp [hp])
      cases hp : ofTokens? piece with
      | none =>
          rw [List.filterMap_cons_none hp]
          exact ⟨hrest, read, hread.cons piece, hsub⟩
      | some argument =>
          obtain ⟨hargument, htokens⟩ := of_piece hwell hfree hp
          rw [List.filterMap_cons_some hp]
          refine ⟨?_, piece :: read, hread.cons_cons piece, .cons htokens hsub⟩
          exact List.forall_mem_cons.mpr ⟨hargument, hrest⟩

end Argument

/-- What is read of a filter. An equals sign that would be written of it alone has been part of it,
unless the filter is empty. -/
theorem FilterSpec.of_filter {filter : List Token} (hwell : WellFormed filter)
    (hfree : FreeOf ['[', ',', ';'] filter) (hhead : FreeOf [']'] (filter.take 1)) {marked : Bool}
    (hmarked : marked = true → (ofTokens filter).name = [] ∧ filter ≠ []) :
    (ofTokens filter).WellWritten ∧ ((ofTokens filter).tokens marked).Sublist filter := by
  rcases freeOf_or_cut assignMark filter with hname | ⟨name, behind, hname, rfl⟩
  · have htokens : tokenize (render filter) = filter := tokenize_render hwell
    rw [ofTokens_free hname] at hmarked ⊢
    cases marked with
    | true =>
        -- the whole filter is the name, so it is empty
        obtain ⟨hnil, hne⟩ := hmarked rfl
        exact absurd ((render_eq_nil hwell.text_ne_nil).mp hnil) hne
    | false =>
        refine ⟨⟨verbatim_render hwell, ?_, ?_, by simp⟩, by simp [tokens, htokens]⟩
        · rw [htokens]
          exact hfree.append_marks hname
        · rw [htokens]
          exact hhead
  · have hwellName : WellFormed name := hwell.sublist (List.sublist_append_left _ _)
    have hbehind : behind.Sublist (name ++ .plain assignMark :: behind) :=
      (List.sublist_cons_self _ _).trans (List.sublist_append_right _ _)
    have hpieces : ∀ piece ∈ PadGraph.arguments behind,
        WellFormed piece ∧ FreeOf ['[', ',', ';', ':'] piece := by
      intro piece hp
      have hs := (sublist_of_mem_split hp).trans hbehind
      exact ⟨hwell.sublist hs, (hfree.subset hs.subset).append_marks (mem_split hp).2⟩
    obtain ⟨harguments, read, hread, hsub⟩ := Argument.of_pieces hpieces
    rw [ofTokens_cut hname]
    have htokens : tokenize (render name) = name := tokenize_render hwellName
    refine ⟨⟨verbatim_render hwellName, ?_, ?_, harguments⟩, ?_⟩
    · rw [htokens]
      exact (freeOf_append.mp hfree).1.append_marks hname
    · rw [htokens]
      cases name with
      | nil => simp
      | cons t ts => exact hhead
    · rw [tokens, htokens]
      refine (List.Sublist.refl name).append ?_
      split
      · cases marked <;> simp
      · exact (intercalate_sublist_of_split hsub hread).cons_cons _

/-! ### Chains, branches and graphs -/

namespace ChainForm

variable {form : ChainForm}

theorem brackets_free {label : List Token} (h : label ∈ form.sources ++ form.destinations) :
    FreeOf brackets label := by
  rcases List.mem_append.mp h with hl | hl
  · exact form.sources_free label hl
  · exact form.destinations_free label hl

theorem bracketed_sublist {label : List Token} (h : label ∈ form.sources ++ form.destinations) :
    (bracketed label).Sublist form.tokens := by
  rcases List.mem_append.mp h with hl | hl
  · have hs : (bracketed label).Sublist (form.sources.flatMap bracketed) :=
      List.sublist_flatten_of_mem (List.mem_map_of_mem hl)
    exact hs.trans (List.sublist_append_left _ _)
  · have hs : (bracketed label).Sublist (form.destinations.flatMap bracketed) :=
      List.sublist_flatten_of_mem (List.mem_map_of_mem hl)
    exact (hs.trans (List.sublist_append_right _ _)).trans (List.sublist_append_right _ _)

theorem wellFormed_label (hwell : WellFormed form.tokens) {label : List Token}
    (h : label ∈ form.sources ++ form.destinations) : WellFormed label := by
  have hlabel : label.Sublist (bracketed label) := by
    simp [bracketed]
  exact hwell.sublist (hlabel.trans (bracketed_sublist h))

/-- A label of a chain holds nothing that would end it or the chain. -/
theorem label_wellWritten (hwell : WellFormed form.tokens)
    (hfree : FreeOf [branchSeparator, chainSeparator] form.tokens) {label : List Token}
    (h : label ∈ form.sources ++ form.destinations) :
    (render label).Closed ∧ FreeOf ['[', ']', ',', ';'] (tokenize (render label)) := by
  have hs : (bracketed label).Sublist form.tokens := bracketed_sublist h
  refine ⟨Text.closed_of_bracketed (hwell.sublist hs), ?_⟩
  rw [tokenize_render (wellFormed_label hwell h)]
  have hothers : FreeOf [branchSeparator, chainSeparator] label :=
    (hfree.subset hs.subset).subset (by simp [bracketed])
  exact ((brackets_free h).append_marks hothers).fewer (by decide)

/-- A node that needs a mark has been read from a chain with a filter. -/
theorem filter_ne_nil (hne : form.tokens ≠ []) (hm : form.node.needsMark = true) :
    form.filter ≠ [] := by
  intro hnil
  -- without a filter there are no destination labels, so there are no source labels either
  have hdestinations := form.destinations_nil hnil
  obtain ⟨-, hends⟩ := Bool.and_eq_true_iff.mp hm
  have hsources : form.sources = [] := by
    simpa [node, hdestinations] using hends
  exact hne (by simp [tokens, hsources, hnil, hdestinations])

end ChainForm

/-- What is read of a chain. -/
theorem Node.of_chain {chain : List Token} {node : Node} (hwell : WellFormed chain)
    (hne : chain ≠ []) (hfree : FreeOf [branchSeparator, chainSeparator] chain)
    (h : readNode chain = .ok node) : node.WellWritten ∧ node.tokens.Sublist chain := by
  obtain ⟨form, rfl, rfl⟩ := ChainForm.exists_of_readNode h
  have hfilter : form.filter.Sublist form.tokens :=
    (List.sublist_append_left _ _).trans (List.sublist_append_right _ _)
  have hmarked : form.node.needsMark = true → form.node.name = [] ∧ form.filter ≠ [] := fun hm =>
    ⟨List.isEmpty_iff.mp (Bool.and_eq_true_iff.mp hm).1, ChainForm.filter_ne_nil hne hm⟩
  have hfilterFree : FreeOf ['[', ',', ';'] form.filter :=
    (form.filter_free.append_marks (hfree.subset hfilter.subset)).fewer (by decide)
  obtain ⟨hspec, hsub⟩ :=
    FilterSpec.of_filter (hwell.sublist hfilter) hfilterFree form.filter_head hmarked
  refine ⟨⟨?_, hspec⟩, ?_⟩
  · intro text ht
    have hmap : text ∈ (form.sources ++ form.destinations).map PadGraph.render := by
      rw [List.map_append]
      exact ht
    obtain ⟨label, hl, rfl⟩ := List.mem_map.mp hmap
    exact ChainForm.label_wellWritten hwell hfree hl
  · have hsources : labelTokens form.node.sourceLabels = form.sources.flatMap bracketed := by
      rw [labelTokens, ChainForm.node, map_tokenize_render fun l hl =>
        ChainForm.wellFormed_label hwell (List.mem_append_left _ hl)]
    have hdestinations :
        labelTokens form.node.destinationLabels = form.destinations.flatMap bracketed := by
      rw [labelTokens, ChainForm.node, map_tokenize_render fun l hl =>
        ChainForm.wellFormed_label hwell (List.mem_append_right _ hl)]
    rw [tokens, hsources, hdestinations]
    exact (List.Sublist.refl _).append (hsub.append (List.Sublist.refl _))

/-- What is read of a branch. -/
theorem Branch.of_chains {tokens : List Token} {branch : Branch} (hwell : WellFormed tokens)
    (hne : tokens ≠ []) (hfree : FreeOf [branchSeparator] tokens)
    (h : (chains tokens).mapM readNode = .ok branch) :
    (∀ node ∈ branch, node.WellWritten) ∧ (Branch.tokens branch).Sublist tokens := by
  have hread : List.Forall₂ (fun node chain => node.WellWritten ∧ node.tokens.Sublist chain)
      branch (chains tokens) := by
    rw [mapM_eq_ok_iff] at h
    refine List.Forall₂.flip (((List.forall₂_and_left _ _).mpr
      ⟨fun chain hc => mem_chains hwell hfree hc, h⟩).imp ?_)
    rintro chain node ⟨⟨hchain, hcne, hcfree⟩, hnode⟩
    exact Node.of_chain hchain hcne hcfree hnode
  obtain ⟨hnodes, hchains⟩ := (List.forall₂_and_left _ _).mp hread
  refine ⟨hnodes, ?_⟩
  cases branch with
  | nil =>
      -- the branch holds only commas, and one of them is what is written of it
      obtain ⟨t, ts, rfl⟩ := List.exists_cons_of_ne_nil hne
      have hnil : split chainSeparator (t :: ts) = [] := List.forall₂_nil_left_iff.mp hchains
      obtain rfl := eq_separator_of_split_eq_nil hnil t (by simp)
      exact (List.nil_sublist ts).cons_cons _
  | cons node nodes =>
      exact intercalate_sublist_of_split (List.forall₂_map_left_iff.mpr hchains)
        (List.Sublist.refl _)

namespace Graph

variable {text : Text} {graph : Graph}

/-- What is read of a text. -/
theorem of_parse (h : parse text = .ok graph) :
    (∀ branch ∈ graph, ∀ node ∈ branch, node.WellWritten) ∧
      graph.tokens.Sublist (tokenize text) := by
  have hread : List.Forall₂ (fun nodes branch =>
      (∀ node ∈ nodes, node.WellWritten) ∧ (Branch.tokens nodes).Sublist branch)
      graph (branches (tokenize text)) := by
    rw [parse_eq, chainsOf, mapM_eq_ok_iff, List.forall₂_map_left_iff] at h
    refine List.Forall₂.flip (((List.forall₂_and_left _ _).mpr
      ⟨fun branch hb => mem_branches hb, h⟩).imp ?_)
    rintro branch nodes ⟨⟨hwell, hne, hfree⟩, hnodes⟩
    exact Branch.of_chains hwell hne hfree hnodes
  obtain ⟨hnodes, hbranches⟩ := (List.forall₂_and_left _ _).mp hread
  exact ⟨hnodes, intercalate_sublist_of_split (List.forall₂_map_left_iff.mpr hbranches)
    (List.Sublist.refl _)⟩

/-- What a text is read into is canonical. -/
theorem canonical_of_parse (h : parse text = .ok graph) : graph.Canonical := by
  obtain ⟨hnodes, hsub⟩ := of_parse h
  have hwell : WellFormed graph.tokens := (wellFormed_tokenize text).sublist hsub
  exact ⟨hnodes, (wellFormed_tokens_iff hnodes).mp hwell⟩

/-- A canonical graph is read back from its written form. -/
theorem Canonical.parse_render (h : graph.Canonical) : parse graph.render = .ok graph :=
  parse_render_of_wellFormed h.nodes ((wellFormed_tokens_iff h.nodes).mpr h.closed)

end Graph

/-! ### Round trips -/

/-- **The graphs that survive being written** are the canonical ones. -/
theorem parse_render_eq_ok_iff (graph : Graph) :
    parse graph.render = .ok graph ↔ graph.Canonical := by
  constructor
  · intro h
    exact Graph.canonical_of_parse h
  · intro h
    exact h.parse_render

-- an empty value is not found again
example : ¬ Graph.Canonical [[⟨[], "fade".toList, [⟨"in".toList, some []⟩], []⟩]] := by
  decide +kernel

-- a quote may stay open at the end of a graph, and only there
example : Graph.Canonical [[.named "x".toList], [.named "'y".toList]] ∧
    ¬ Graph.Canonical [[.named "'y".toList], [.named "x".toList]] := by
  decide +kernel

/-- **A graph that was read is read again from its written form.** -/
theorem parse_render_of_parse {text : Text} {graph : Graph} (h : parse text = .ok graph) :
    parse graph.render = .ok graph := by
  have hcanonical : graph.Canonical := Graph.canonical_of_parse h
  exact hcanonical.parse_render

/-- Separators too many, a value that is replaced, labels without a name, a bracket within a filter,
a branch of commas and an open quote at the end. -/
theorem parse_render_corners :
    let graph : Graph :=
      [[⟨["a".toList, "b".toList], [],
          [⟨"x".toList, some "z".toList⟩, ⟨"k".toList, some "]v".toList⟩], []⟩],
        [⟨["c".toList], "sc]ale".toList, [⟨"w".toList, some "1".toList⟩], []⟩,
          ⟨["in".toList], [], [], ["out".toList]⟩],
        [],
        [⟨[], "n".toList, [⟨"'open\\".toList, none⟩], []⟩]]
    parse "[a][b]=x=y=z::k=]v;;[c]sc]ale=w=1:,,[in]=[out];,;n='open\\".toList = .ok graph ∧
      graph.render = "[a][b]=x=z:k=]v;[c]sc]ale=w=1,[in]=[out];,;n='open\\".toList ∧
      parse graph.render = .ok graph := by
  intro graph
  have h : parse "[a][b]=x=y=z::k=]v;;[c]sc]ale=w=1:,,[in]=[out];,;n='open\\".toList =
      .ok graph := by
    decide +kernel
  exact ⟨h, by decide +kernel, parse_render_of_parse h⟩

end PadGraph
