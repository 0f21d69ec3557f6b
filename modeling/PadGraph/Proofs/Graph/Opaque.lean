import PadGraph.Proofs.Graph.Runs

/-!
# Opaque tokens

An escaped character and a quoted span are written down where they stand, and nothing else is done
with them: no part of a graph begins or ends because of what they hold. So when they are replaced by
others, a text keeps its branches, chains, labels and arguments, or the chain and the cause for which
it cannot be read, and only what is written in them changes.

* `KeepsPlain` — a replacement of tokens that no comparison with a plain character notices.
* `chainsOf_map`, `readFrom_map`, `ofTokens_map` — every way of cutting tokens passes such a
  replacement on to the parts.
* **`readNode_map`** — a node of replaced tokens is what is cut out of the chain, written down with
  its tokens replaced.
* `OpaqueMap` — a replacement of the opaque tokens by opaque tokens.
* **`readTokens_map`** — a graph of tokens has the same shape for all replacements of opaque tokens.
-/

namespace PadGraph

/-! ### Replacements that no comparison notices -/

/-- Every token stays the plain character that it is, or stays none. -/
def KeepsPlain (f : Token → Token) : Prop := ∀ t c, (f t).isPlain c = t.isPlain c

/-- How tokens are written behind a replacement. -/
def writtenAs (f : Token → Token) (run : List Token) : Text := render (run.map f)

theorem keepsPlain_id : KeepsPlain id := fun _ _ => rfl

theorem writtenAs_id : writtenAs id = render := by
  funext run
  rw [writtenAs, List.map_id]

namespace KeepsPlain

variable {f : Token → Token} (hf : KeepsPlain f)
include hf

theorem map_plain (c : Char) : f (.plain c) = .plain c := by
  have hplain : (f (.plain c)).isPlain c = true := by
    rw [hf]
    simp [Token.isPlain]
  exact Token.isPlain_iff.mp hplain

theorem freeOf_map {marks : List Char} {tokens : List Token} :
    FreeOf marks (tokens.map f) ↔ FreeOf marks tokens := by
  simp only [FreeOf, List.forall_mem_map, hf _ _]

theorem split_map_free {separator : Char} {tokens : List Token} (h : FreeOf [separator] tokens) :
    split separator (tokens.map f) = (split separator tokens).map (List.map f) := by
  rcases eq_or_ne tokens [] with rfl | hne
  · simp
  · rw [h.split_eq hne, (hf.freeOf_map.mpr h).split_eq (by simpa using hne)]
    rfl

theorem split_map (separator : Char) (tokens : List Token) :
    split separator (tokens.map f) = (split separator tokens).map (List.map f) := by
  induction tokens using split_induction separator with
  | piece tokens hfree => exact hf.split_map_free hfree
  | cut front back hfree ih =>
      rw [List.map_append, List.map_cons, hf.map_plain, split_append_cons, split_append_cons, ih,
        hf.split_map_free hfree, List.map_append]

theorem chainsOf_map (tokens : List Token) :
    chainsOf (tokens.map f) = (chainsOf tokens).map (List.map (List.map f)) := by
  rw [chainsOf, chainsOf, branches, branches, hf.split_map, List.map_map, List.map_map]
  congr 1
  funext branch
  exact hf.split_map chainSeparator branch

theorem takeWhile_map (mark : Char) (tokens : List Token) :
    (tokens.map f).takeWhile (!·.isPlain mark) = (tokens.takeWhile (!·.isPlain mark)).map f := by
  rw [List.takeWhile_map]
  congr 2
  funext t
  simp [hf t]

theorem dropWhile_map (mark : Char) (tokens : List Token) :
    (tokens.map f).dropWhile (!·.isPlain mark) = (tokens.dropWhile (!·.isPlain mark)).map f := by
  rw [List.dropWhile_map]
  congr 2
  funext t
  simp [hf t]

theorem readFrom_map (opened : Option (List Token)) (tokens : List Token) :
    Labels.readFrom (opened.map (List.map f)) (tokens.map f) =
      (Labels.readFrom opened tokens).map fun (labels, behind) =>
        (labels.map (List.map f), behind.map f) := by
  fun_induction Labels.readFrom opened tokens with
  | case1 => rfl
  | case2 => rfl
  | case3 t rest ho ih =>
      rw [List.map_cons, Option.map_none, Labels.readFrom, hf, if_pos ho]
      exact ih
  | case4 t rest ho hc =>
      rw [List.map_cons, Option.map_none, Labels.readFrom, hf, hf, if_neg ho, if_pos hc]
      rfl
  | case5 t rest ho hc =>
      rw [List.map_cons, Option.map_none, Labels.readFrom, hf, hf, if_neg ho, if_neg hc]
      rfl
  | case6 label t rest hc ih =>
      -- a label that is closed was reversed, and replacing its tokens passes that
      rw [List.map_cons, Option.map_some, Labels.readFrom, hf, if_pos hc]
      rw [Option.map_none] at ih
      rw [ih]
      cases Labels.readFrom none rest <;> simp
  | case7 label t rest hc ho =>
      rw [List.map_cons, Option.map_some, Labels.readFrom, hf, hf, if_neg hc, if_pos ho]
      rfl
  | case8 label t rest hc ho ih =>
      rw [List.map_cons, Option.map_some, Labels.readFrom, hf, hf, if_neg hc, if_neg ho]
      exact ih

theorem read_map (tokens : List Token) :
    Labels.read (tokens.map f) = (Labels.read tokens).map fun (labels, behind) =>
      (labels.map (List.map f), behind.map f) :=
  hf.readFrom_map none tokens

/-! ### Chains behind a replacement -/

theorem ofTokens?_map {tokens : List Token} (h : ∀ t ∈ tokens, (f t).text ≠ []) :
    Argument.ofTokens? (tokens.map f) =
      (ArgumentRuns.ofTokens? tokens).map (ArgumentRuns.write (writtenAs f)) := by
  rw [Argument.ofTokens?_eq (by simpa using h), hf.split_map, ArgumentRuns.ofTokens?]
  cases split assignMark tokens with
  | nil => rfl
  | cons key values =>
      simp only [List.map_cons, Argument.ofPieces?, ArgumentRuns.ofPieces?, Option.map_some,
        ArgumentRuns.write, writtenAs, List.getLast?_map, Option.map_map]
      rfl

theorem ofTokens_map {filter : List Token} (h : ∀ t ∈ filter, (f t).text ≠ []) :
    FilterSpec.ofTokens (filter.map f) =
      ⟨writtenAs f (nameRun filter),
        (argumentRuns filter).map (ArgumentRuns.write (writtenAs f))⟩ := by
  have hpieces : ∀ piece ∈ argumentPieces filter,
      Argument.ofTokens? (piece.map f) =
        (ArgumentRuns.ofTokens? piece).map (ArgumentRuns.write (writtenAs f)) := by
    intro piece hpiece
    apply hf.ofTokens?_map
    intro t ht
    have hmem : t ∈ (argumentPieces filter).flatten := List.mem_flatten.mpr ⟨piece, hpiece, ht⟩
    exact h t ((argumentPieces_sublist filter).subset (List.mem_append_right _ hmem))
  have hmap : arguments ((filter.map f).dropWhile (!·.isPlain '=')).tail =
      (argumentPieces filter).map (List.map f) := by
    rw [hf.dropWhile_map, ← List.map_tail]
    exact hf.split_map argumentSeparator _
  rw [FilterSpec.ofTokens, hf.takeWhile_map, hmap, List.filterMap_map, argumentRuns,
    List.map_filterMap]
  congr 1
  exact List.filterMap_congr hpieces

theorem readDestinations_map (chain tokens : List Token) :
    readDestinations (chain.map f) (tokens.map f) =
      ((cutDestinations tokens).map (List.map (writtenAs f))).mapError
        (ChainFault.write (writtenAs f) chain) := by
  rw [readDestinations, hf.read_map, cutDestinations]
  cases Labels.read tokens with
  | none => rfl
  | some found =>
      obtain ⟨labels, rest⟩ := found
      cases rest with
      | cons content rest =>
          have hcontent : (f content).text = writtenAs f [content] := by
            simp [writtenAs]
          show Except.error (ChainError.trailingContent _ (f content).text) = _
          rw [hcontent]
          rfl
      | nil =>
          show Except.ok ((labels.map (List.map f)).map render) = _
          rw [List.map_map]
          rfl

/-- **Nodes of replaced tokens.** A chain in which tokens are replaced is read as what is cut out of
the chain, written down with its tokens replaced. -/
theorem readNode_map {chain : List Token} (h : ∀ t ∈ chain, (f t).text ≠ []) :
    readNode (chain.map f) =
      ((cutNode chain).map (NodeRuns.write (writtenAs f))).mapError
        (ChainFault.write (writtenAs f) chain) := by
  have hmap := hf.read_map chain
  cases hread : Labels.read chain with
  | none =>
      rw [hread] at hmap
      rw [readNode, decompose, readSources, hmap, cutNode, hread]
      rfl
  | some found =>
      obtain ⟨sources, behind⟩ := found
      rw [hread] at hmap
      have hbehind : behindFilter (behind.map f) = (behindFilter behind).map f :=
        hf.dropWhile_map '[' behind
      have hfilter : filterPart (behind.map f) = (filterPart behind).map f :=
        hf.takeWhile_map '[' behind
      have htexts : ∀ t ∈ filterPart behind, (f t).text ≠ [] := by
        intro t ht
        obtain ⟨rfl, -, -⟩ := Labels.read_eq_some_iff.mp hread
        exact h t (List.mem_append_right _ ((List.takeWhile_sublist _).subset ht))
      rw [readNode, decompose_of_read hmap, hbehind, hfilter, hf.readDestinations_map,
        cutNode_of_read hread]
      cases cutDestinations (behindFilter behind) with
      | error fault => rfl
      | ok destinations =>
          show Except.ok (Node.ofParts ⟨_, (filterPart behind).map f, _⟩) = _
          rw [Node.ofParts, hf.ofTokens_map htexts, List.map_map]
          rfl

/-! ### Graphs behind a replacement -/

/-- When all chains can be cut, replaced tokens give what is cut out of them, written down with its
tokens replaced. -/
theorem readTokens_map_ok {tokens : List Token} {graph : List (List NodeRuns)}
    (htexts : ∀ t ∈ tokens, (f t).text ≠ []) (h : cutTokens tokens = .ok graph) :
    readTokens (tokens.map f) = .ok (graph.map (List.map (NodeRuns.write (writtenAs f)))) := by
  rw [cutTokens, mapM_eq_ok_iff] at h
  rw [readTokens_eq, hf.chainsOf_map, mapM_eq_ok_iff, List.forall₂_map_left_iff,
    List.forall₂_map_right_iff]
  refine ((List.forall₂_and_left _ _).mpr ⟨fun _ hmem => hmem, h⟩).imp ?_
  rintro branch row ⟨hbranch, hrow⟩
  rw [mapM_eq_ok_iff] at hrow
  rw [mapM_eq_ok_iff, List.forall₂_map_left_iff, List.forall₂_map_right_iff]
  refine ((List.forall₂_and_left _ _).mpr ⟨fun _ hmem => hmem, hrow⟩).imp ?_
  rintro chain runs ⟨hchain, hruns⟩
  have hsub := sublist_of_mem_chainsOf (List.mem_flatten.mpr ⟨branch, hbranch, hchain⟩)
  rw [hf.readNode_map fun t ht => htexts t (hsub.subset ht), hruns]
  rfl

/-- The first chain that cannot be cut ends the reading of replaced tokens, too. -/
theorem readTokens_map_error {tokens chain : List Token} {before behind : List (List Token)}
    {fault : ChainFault} (htexts : ∀ t ∈ tokens, (f t).text ≠ [])
    (hchains : (chainsOf tokens).flatten = before ++ chain :: behind)
    (hbefore : ∀ earlier ∈ before, ∃ runs, cutNode earlier = .ok runs)
    (hchain : cutNode chain = .error fault) :
    (∀ earlier ∈ before, ∃ parts, decompose (earlier.map f) = .ok parts) ∧
      decompose (chain.map f) = .error (fault.write (writtenAs f) chain) ∧
      readTokens (tokens.map f) = .error (fault.write (writtenAs f) chain) := by
  have hread : ∀ other ∈ before ++ chain :: behind, readNode (other.map f) =
      ((cutNode other).map (NodeRuns.write (writtenAs f))).mapError
        (ChainFault.write (writtenAs f) other) := by
    intro other hother
    have hsub := sublist_of_mem_chainsOf (hchains ▸ hother)
    exact hf.readNode_map fun t ht => htexts t (hsub.subset ht)
  have hfirst : ∀ earlier ∈ before, ∃ node, readNode (earlier.map f) = .ok node := by
    intro earlier hearlier
    obtain ⟨runs, hruns⟩ := hbefore earlier hearlier
    rw [hread earlier (by simp [hearlier]), hruns]
    exact ⟨_, rfl⟩
  have herror : readNode (chain.map f) = .error (fault.write (writtenAs f) chain) := by
    rw [hread chain (by simp), hchain]
    rfl
  refine ⟨?_, readNode_eq_error.mp herror, ?_⟩
  · intro earlier hearlier
    obtain ⟨node, hnode⟩ := hfirst earlier hearlier
    exact exists_parts_of_readNode hnode
  · rw [readTokens_eq, hf.chainsOf_map, mapM_mapM_eq_error_iff]
    refine ⟨before.map (List.map f), chain.map f, behind.map (List.map f), ?_, ?_, herror⟩
    · rw [← List.map_flatten, hchains, List.map_append, List.map_cons]
    · simpa using hfirst

end KeepsPlain

/-! ### Opaque tokens -/

/-- The token is no plain character, and something is written for it. -/
def Token.Opaque : Token → Prop
  | .plain _ => False
  | .escaped _ => True
  | .quoted span => span ≠ []

theorem Token.Opaque.isPlain {t : Token} (h : t.Opaque) (c : Char) : t.isPlain c = false := by
  cases t with
  | plain d => exact h.elim
  | escaped d => rfl
  | quoted span => rfl

theorem Token.Opaque.text_ne_nil {t : Token} (h : t.Opaque) : t.text ≠ [] := by
  cases t with
  | plain c => exact h.elim
  | escaped c => simp [Token.text]
  | quoted span => exact h

/-- A replacement of the opaque tokens by opaque tokens. -/
structure OpaqueMap where
  toFun : Token → Token
  plain : ∀ c, toFun (.plain c) = .plain c
  escaped : ∀ c, (toFun (.escaped c)).Opaque
  quoted : ∀ span, (toFun (.quoted span)).Opaque

namespace OpaqueMap

instance : CoeFun OpaqueMap fun _ => Token → Token := ⟨toFun⟩

/-- Every opaque token becomes the same one. -/
def const (t : Token) (h : t.Opaque) : OpaqueMap where
  toFun
    | .plain c => .plain c
    | .escaped _ => t
    | .quoted _ => t
  plain _ := rfl
  escaped _ := h
  quoted _ := h

theorem keepsPlain (f : OpaqueMap) : KeepsPlain f := by
  intro t c
  cases t with
  | plain d => rw [f.plain]
  | escaped d => exact (f.escaped d).isPlain c
  | quoted span => exact (f.quoted span).isPlain c

theorem text_ne_nil (f : OpaqueMap) (t : Token) : (f t).text ≠ [] := by
  cases t with
  | plain c => simp [f.plain, Token.text]
  | escaped c => exact (f.escaped c).text_ne_nil
  | quoted span => exact (f.quoted span).text_ne_nil

end OpaqueMap

theorem quoted_nil_notMem_tokenize (text : Text) : .quoted [] ∉ tokenize text := by
  intro h
  exact (wellFormed_tokenize text).text_ne_nil _ h rfl

theorem text_ne_nil_of_notMem {tokens : List Token} (h : .quoted [] ∉ tokens) :
    ∀ t ∈ tokens, t.text ≠ [] := by
  intro t ht
  cases t with
  | plain c => simp [Token.text]
  | escaped c => simp [Token.text]
  | quoted span =>
      rintro rfl
      exact h ht

/-- **Opaque tokens have no say in the structure.** No text is scanned into an empty quoted span. Of
tokens without one, let the escaped characters and quoted spans be replaced by others. The chains
stay what they are, with their tokens replaced. Either all are read, and the same lists of tokens are
written down as labels, names, keys and values with and without the replacement; or the same chain is
the first that cannot be read, for the same cause. -/
theorem readTokens_map :
    (∀ text, .quoted [] ∉ tokenize text) ∧
    ∀ tokens, .quoted [] ∉ tokens →
      (∀ f : OpaqueMap,
        chainsOf (tokens.map f) = (chainsOf tokens).map (List.map (List.map f))) ∧
      ((∃ graph : List (List NodeRuns),
          List.Forall₂ (List.Forall₂ fun chain runs => runs.tokens.Sublist chain)
            (chainsOf tokens) graph ∧
          readTokens tokens = .ok (graph.map (List.map (NodeRuns.write render))) ∧
          ∀ f : OpaqueMap, readTokens (tokens.map f) =
            .ok (graph.map (List.map (NodeRuns.write (writtenAs f))))) ∨
        ∃ (before : List (List Token)) (chain : List Token) (behind : List (List Token))
            (fault : ChainFault),
          (chainsOf tokens).flatten = before ++ chain :: behind ∧
          (∀ content, fault = .trailingContent content → content ∈ chain) ∧
          (∀ earlier ∈ before, ∃ parts, decompose earlier = .ok parts) ∧
          decompose chain = .error (fault.write render chain) ∧
          readTokens tokens = .error (fault.write render chain) ∧
          ∀ f : OpaqueMap,
            (∀ earlier ∈ before, ∃ parts, decompose (earlier.map f) = .ok parts) ∧
            decompose (chain.map f) = .error (fault.write (writtenAs f) chain) ∧
            readTokens (tokens.map f) = .error (fault.write (writtenAs f) chain)) := by
  refine ⟨quoted_nil_notMem_tokenize, ?_⟩
  intro tokens hquoted
  have htexts := text_ne_nil_of_notMem hquoted
  refine ⟨fun f => f.keepsPlain.chainsOf_map tokens, ?_⟩
  cases hcut : cutTokens tokens with
  | ok graph =>
      left
      have hsame := keepsPlain_id.readTokens_map_ok htexts hcut
      rw [List.map_id, writtenAs_id] at hsame
      refine ⟨graph, cutTokens_sublist hcut, hsame, ?_⟩
      intro f
      exact f.keepsPlain.readTokens_map_ok (fun t _ => f.text_ne_nil t) hcut
  | error fault =>
      right
      obtain ⟨before, chain, behind, hchains, hbefore, hchain⟩ := mapM_mapM_eq_error_iff.mp hcut
      obtain ⟨hfirst, herror, hsame⟩ :=
        keepsPlain_id.readTokens_map_error htexts hchains hbefore hchain
      simp only [List.map_id, writtenAs_id] at hfirst herror hsame
      refine ⟨before, chain, behind, fault, hchains, ?_, hfirst, herror, hsame, ?_⟩
      · rintro content rfl
        exact mem_of_cutNode hchain
      · intro f
        exact f.keepsPlain.readTokens_map_error (fun t _ => f.text_ne_nil t) hchains hbefore hchain

/-- A label that holds an escaped bracket stays a label, and arguments that hold opaque marks stay
arguments, when a quoted separator takes the place of each. -/
theorem readTokens_map_marks :
    let tokens : List Token := [.plain '[', .escaped ']', .plain ']', .plain 'f', .plain '=',
      .quoted ['\'', '=', '\''], .plain ':', .plain 'k', .plain '=', .escaped ',']
    let f : OpaqueMap := .const (.quoted [';']) (by simp [Token.Opaque])
    .quoted [] ∉ tokens ∧
      readTokens (tokens.map f) = .ok [[{
        sourceLabels := [[';']], name := ['f'],
        arguments := [⟨[';'], none⟩, ⟨['k'], some [';']⟩] }]] ∧
      ∃ graph : List (List NodeRuns),
        readTokens tokens = .ok (graph.map (List.map (NodeRuns.write render))) ∧
        readTokens (tokens.map f) = .ok (graph.map (List.map (NodeRuns.write (writtenAs f)))) := by
  intro tokens f
  have hquoted : .quoted [] ∉ tokens := by decide
  have hread : readTokens (tokens.map f) = .ok _ := rfl
  refine ⟨hquoted, hread, ?_⟩
  obtain ⟨graph, -, hsame, hmap⟩ | ⟨_, _, _, _, _, _, _, _, _, hmap⟩ :=
    (readTokens_map.2 tokens hquoted).2
  · exact ⟨graph, hsame, hmap f⟩
  · cases hread.symm.trans (hmap f).2.2

end PadGraph
