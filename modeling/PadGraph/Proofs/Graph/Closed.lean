import PadGraph.Proofs.Graph.Written

/-!
# Where the tokens of a graph are closed

A quote that is not closed swallows all that is written behind it. So the tokens of a graph are well
formed exactly when each of its texts is closed behind which something else is written. This is
shown level by level, from the texts of an argument up to the branches of a graph.

* `wellFormed_intercalate_concat` — joined pieces are well formed when all but the last are closed
  and the last is well formed.
* `Argument.WellWritten.wellFormed_tokens_iff`, `FilterSpec.WellWritten.wellFormed_tokens_iff`,
  `Node.WellWritten.wellFormed_tokens_iff` — the levels.
* **`Graph.wellFormed_tokens_iff`** — the tokens of a graph are well formed when its closed texts
  are closed.
-/

namespace PadGraph

/-! ### Pieces and texts -/

/-- Pieces joined by a closed separator are well formed when all of them but the last are closed and
the last is well formed. -/
theorem wellFormed_intercalate_concat {separator : Char} (hs : (Token.plain separator).Closed)
    {init : List (List Token)} {last : List Token} (hne : last ≠ []) :
    WellFormed ([.plain separator].intercalate (init ++ [last])) ↔
      (∀ piece ∈ init, ∀ t ∈ piece, t.Closed) ∧ WellFormed last := by
  rw [intercalate_concat, wellFormed_append hne]
  refine and_congr_left fun _ => ⟨fun h piece hp t ht => ?_, fun h t ht => ?_⟩
  · exact h t (List.mem_flatMap.mpr ⟨piece, hp, by simp [ht]⟩)
  · obtain ⟨piece, hp, ht⟩ := List.mem_flatMap.mp ht
    rcases List.mem_append.mp ht with ht | ht
    · exact h piece hp t ht
    · exact List.mem_singleton.mp ht ▸ hs

theorem closed_map_tokenize_iff {texts : List Text} (h : ∀ text ∈ texts, text.Verbatim) :
    (∀ piece ∈ texts.map tokenize, ∀ t ∈ piece, t.Closed) ↔ ∀ text ∈ texts, text.Closed := by
  rw [List.forall_mem_map]
  refine forall₂_congr fun text ht => ?_
  rw [Text.closed_iff]
  exact (and_iff_right (h text ht)).symm

namespace Argument

variable {argument : Argument}

theorem WellWritten.closed_tokens_iff (h : argument.WellWritten) :
    (∀ t ∈ argument.tokens, t.Closed) ↔ ∀ text ∈ argument.texts, text.Closed := by
  rw [tokens, forall_mem_intercalate (by decide),
    closed_map_tokenize_iff fun text ht => (h text ht).2.1]

theorem WellWritten.wellFormed_tokens_iff (h : argument.WellWritten) :
    WellFormed argument.tokens ↔ ∀ text ∈ argument.texts.dropLast, text.Closed := by
  rcases List.eq_nil_or_concat' argument.texts with hnil | ⟨init, last, htexts⟩
  · simp [texts] at hnil
  · rw [WellWritten, htexts] at h
    obtain ⟨hne, hverbatim, -⟩ := h last (by simp)
    have hlast : tokenize last ≠ [] := fun hnil => hne (hverbatim.tokenize_eq_nil.mp hnil)
    rw [tokens, htexts, List.map_append, List.map_singleton,
      wellFormed_intercalate_concat (by decide) hlast, List.dropLast_concat,
      closed_map_tokenize_iff fun text ht => (h text (by simp [ht])).2.1]
    exact and_iff_left (wellFormed_tokenize last)

end Argument

namespace FilterSpec.WellWritten

variable {spec : FilterSpec}

theorem closed_tokens_iff (h : spec.WellWritten) (marked : Bool) :
    (∀ t ∈ spec.tokens marked, t.Closed) ↔ ∀ text ∈ spec.texts, text.Closed := by
  obtain ⟨name, arguments⟩ := spec
  have hname : (∀ t ∈ tokenize name, t.Closed) ↔ name.Closed := by
    rw [Text.closed_iff]
    exact (and_iff_right h.name_verbatim).symm
  rw [tokens, texts, List.forall_mem_append, List.forall_mem_cons, hname]
  refine and_congr_right fun _ => ?_
  cases arguments with
  | nil =>
      cases marked with
      | false => simp
      | true =>
          have hmark : (Token.plain assignMark).Closed := by decide
          simpa using hmark
  | cons argument arguments =>
      have hall : ∀ a ∈ argument :: arguments, a.WellWritten := h.arguments
      show (∀ t ∈ .plain assignMark :: [Token.plain argumentSeparator].intercalate
        ((argument :: arguments).map Argument.tokens), t.Closed) ↔ _
      rw [List.forall_mem_cons, forall_mem_intercalate (by decide), List.forall_mem_map,
        List.forall_mem_flatMap]
      refine (and_iff_right (by decide)).trans (forall₂_congr fun a ha => ?_)
      exact (hall a ha).closed_tokens_iff

/-- A filter is well formed when all its texts but the last are closed. A mark is written behind an
empty name only. -/
theorem wellFormed_tokens_iff (h : spec.WellWritten) {marked : Bool}
    (hmarked : marked = true → spec.name = []) :
    WellFormed (spec.tokens marked) ↔ ∀ text ∈ spec.texts.dropLast, text.Closed := by
  obtain ⟨name, arguments⟩ := spec
  rcases List.eq_nil_or_concat' arguments with rfl | ⟨init, last, rfl⟩
  · rw [tokens, texts]
    cases marked with
    | false => simpa using wellFormed_tokenize name
    | true =>
        obtain rfl : name = [] := hmarked rfl
        exact iff_of_true (wellFormed_of_closed (by decide)) (by simp)
  · have hall : ∀ a ∈ init ++ [last], a.WellWritten := h.arguments
    have hlast := hall last (by simp)
    have htexts : (texts ⟨name, init ++ [last]⟩).dropLast =
        name :: (init.flatMap Argument.texts ++ last.texts.dropLast) := by
      rw [texts, List.flatMap_append, List.flatMap_singleton, ← List.cons_append,
        List.dropLast_append_of_ne_nil (by simp [Argument.texts])]
      rfl
    have htokens : tokens ⟨name, init ++ [last]⟩ marked =
        tokenize name ++ ([.plain assignMark] ++
          [.plain argumentSeparator].intercalate (init.map Argument.tokens ++ [last.tokens])) := by
      rw [tokens]
      cases init <;> simp
    rw [htokens, htexts, wellFormed_append (by simp), wellFormed_append_of_closed (by decide),
      wellFormed_intercalate_concat (by decide) hlast.tokens_ne_nil, List.forall_mem_cons,
      List.forall_mem_append, List.forall_mem_map, List.forall_mem_flatMap, Text.closed_iff,
      and_iff_right (show name.Verbatim from h.name_verbatim), hlast.wellFormed_tokens_iff]
    refine and_congr_right fun _ => and_congr_left fun _ => forall₂_congr fun a ha => ?_
    exact (hall a (by simp [ha])).closed_tokens_iff

end FilterSpec.WellWritten

theorem closed_labelTokens {labels : List Text} (h : ∀ label ∈ labels, label.Closed) :
    ∀ t ∈ labelTokens labels, t.Closed := by
  intro t ht
  obtain ⟨tokens, hlabel, ht⟩ := List.mem_flatMap.mp ht
  obtain ⟨label, hl, rfl⟩ := List.mem_map.mp hlabel
  have hclosed := (Text.closed_iff.mp (h label hl)).2
  simp only [bracketed, List.mem_cons, List.mem_append, List.not_mem_nil, or_false] at ht
  rcases ht with rfl | ht | rfl
  · decide
  · exact hclosed t ht
  · decide

theorem labelTokens_concat (labels : List Text) (label : Text) :
    labelTokens (labels ++ [label]) =
      labelTokens labels ++ .plain '[' :: tokenize label ++ [.plain ']'] := by
  simp [labelTokens, bracketed]

namespace Node.WellWritten

variable {node : Node}

theorem closed_tokens_iff (h : node.WellWritten) :
    (∀ t ∈ node.tokens, t.Closed) ↔ ∀ text ∈ node.spec.texts, text.Closed := by
  have hsources := closed_labelTokens fun l hl => (h.labels l (List.mem_append_left _ hl)).1
  have hdestinations := closed_labelTokens fun l hl => (h.labels l (List.mem_append_right _ hl)).1
  rw [tokens, filterTokens, List.forall_mem_append, List.forall_mem_append,
    h.spec.closed_tokens_iff, and_iff_right hsources, and_iff_left hdestinations]

/-- The tokens of a node are well formed when the texts are closed behind which more of it is
written. -/
theorem wellFormed_tokens_iff (h : node.WellWritten) :
    WellFormed node.tokens ↔ ∀ text ∈ node.closedTexts, text.Closed := by
  rcases List.eq_nil_or_concat' node.destinationLabels with hnil | ⟨init, last, hlabels⟩
  · have hsources := closed_labelTokens fun l hl => (h.labels l (List.mem_append_left _ hl)).1
    have hmark : node.needsMark = true → node.spec.name = [] := fun hm =>
      List.isEmpty_iff.mp (Bool.and_eq_true_iff.mp hm).1
    rw [closedTexts, if_pos (by simp [isSink, hnil]), ← h.spec.wellFormed_tokens_iff hmark, tokens,
      hnil, wellFormed_append_of_closed hsources]
    simp [labelTokens, filterTokens]
  · rw [closedTexts, if_neg (by simp [isSink, hlabels]), ← h.closed_tokens_iff, tokens, hlabels,
      labelTokens_concat, ← List.append_assoc, ← List.append_assoc,
      wellFormed_concat (by decide)]

end Node.WellWritten

/-- The tokens of a branch with nodes are those of its nodes, joined. -/
theorem Branch.tokens_concat (init : Branch) (node : Node) :
    Branch.tokens (init ++ [node]) =
      [.plain chainSeparator].intercalate (init.map Node.tokens ++ [node.tokens]) := by
  cases init with
  | nil => rfl
  | cons first init => simp [Branch.tokens]

theorem Branch.closed_tokens_iff {branch : Branch} (h : ∀ node ∈ branch, node.WellWritten) :
    (∀ t ∈ Branch.tokens branch, t.Closed) ↔
      ∀ text ∈ branch.flatMap (fun n => n.spec.texts), text.Closed := by
  rcases List.eq_nil_or_concat' branch with rfl | ⟨init, node, rfl⟩
  · exact iff_of_true (by decide) (by simp)
  · rw [Branch.tokens_concat, forall_mem_intercalate (by decide), ← List.map_singleton,
      ← List.map_append, List.forall_mem_map, List.forall_mem_flatMap]
    exact forall₂_congr fun n hn => (h n hn).closed_tokens_iff

/-- **The tokens of a graph are well formed when its closed texts are closed.** -/
theorem Graph.wellFormed_tokens_iff {graph : Graph}
    (h : ∀ branch ∈ graph, ∀ node ∈ branch, node.WellWritten) :
    WellFormed graph.tokens ↔ ∀ text ∈ graph.closedTexts, text.Closed := by
  rcases List.eq_nil_or_concat' graph with rfl | ⟨init, branch, rfl⟩
  · simpa [closedTexts, texts, tokens] using wellFormed_of_closed (by simp)
  · have hbranch := h branch (by simp)
    have hinit : (∀ piece ∈ init.map Branch.tokens, ∀ t ∈ piece, t.Closed) ↔
        ∀ text ∈ texts init, text.Closed := by
      rw [List.forall_mem_map, texts, List.forall_mem_flatMap]
      exact forall₂_congr fun b hb => Branch.closed_tokens_iff (h b (by simp [hb]))
    rw [tokens, List.map_append, List.map_singleton,
      wellFormed_intercalate_concat (by decide) (Branch.freeOf_tokens hbranch).1, hinit]
    rcases List.eq_nil_or_concat' branch with rfl | ⟨nodes, node, rfl⟩
    · rw [closedTexts_concat_nil]
      exact and_iff_left (wellFormed_of_closed (by decide))
    · have hnode := hbranch node (by simp)
      rw [closedTexts_concat_concat, Branch.tokens_concat,
        wellFormed_intercalate_concat (by decide) hnode.freeOf_tokens.1,
        hnode.wellFormed_tokens_iff, List.forall_mem_append, List.forall_mem_append,
        List.forall_mem_map, List.forall_mem_flatMap]
      refine and_congr_right fun _ => and_congr_left fun _ => forall₂_congr fun n hn => ?_
      exact (hbranch n (by simp [hn])).closed_tokens_iff

end PadGraph
