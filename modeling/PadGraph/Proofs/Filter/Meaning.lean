import PadGraph.Proofs.Graph.Opaque

/-!
# What a filter says

A filter is read in one pass over each of its arguments. What it says can be told without one: the
name stands before the first equals sign; behind it the runs between colons are the arguments, and in
each the first run between equals signs is the key and the last one behind it the value.

* `Runs` — the runs of tokens between separators, as a relation of its own.
* `split_eq_iff` — splitting gives the runs.
* `FilterSpec.Means` — what some tokens say as a filter.
* `FilterSpec.Means.exists_piece` — keys and values are written by tokens of the filter without its
  marks.
* **`FilterSpec.ofTokens_eq_iff`** — a filter is read as what it says.
-/

namespace PadGraph

/-! ### Runs between separators -/

/-- The runs of some tokens between separators, in order. None is empty, none holds a separator, and
each reaches from a separator, or the beginning, to the next one, or the end. -/
inductive Runs (separator : Char) : List Token → List (List Token) → Prop
  | nil : Runs separator [] []
  | separator {tokens : List Token} {runs : List (List Token)} (h : Runs separator tokens runs) :
    Runs separator (.plain separator :: tokens) runs
  | last {run : List Token} (hne : run ≠ []) (hfree : FreeOf [separator] run) :
    Runs separator run [run]
  | run {run tokens : List Token} {runs : List (List Token)} (hne : run ≠ [])
    (hfree : FreeOf [separator] run) (h : Runs separator tokens runs) :
    Runs separator (run ++ .plain separator :: tokens) (run :: runs)

theorem runs_split (separator : Char) (tokens : List Token) :
    Runs separator tokens (split separator tokens) := by
  induction tokens using split_induction separator with
  | piece tokens hfree =>
      rcases eq_or_ne tokens [] with rfl | hne
      · rw [split_nil]
        exact .nil
      · rw [hfree.split_eq hne]
        exact .last hne hfree
  | cut front back hfree ih =>
      rcases eq_or_ne front [] with rfl | hne
      · rw [List.nil_append, split_separator_cons]
        exact .separator ih
      · rw [split_piece_cons hne hfree]
        exact .run hne hfree ih

namespace Runs

variable {separator : Char} {tokens : List Token} {runs : List (List Token)}

theorem split_eq (h : Runs separator tokens runs) : split separator tokens = runs := by
  induction h with
  | nil => exact split_nil separator
  | separator _ ih => rw [split_separator_cons, ih]
  | last hne hfree => exact hfree.split_eq hne
  | run hne hfree _ ih => rw [split_piece_cons hne hfree, ih]

/-- A run stands in the tokens without a gap. -/
theorem infix_of_mem (h : Runs separator tokens runs) {run : List Token} (hr : run ∈ runs) :
    run <:+: tokens := by
  induction h with
  | nil => cases hr
  | separator _ ih => exact (ih hr).trans (List.suffix_cons _ _).isInfix
  | last => exact List.mem_singleton.mp hr ▸ List.infix_rfl
  | @run first rest _ _ _ _ ih =>
      rcases List.mem_cons.mp hr with rfl | hr
      · exact (List.prefix_append _ _).isInfix
      · exact (ih hr).trans ((List.suffix_cons _ _).trans (List.suffix_append _ _)).isInfix

end Runs

/-- **Splitting gives the runs between separators**, and nothing else is these runs. -/
theorem split_eq_iff {separator : Char} {tokens : List Token} {runs : List (List Token)} :
    split separator tokens = runs ↔ Runs separator tokens runs := by
  constructor
  · rintro rfl
    exact runs_split separator tokens
  · exact Runs.split_eq

theorem forall₂_runs_iff {separator : Char} {rows : List (List Token)}
    {runs : List (List (List Token))} :
    List.Forall₂ (Runs separator) rows runs ↔ rows.map (split separator) = runs := by
  have hsame : Runs separator = fun row run => split separator row = run := by
    funext row run
    exact propext split_eq_iff.symm
  rw [hsame, ← List.forall₂_map_left_iff (R := Eq), List.forall₂_eq_eq_eq]

/-! ### Filters -/

namespace FilterSpec

/-- What some tokens say as a filter. Without an equals sign they are its name. Else the name stands
before the first one, each run between colons behind it gives an argument, and its own runs between
equals signs are the key and the values of which the last one counts; a run without any gives none. -/
inductive Means : List Token → FilterSpec → Prop
  | name {tokens : List Token} (hfree : FreeOf [assignMark] tokens) :
    Means tokens ⟨render tokens, []⟩
  | arguments {name behind : List Token} {runs : List (List Token)}
    {pieces : List (List (List Token))} (hfree : FreeOf [assignMark] name)
    (hruns : Runs argumentSeparator behind runs)
    (hpieces : List.Forall₂ (Runs assignMark) runs pieces) :
    Means (name ++ .plain assignMark :: behind)
      ⟨render name, pieces.filterMap Argument.ofPieces?⟩

/-- Each argument is read by the runs between its equals signs. -/
theorem filterMap_ofTokens? {runs : List (List Token)}
    (h : ∀ run ∈ runs, ∀ t ∈ run, t.text ≠ []) :
    runs.filterMap Argument.ofTokens? =
      (runs.map (split assignMark)).filterMap Argument.ofPieces? := by
  rw [List.filterMap_map]
  exact List.filterMap_congr fun run hr => Argument.ofTokens?_eq (h run hr)

theorem means_ofTokens {tokens : List Token} (h : ∀ t ∈ tokens, t.text ≠ []) :
    Means tokens (ofTokens tokens) := by
  rcases freeOf_or_cut assignMark tokens with hname | ⟨name, behind, hname, rfl⟩
  · rw [ofTokens_free hname]
    exact .name hname
  · have hruns : ∀ run ∈ PadGraph.arguments behind, ∀ t ∈ run, t.text ≠ [] := by
      intro run hr t ht
      have hmem : t ∈ behind := (sublist_of_mem_split hr).subset ht
      exact h t (by simp [hmem])
    rw [ofTokens_cut hname, filterMap_ofTokens? hruns]
    exact .arguments hname (runs_split _ _) (forall₂_runs_iff.mpr rfl)

theorem Means.ofTokens_eq {tokens : List Token} {spec : FilterSpec}
    (h : ∀ t ∈ tokens, t.text ≠ []) (hm : Means tokens spec) : ofTokens tokens = spec := by
  cases hm with
  | name hfree => exact ofTokens_free hfree
  | @arguments name behind runs pieces hfree hruns hpieces =>
      have htexts : ∀ run ∈ runs, ∀ t ∈ run, t.text ≠ [] := by
        intro run hr t ht
        have hmem : t ∈ behind := (hruns.infix_of_mem hr).subset ht
        exact h t (by simp [hmem])
      rw [ofTokens_cut hfree, PadGraph.arguments, hruns.split_eq, filterMap_ofTokens? htexts,
        forall₂_runs_iff.mp hpieces]

/-- A key or value is written by tokens that stand in the filter without a gap, hold no mark of it and
are not none. -/
theorem Means.exists_piece {tokens : List Token} {spec : FilterSpec} (hm : Means tokens spec)
    {argument : Argument} (ha : argument ∈ spec.arguments) {text : Text}
    (ht : text ∈ argument.texts) :
    ∃ piece, text = render piece ∧ piece ≠ [] ∧ piece <:+: tokens ∧
      FreeOf [assignMark, argumentSeparator] piece := by
  cases hm with
  | name => cases ha
  | @arguments name behind runs pieces hfree hruns hpieces =>
      obtain ⟨parts, hparts, hargument⟩ := List.mem_filterMap.mp ha
      rw [← forall₂_runs_iff.mp hpieces] at hparts
      obtain ⟨run, hr, rfl⟩ := List.mem_map.mp hparts
      obtain ⟨kept, hkept, htexts⟩ := Argument.texts_of_ofPieces? hargument
      rw [htexts] at ht
      obtain ⟨piece, hp, rfl⟩ := List.mem_map.mp ht
      have hpiece := hkept.subset hp
      have hstands : piece <:+: run := (runs_split _ _).infix_of_mem hpiece
      have hbehind : run <:+: behind := hruns.infix_of_mem hr
      obtain ⟨hne, hassign⟩ := mem_split hpiece
      have hcolon : FreeOf [argumentSeparator] run := (mem_split (hruns.split_eq ▸ hr)).2
      refine ⟨piece, rfl, hne, ?_, hassign.append_marks (hcolon.subset hstands.subset)⟩
      have htokens : behind <:+: name ++ .plain assignMark :: behind :=
        ((List.suffix_cons _ _).trans (List.suffix_append _ _)).isInfix
      exact (hstands.trans hbehind).trans htokens

/-- **A filter is read as what it says.** No text has a quoted span without anything in it, its quotes
included, among its tokens; and of tokens without one, the filter that is read is the one that they
say and no other. Each key and value of it is written by tokens of the filter that stand there without
a gap, are not none and hold no mark of a filter; and where the tokens are those of a text, these are
the tokens of the key or value too. -/
theorem ofTokens_eq_iff :
    (∀ text, .quoted [] ∉ tokenize text) ∧
    ∀ tokens, .quoted [] ∉ tokens →
      (∀ spec, ofTokens tokens = spec ↔ Means tokens spec) ∧
      ∀ argument ∈ (ofTokens tokens).arguments, ∀ text ∈ argument.texts,
        text ≠ [] ∧ ∃ piece, text = render piece ∧ piece <:+: tokens ∧
          FreeOf [assignMark, argumentSeparator] piece ∧
          (WellFormed tokens → tokenize text = piece) := by
  refine ⟨quoted_nil_notMem_tokenize, fun tokens hquoted => ?_⟩
  have htexts := text_ne_nil_of_notMem hquoted
  have hmeans := means_ofTokens htexts
  refine ⟨fun spec => ⟨?_, fun h => h.ofTokens_eq htexts⟩, ?_⟩
  · rintro rfl
    exact hmeans
  · intro argument ha text ht
    obtain ⟨piece, rfl, hne, hstands, hfree⟩ := hmeans.exists_piece ha ht
    have hpiece : ∀ t ∈ piece, t.text ≠ [] := fun t ht => htexts t (hstands.subset ht)
    refine ⟨fun hnil => hne ((render_eq_nil hpiece).mp hnil), piece, rfl, hstands, hfree, ?_⟩
    intro hwell
    exact tokenize_render (hwell.sublist hstands.sublist)

/-- Equals signs too many, a value that is replaced, an argument of an equals sign alone and opaque
marks: the tokens say one key with its last value and two keys without any. -/
theorem ofTokens_eq_iff_marks :
    let tokens := tokenize "f==k=a=b:=:'x:='=:p\\=".toList
    let spec : FilterSpec := ⟨['f'], [⟨['k'], some ['b']⟩, ⟨['\'', 'x', ':', '=', '\''], none⟩,
      ⟨['p', '\\', '='], none⟩]⟩
    .quoted [] ∉ tokens ∧ ofTokens tokens = spec ∧ Means tokens spec := by
  intro tokens spec
  have hquoted : .quoted [] ∉ tokens := ofTokens_eq_iff.1 _
  have hread : ofTokens tokens = spec := by decide +kernel
  obtain ⟨hmeans, -⟩ := ofTokens_eq_iff.2 tokens hquoted
  exact ⟨hquoted, hread, (hmeans spec).mp hread⟩

end FilterSpec

end PadGraph
