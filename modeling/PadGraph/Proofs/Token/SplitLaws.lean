import PadGraph.Proofs.Token.Split

/-!
# The laws of splitting

Splitting obeys three laws: no tokens have no pieces, tokens without a separator are one piece, and a
separator cuts its tokens in two lists that are split on their own. Only splitting obeys them, and
they tell what the pieces are: the runs that reach from one separator to the next, in their order.

* `SplitLaws` — the three laws; `splitLaws_iff` — splitting is what obeys them.
* `MaximalRun`, `split_eq_append_cons_iff` — the pieces are the maximal runs, each in its place.
* `flatten_split` — joined with nothing between them, the pieces are all tokens but the separators.
* `split_replicate_append`, `split_append_replicate`, `split_replicate_between` — more separators
  where there is one, or at an end, make no other pieces.
* **`split_algebra`** — all of these laws.
-/

namespace PadGraph

variable {separator : Char} {front run back : List Token}

/-! ### Three laws -/

/-- What it takes to split tokens at a separator. -/
structure SplitLaws (separator : Char) (pieces : List Token → List (List Token)) : Prop where
  nil : pieces [] = []
  piece : ∀ tokens, tokens ≠ [] → .plain separator ∉ tokens → pieces tokens = [tokens]
  cut : ∀ front back, pieces (front ++ [.plain separator] ++ back) = pieces front ++ pieces back

theorem splitLaws_split (separator : Char) : SplitLaws separator (split separator) where
  nil := split_nil separator
  piece tokens hne hfree := (freeOf_singleton_iff.mpr hfree).split_eq hne
  cut front back := by
    rw [List.append_assoc, List.singleton_append, split_append_cons]

/-- **Splitting is what obeys the laws.** -/
theorem splitLaws_iff {pieces : List Token → List (List Token)} :
    SplitLaws separator pieces ↔ pieces = split separator := by
  constructor
  · intro h
    -- tokens without a separator, with none at all among them
    have hpiece : ∀ tokens, FreeOf [separator] tokens →
        pieces tokens = split separator tokens := by
      intro tokens hfree
      rcases eq_or_ne tokens [] with rfl | hne
      · rw [h.nil, split_nil]
      · rw [h.piece tokens hne (freeOf_singleton_iff.mp hfree), hfree.split_eq hne]
    funext tokens
    induction tokens using split_induction separator with
    | piece tokens hfree => exact hpiece tokens hfree
    | cut front back hfree ih =>
        have hcut := h.cut front back
        rw [List.append_assoc, List.singleton_append] at hcut
        rw [hcut, split_append_cons, hpiece front hfree, ih]
  · rintro rfl
    exact splitLaws_split separator

/-! ### Maximal runs -/

/-- `run` stands between `front` and `back` and cannot be longer there: it is not empty and holds no
separator, and separators or the ends of the tokens are next to it. -/
structure MaximalRun (separator : Char) (front run back : List Token) : Prop where
  ne_nil : run ≠ []
  free : .plain separator ∉ run
  front_end : front = [] ∨ ∃ init, front = init ++ [.plain separator]
  back_start : back = [] ∨ ∃ rest, back = .plain separator :: rest

namespace MaximalRun

/-- Tokens without a separator are a maximal run of themselves. -/
theorem whole (hne : run ≠ []) (hfree : FreeOf [separator] run) :
    MaximalRun separator [] run [] :=
  ⟨hne, freeOf_singleton_iff.mp hfree, .inl rfl, .inl rfl⟩

/-- Tokens without a separator are the first maximal run when a separator comes behind them. -/
theorem first (hne : run ≠ []) (hfree : FreeOf [separator] run) (rest : List Token) :
    MaximalRun separator [] run (.plain separator :: rest) :=
  ⟨hne, freeOf_singleton_iff.mp hfree, .inl rfl, .inr ⟨rest, rfl⟩⟩

/-- A run stays maximal when more tokens and a separator come before it. -/
theorem cut_append (h : MaximalRun separator front run back) (before : List Token) :
    MaximalRun separator (before ++ .plain separator :: front) run back := by
  refine ⟨h.ne_nil, h.free, .inr ?_, h.back_start⟩
  rcases h.front_end with rfl | ⟨init, rfl⟩
  · exact ⟨before, rfl⟩
  · exact ⟨before ++ .plain separator :: init, by simp⟩

theorem split_append (h : MaximalRun separator front run back) (tokens : List Token) :
    split separator (front ++ tokens) = split separator front ++ split separator tokens := by
  rcases h.front_end with rfl | ⟨init, rfl⟩
  · simp
  · rw [List.append_assoc, List.singleton_append, split_append_cons, split_append_cons, split_nil,
      List.append_nil]

/-- A maximal run is a piece, between those of what stands before it and of what stands behind it. -/
theorem split_eq (h : MaximalRun separator front run back) :
    split separator (front ++ run ++ back) =
      split separator front ++ run :: split separator back := by
  have hfree := freeOf_singleton_iff.mpr h.free
  rw [List.append_assoc, h.split_append]
  rcases h.back_start with rfl | ⟨rest, rfl⟩
  · rw [List.append_nil, hfree.split_eq h.ne_nil, split_nil]
  · rw [split_piece_cons h.ne_nil hfree, split_separator_cons]

end MaximalRun

/-- A piece is a maximal run, and the other pieces are those on both sides of it. -/
theorem exists_maximalRun_of_split {tokens : List Token} {before after : List (List Token)}
    (h : split separator tokens = before ++ run :: after) :
    ∃ front back, tokens = front ++ run ++ back ∧ MaximalRun separator front run back ∧
      split separator front = before ∧ split separator back = after := by
  induction tokens using split_induction separator generalizing before with
  | piece tokens hfree =>
      rcases eq_or_ne tokens [] with rfl | hne
      · simp at h
      · -- the run is all there is
        rw [hfree.split_eq hne] at h
        obtain ⟨rfl, rfl, rfl⟩ : before = [] ∧ run = tokens ∧ after = [] := by
          simpa [List.singleton_eq_append_iff] using h
        exact ⟨[], [], by simp, .whole hne hfree, split_nil _, split_nil _⟩
  | cut first rest hfree ih =>
      rw [split_append_cons] at h
      -- the run may be the first of the tokens, and else stands behind the first separator
      have hbehind : ∀ kept, split separator first ++ kept = before →
          split separator rest = kept ++ run :: after →
          ∃ front back, first ++ .plain separator :: rest = front ++ run ++ back ∧
            MaximalRun separator front run back ∧
            split separator front = before ∧ split separator back = after := by
        rintro kept rfl hrest
        obtain ⟨front, back, rfl, hrun, rfl, rfl⟩ := ih hrest
        exact ⟨first ++ .plain separator :: front, back, by simp, hrun.cut_append first,
          split_append_cons _ _ _, rfl⟩
      rcases eq_or_ne first [] with rfl | hne
      · exact hbehind before (by simp) (by simpa using h)
      · rw [hfree.split_eq hne] at h hbehind
        cases before with
        | nil =>
            obtain ⟨rfl, rfl⟩ := List.cons.inj h
            exact ⟨[], _, by simp, .first hne hfree rest, split_nil _, split_separator_cons _ _⟩
        | cons piece before =>
            obtain ⟨rfl, hrest⟩ := List.cons.inj h
            exact hbehind before rfl hrest

/-- **The pieces are the maximal runs**, each in its place. -/
theorem split_eq_append_cons_iff {tokens : List Token} {before after : List (List Token)} :
    split separator tokens = before ++ run :: after ↔
      ∃ front back, tokens = front ++ run ++ back ∧ MaximalRun separator front run back ∧
        split separator front = before ∧ split separator back = after := by
  constructor
  · exact exists_maximalRun_of_split
  · rintro ⟨front, back, rfl, hrun, rfl, rfl⟩
    exact hrun.split_eq

/-! ### What the laws leave alone -/

/-- **The pieces without anything between them are all tokens but the separators.** -/
theorem flatten_split (separator : Char) (tokens : List Token) :
    (split separator tokens).flatten = tokens.filter (· ≠ .plain separator) := by
  have hkept : ∀ piece, FreeOf [separator] piece →
      piece.filter (· ≠ .plain separator) = piece := by
    intro piece hfree
    refine List.filter_eq_self.mpr fun t ht => decide_eq_true ?_
    rintro rfl
    exact freeOf_singleton_iff.mp hfree ht
  induction tokens using split_induction separator with
  | piece tokens hfree =>
      rcases eq_or_ne tokens [] with rfl | hne
      · simp
      · rw [hfree.split_eq hne, hkept tokens hfree, List.flatten_singleton]
  | cut front back hfree ih =>
      rw [split_append_cons, List.flatten_append, ih, List.filter_append, hkept front hfree]
      rcases eq_or_ne front [] with rfl | hne
      · simp
      · simp [hfree.split_eq hne]

/-- Separators before all tokens make no pieces. -/
theorem split_replicate_append (separator : Char) (count : Nat) (tokens : List Token) :
    split separator (List.replicate count (.plain separator) ++ tokens) =
      split separator tokens := by
  induction count with
  | zero => rfl
  | succ count ih => rw [List.replicate_succ, List.cons_append, split_separator_cons, ih]

/-- Separators behind all tokens make no pieces. -/
theorem split_append_replicate (separator : Char) (count : Nat) (tokens : List Token) :
    split separator (tokens ++ List.replicate count (.plain separator)) =
      split separator tokens := by
  cases count with
  | zero => rw [List.replicate_zero, List.append_nil]
  | succ count =>
      have hnone := split_replicate_append separator count []
      rw [List.append_nil, split_nil] at hnone
      rw [List.replicate_succ, split_append_cons, hnone, List.append_nil]

/-- Several separators cut like one. -/
theorem split_replicate_between (separator : Char) (count : Nat) (front back : List Token) :
    split separator (front ++ List.replicate (count + 1) (.plain separator) ++ back) =
      split separator (front ++ [.plain separator] ++ back) := by
  rw [List.append_assoc, List.append_assoc, List.replicate_succ, List.cons_append,
    List.singleton_append, split_append_cons, split_append_cons, split_replicate_append]

/-- **The algebra of splitting.** Three laws hold of splitting and of nothing else. So its pieces are
the maximal runs of tokens without a separator, each in its place; put together they are the tokens
without the separators; more separators before all tokens, behind them, or next to one that is there
change nothing; and pieces that are not empty and hold no separator are found again when they have
been joined by single ones. -/
theorem split_algebra (separator : Char) :
    (∀ pieces, SplitLaws separator pieces ↔ pieces = split separator) ∧
    (∀ tokens before run after, split separator tokens = before ++ run :: after ↔
      ∃ front back, tokens = front ++ run ++ back ∧ MaximalRun separator front run back ∧
        split separator front = before ∧ split separator back = after) ∧
    (∀ tokens, (split separator tokens).flatten = tokens.filter (· ≠ .plain separator)) ∧
    (∀ count front back,
      split separator (List.replicate count (.plain separator) ++ back) = split separator back ∧
      split separator (front ++ List.replicate count (.plain separator)) =
        split separator front ∧
      split separator (front ++ List.replicate (count + 1) (.plain separator) ++ back) =
        split separator (front ++ [.plain separator] ++ back)) ∧
    ∀ pieces : List (List Token), (∀ piece ∈ pieces, piece ≠ [] ∧ .plain separator ∉ piece) →
      split separator ([.plain separator].intercalate pieces) = pieces := by
  refine ⟨fun _ => splitLaws_iff, fun _ _ _ _ => split_eq_append_cons_iff, flatten_split separator,
    fun count front back => ⟨?_, ?_, ?_⟩, fun pieces h => ?_⟩
  · exact split_replicate_append separator count back
  · exact split_append_replicate separator count front
  · exact split_replicate_between separator count front back
  · exact split_intercalate fun piece hp => ⟨(h piece hp).1, freeOf_singleton_iff.mpr (h piece hp).2⟩

/-- Opaque separators and brackets in the pieces: they are joined, cut again at the plain separators
alone, and a piece stands between its neighbours. -/
theorem split_algebra_marks :
    let pieces : List (List Token) := [[.plain 'a', .escaped ','], [.quoted [',']], [.plain ']']]
    split ',' ([.plain ','].intercalate pieces) = pieces ∧
      ∃ front back, [.plain ','].intercalate pieces = front ++ [.quoted [',']] ++ back ∧
        MaximalRun ',' front [.quoted [',']] back := by
  intro pieces
  obtain ⟨-, hruns, -, -, hjoined⟩ := split_algebra ','
  have hsplit := hjoined pieces (by decide)
  obtain ⟨front, back, htokens, hrun, -, -⟩ := (hruns _ [_] _ [_]).mp hsplit
  exact ⟨hsplit, front, back, htokens, hrun⟩

end PadGraph
