import PadGraph.Proofs.Chain.Stripped
import PadGraph.Proofs.Graph.Runs

/-!
# What is wrong with a chain

Labels are taken off the front of a chain as long as they are complete, then the filter, then labels
again. Every chain can be cut in this way, and in one way only; what is wrong with it stands where its
labels end. The first token that fits no chain decides, and what follows it is told of no more.

* `ChainCut` — a chain cut where its labels end.
* `ChainCut.nonempty`, `ChainCut.unique` — every chain can be cut, and in one way only.
* `ChainCut.Refused` — the error of a chain by its cut.
* `ChainCut.decompose_eq_error_iff`, `decompose_of_doomed` — a chain gives the error of its cut, and
  nothing that follows a hopeless front changes it.
* **`chain_verdict`** — the errors and the results of all four readings of a chain.
-/

namespace PadGraph

/-! ### A chain by its cut -/

theorem decompose_of_read_eq_none {chain : List Token} (h : Labels.read chain = none) :
    decompose chain = .error (.unmatchedBracket .source (render chain)) := by
  rw [decompose, readSources, h]
  rfl

/-- A chain cut where its labels end: all complete labels at its front, the filter up to the next
opening bracket, all complete labels from there on, and what is left. -/
@[ext] structure ChainCut (chain : List Token) where
  /-- The tokens of the labels at the front. -/
  sources : List (List Token)
  filter : List Token
  /-- What stands behind the filter. -/
  back : List Token
  /-- The tokens of the labels behind the filter. -/
  destinations : List (List Token)
  /-- What is left behind all labels. -/
  left : List Token
  sources_stripped : Labels.Stripped chain sources (filter ++ back)
  filter_free : FreeOf ['['] filter
  back_head : ∀ t ∈ back.head?, t = .plain '['
  destinations_stripped : Labels.Stripped back destinations left

namespace ChainCut

variable {chain : List Token}

/-- What stands behind the labels at the front. -/
def behind (cut : ChainCut chain) : List Token := cut.filter ++ cut.back

theorem filterPart_behind (cut : ChainCut chain) :
    filterPart cut.behind = cut.filter ∧ behindFilter cut.behind = cut.back := by
  have hfree : ∀ t ∈ cut.filter, (!t.isPlain '[') = true := fun t ht => by
    simpa using cut.filter_free t ht
  have hhead := cut.back_head
  rw [behind, filterPart, behindFilter, List.takeWhile_append_of_pos hfree,
    List.dropWhile_append_of_pos hfree]
  cases hb : cut.back with
  | nil => simp
  | cons t ts =>
      obtain rfl : t = .plain '[' := hhead t (by simp [hb])
      simp [Token.isPlain]

theorem nonempty (chain : List Token) : Nonempty (ChainCut chain) := by
  obtain ⟨sources, behind, hsources⟩ := Labels.exists_stripped chain
  obtain ⟨destinations, left, hdestinations⟩ := Labels.exists_stripped (behindFilter behind)
  have hbehind : filterPart behind ++ behindFilter behind = behind :=
    List.takeWhile_append_dropWhile
  refine ⟨⟨sources, filterPart behind, behindFilter behind, destinations, left,
    by rwa [hbehind], freeOf_takeWhile '[' behind, ?_, hdestinations⟩⟩
  intro t ht
  have hmark := List.head?_dropWhile_not (!·.isPlain '[') behind
  rw [← behindFilter, Option.mem_def.mp ht] at hmark
  exact Token.isPlain_iff.mp (by simpa using hmark)

theorem unique (cut other : ChainCut chain) : cut = other := by
  obtain ⟨hsources, hbehind⟩ := cut.sources_stripped.unique other.sources_stripped
  have hfilter : cut.filter = other.filter := by
    rw [← cut.filterPart_behind.1, ← other.filterPart_behind.1]
    exact congrArg filterPart hbehind
  have hback : cut.back = other.back := by
    rw [← cut.filterPart_behind.2, ← other.filterPart_behind.2]
    exact congrArg behindFilter hbehind
  have hdestinations := cut.destinations_stripped
  rw [hback] at hdestinations
  obtain ⟨hlabels, hleft⟩ := hdestinations.unique other.destinations_stripped
  ext1
  · exact hsources
  · exact hfilter
  · exact hback
  · exact hlabels
  · exact hleft

/-- The error of a chain by its cut: the bracket without a partner behind the source labels; else the
one behind the destination labels; else the token there that is no bracket. -/
inductive Refused (cut : ChainCut chain) : ChainError → Prop
  | source (h : Labels.Unmatched cut.behind) :
    Refused cut (.unmatchedBracket .source (render chain))
  | destination (hs : ¬ Labels.Unmatched cut.behind) (h : Labels.Unmatched cut.left) :
    Refused cut (.unmatchedBracket .destination (render chain))
  | trailing {t : Token} {ts : List Token} (hs : ¬ Labels.Unmatched cut.behind)
    (hl : cut.left = t :: ts) (ht : t.isBracket = false) :
    Refused cut (.trailingContent (render chain) t.text)

/-! ### Reading a chain by its cut -/

section Reading

variable (cut : ChainCut chain)

theorem readSources_of_unmatched (h : Labels.Unmatched cut.behind) :
    readSources chain = .error (.unmatchedBracket .source (render chain)) := by
  rw [readSources, cut.sources_stripped.read_of_unmatched h]

theorem readSources_of_matched (h : ¬ Labels.Unmatched cut.behind) :
    readSources chain = .ok (cut.sources.map render, cut.behind) := by
  rw [readSources, cut.sources_stripped.read_of_matched h]
  rfl

theorem decompose_of_unmatched (h : Labels.Unmatched cut.behind) :
    decompose chain = .error (.unmatchedBracket .source (render chain)) :=
  decompose_of_read_eq_none (cut.sources_stripped.read_of_unmatched h)

/-- With its source labels in order, a chain is as good as its destination labels. -/
theorem decompose_of_matched (h : ¬ Labels.Unmatched cut.behind) :
    decompose chain = (readDestinations chain cut.back).map fun destinations =>
      ⟨cut.sources.map render, cut.filter, destinations⟩ := by
  obtain ⟨hfilter, hback⟩ := cut.filterPart_behind
  rw [decompose_of_read (cut.sources_stripped.read_of_matched h)]
  show (readDestinations chain (behindFilter cut.behind)).map (fun destinations =>
    ChainParts.mk _ (filterPart cut.behind) destinations) = _
  rw [hfilter, hback]

theorem decompose_of_left_unmatched (hs : ¬ Labels.Unmatched cut.behind)
    (h : Labels.Unmatched cut.left) :
    decompose chain = .error (.unmatchedBracket .destination (render chain)) := by
  rw [cut.decompose_of_matched hs, readDestinations, cut.destinations_stripped.read_of_unmatched h]
  rfl

theorem readDestinations_of_left_matched (h : ¬ Labels.Unmatched cut.left) :
    readDestinations chain cut.back =
      match cut.left with
      | [] => .ok (cut.destinations.map render)
      | t :: _ => .error (.trailingContent (render chain) t.text) := by
  rw [readDestinations, cut.destinations_stripped.read_of_matched h]
  cases cut.left <;> rfl

theorem decompose_of_trailing (hs : ¬ Labels.Unmatched cut.behind) {t : Token} {ts : List Token}
    (hl : cut.left = t :: ts) (ht : t.isBracket = false) :
    decompose chain = .error (.trailingContent (render chain) t.text) := by
  have hmatched : ¬ Labels.Unmatched cut.left := by
    rw [← cut.destinations_stripped.freeOf_take_iff, freeOf_brackets_iff, hl]
    simpa using ht
  rw [cut.decompose_of_matched hs, cut.readDestinations_of_left_matched hmatched, hl]
  rfl

theorem decompose_of_nothing_left (hs : ¬ Labels.Unmatched cut.behind) (hl : cut.left = []) :
    decompose chain = .ok ⟨cut.sources.map render, cut.filter, cut.destinations.map render⟩ := by
  have hmatched : ¬ Labels.Unmatched cut.left := by simp [hl, Labels.Unmatched]
  rw [cut.decompose_of_matched hs, cut.readDestinations_of_left_matched hmatched, hl]
  rfl

/-- **A chain gives the error of its cut.** -/
theorem decompose_eq_error_iff (e : ChainError) :
    decompose chain = .error e ↔ cut.Refused e := by
  constructor
  · intro h
    by_cases hs : Labels.Unmatched cut.behind
    · rw [cut.decompose_of_unmatched hs] at h
      obtain rfl := Except.error.inj h
      exact .source hs
    · rcases cut.destinations_stripped.rest_cases with hl | hl | ⟨t, ts, hl, ht⟩
      · rw [cut.decompose_of_nothing_left hs hl] at h
        cases h
      · rw [cut.decompose_of_left_unmatched hs hl] at h
        obtain rfl := Except.error.inj h
        exact .destination hs hl
      · rw [cut.decompose_of_trailing hs hl ht] at h
        obtain rfl := Except.error.inj h
        exact .trailing hs hl ht
  · intro h
    cases h with
    | source hs => exact cut.decompose_of_unmatched hs
    | destination hs hl => exact cut.decompose_of_left_unmatched hs hl
    | trailing hs hl ht => exact cut.decompose_of_trailing hs hl ht

theorem readSources_eq_error_iff (e : ChainError) :
    readSources chain = .error e ↔
      Labels.Unmatched cut.behind ∧ e = .unmatchedBracket .source (render chain) := by
  by_cases hs : Labels.Unmatched cut.behind
  · rw [cut.readSources_of_unmatched hs]
    simp [hs, eq_comm]
  · rw [cut.readSources_of_matched hs]
    simp [hs]

end Reading

/-! ### What follows a front without hope -/

section Continued

variable (cut : ChainCut chain)

theorem back_ne_nil (h : cut.left ≠ []) : cut.back ≠ [] := by
  rw [cut.destinations_stripped.tokens_eq]
  exact List.append_ne_nil_of_right_ne_nil _ h

theorem behind_settled (hs : ¬ Labels.Unmatched cut.behind) (hb : cut.back ≠ []) :
    Labels.Settled cut.behind :=
  cut.sources_stripped.settled_of_matched hs (List.append_ne_nil_of_right_ne_nil _ hb)

theorem sources_append (hs : ¬ Labels.Unmatched cut.behind) (hb : cut.back ≠ [])
    (more : List Token) :
    Labels.Stripped (chain ++ more) cut.sources (cut.filter ++ (cut.back ++ more)) := by
  rw [← List.append_assoc]
  exact cut.sources_stripped.append (cut.behind_settled hs hb) more

theorem matched_append (hs : ¬ Labels.Unmatched cut.behind) (hb : cut.back ≠ [])
    (more : List Token) : ¬ Labels.Unmatched (cut.filter ++ (cut.back ++ more)) := by
  rw [← List.append_assoc, ← behind, (cut.behind_settled hs hb).unmatched_append_iff]
  exact hs

theorem back_head_append (hb : cut.back ≠ []) (more : List Token) :
    ∀ t ∈ (cut.back ++ more).head?, t = .plain '[' := by
  rw [List.head?_append_of_ne_nil _ hb]
  exact cut.back_head

/-- More tokens are left too, when what is left is settled. -/
def append (hs : ¬ Labels.Unmatched cut.behind) (hl : Labels.Settled cut.left)
    (more : List Token) : ChainCut (chain ++ more) where
  sources := cut.sources
  filter := cut.filter
  back := cut.back ++ more
  destinations := cut.destinations
  left := cut.left ++ more
  sources_stripped := cut.sources_append hs (cut.back_ne_nil hl.ne_nil) more
  filter_free := cut.filter_free
  back_head := cut.back_head_append (cut.back_ne_nil hl.ne_nil) more
  destinations_stripped := cut.destinations_stripped.append hl more

/-- With its last label closed, a chain that ends in an open source label is in order. -/
theorem exists_ok_of_open_source {label : List Token} (hfree : FreeOf brackets label)
    (h : cut.behind = .plain '[' :: label) :
    ∃ parts, decompose (chain ++ [.plain ']']) = .ok parts := by
  have hsources := cut.sources_stripped
  rw [← behind, h] at hsources
  let closed : ChainCut (chain ++ [.plain ']']) :=
    ⟨cut.sources ++ [label], [], [], [], [], hsources.close hfree, by simp, by simp,
      ⟨rfl, by simp, by simp [bracketed]⟩⟩
  exact ⟨_, closed.decompose_of_nothing_left id rfl⟩

/-- And so is one that ends in an open destination label. -/
theorem exists_ok_of_open_destination (hs : ¬ Labels.Unmatched cut.behind) {label : List Token}
    (hfree : FreeOf brackets label) (h : cut.left = .plain '[' :: label) :
    ∃ parts, decompose (chain ++ [.plain ']']) = .ok parts := by
  have hdestinations := cut.destinations_stripped
  rw [h] at hdestinations
  have hb : cut.back ≠ [] := cut.back_ne_nil (by simp [h])
  have hsources := cut.sources_append hs hb [.plain ']']
  let closed : ChainCut (chain ++ [.plain ']']) :=
    ⟨cut.sources, cut.filter, cut.back ++ [.plain ']'], cut.destinations ++ [label], [], hsources,
      cut.filter_free, cut.back_head_append hb _, hdestinations.close hfree⟩
  exact ⟨_, closed.decompose_of_nothing_left (cut.matched_append hs hb _) rfl⟩

end Continued

end ChainCut

/-- **Nothing that follows changes the error of a front without hope.** If a front of chains cannot be
continued to a chain, then all chains with this front are refused for the same cause. -/
theorem decompose_of_doomed {front : List Token}
    (h : ∀ behind, ∃ e, decompose (front ++ behind) = .error e) :
    ∃ fault : ChainFault, ∀ behind,
      decompose (front ++ behind) = .error (fault.write render (front ++ behind)) := by
  have hopen : ∀ behind, ¬ ∃ parts, decompose (front ++ behind) = .ok parts := by
    rintro behind ⟨parts, hparts⟩
    obtain ⟨e, he⟩ := h behind
    rw [hparts] at he
    cases he
  obtain ⟨cut⟩ := ChainCut.nonempty front
  by_cases hs : Labels.Unmatched cut.behind
  · by_cases hsettled : Labels.Settled cut.behind
    · refine ⟨.unmatchedBracket .source, fun behind => decompose_of_read_eq_none ?_⟩
      have hbehind := (hsettled.unmatched_append_iff behind).mpr hs
      exact (cut.sources_stripped.append hsettled behind).read_of_unmatched hbehind
    · obtain ⟨label, hfree, heq⟩ := hs.exists_open hsettled
      exact absurd (cut.exists_ok_of_open_source hfree heq) (hopen _)
  · rcases cut.destinations_stripped.rest_cases with hl | hl | ⟨t, ts, hl, ht⟩
    · have hnone := hopen []
      rw [List.append_nil] at hnone
      exact absurd ⟨_, cut.decompose_of_nothing_left hs hl⟩ hnone
    · by_cases hsettled : Labels.Settled cut.left
      · refine ⟨.unmatchedBracket .destination, fun behind => ?_⟩
        have hmatched := cut.matched_append hs (cut.back_ne_nil hsettled.ne_nil) behind
        have hleft := (hsettled.unmatched_append_iff behind).mpr hl
        exact (cut.append hs hsettled behind).decompose_of_left_unmatched hmatched hleft
      · obtain ⟨label, hfree, heq⟩ := hl.exists_open hsettled
        exact absurd (cut.exists_ok_of_open_destination hs hfree heq) (hopen _)
    · have hsettled : Labels.Settled cut.left := by
        rw [hl]
        rintro rfl
        cases ht
      refine ⟨.trailingContent t, fun behind => ?_⟩
      have hmatched := cut.matched_append hs (cut.back_ne_nil hsettled.ne_nil) behind
      have hleft : cut.left ++ behind = t :: (ts ++ behind) := by
        rw [hl, List.cons_append]
      rw [(cut.append hs hsettled behind).decompose_of_trailing hmatched hleft ht]
      simp [ChainFault.write]

/-- A result of which a part is handed on fails as the whole does. -/
theorem map_eq_error_iff {ε α β : Type} {f : α → β} {result : Except ε α} {e : ε} :
    result.map f = .error e ↔ result = .error e := by
  cases result <;> simp [Except.map]

/-- **What is wrong with a chain, and who tells it.** Every chain can be cut where its labels end, in
one way. Behind the source labels of the cut stands a bracket without a partner exactly when the
source labels cannot be read, nor the filter, and the error is the same for both, for the destination
labels and for the whole. Otherwise these two can be read; the destination labels and the whole give
the one error that is told of what is left behind all labels, and can be read when nothing is left.
When nothing could follow a chain to put it right, then its error is that of every longer one. -/
theorem chain_verdict (chain : List Token) :
    (∃ cut : ChainCut chain, ∀ other, other = cut) ∧
    (∀ cut : ChainCut chain,
      (∀ e, decompose chain = .error e ↔ cut.Refused e) ∧
      (∀ e, destinationLabels chain = .error e ↔ cut.Refused e) ∧
      (∀ e, sourceLabels chain = .error e ↔
        Labels.Unmatched cut.behind ∧ e = .unmatchedBracket .source (render chain)) ∧
      (∀ e, filterTokens chain = .error e ↔
        Labels.Unmatched cut.behind ∧ e = .unmatchedBracket .source (render chain)) ∧
      (¬ Labels.Unmatched cut.behind →
        sourceLabels chain = .ok (cut.sources.map render) ∧
        filterTokens chain = .ok cut.filter ∧
        (cut.left = [] →
          destinationLabels chain = .ok (cut.destinations.map render) ∧
          decompose chain =
            .ok ⟨cut.sources.map render, cut.filter, cut.destinations.map render⟩))) ∧
    ((∀ behind, ∃ e, decompose (chain ++ behind) = .error e) →
      ∃ fault : ChainFault, ∀ behind,
        decompose (chain ++ behind) = .error (fault.write render (chain ++ behind))) := by
  refine ⟨?_, fun cut => ⟨cut.decompose_eq_error_iff, ?_, ?_, ?_, ?_⟩, decompose_of_doomed⟩
  · obtain ⟨cut⟩ := ChainCut.nonempty chain
    exact ⟨cut, fun other => other.unique cut⟩
  · intro e
    rw [destinationLabels, map_eq_error_iff]
    exact cut.decompose_eq_error_iff e
  · intro e
    rw [sourceLabels, map_eq_error_iff]
    exact cut.readSources_eq_error_iff e
  · intro e
    rw [filterTokens, map_eq_error_iff]
    exact cut.readSources_eq_error_iff e
  · intro hs
    have hsources := cut.readSources_of_matched hs
    refine ⟨by rw [sourceLabels, hsources]; rfl, ?_, fun hl => ?_⟩
    · rw [filterTokens, hsources, ← cut.filterPart_behind.1]
      rfl
    · have hwhole := cut.decompose_of_nothing_left hs hl
      exact ⟨by rw [destinationLabels, hwhole]; rfl, hwhole⟩

/-- A source label that is not closed, told by all four readings; a quoted span behind the
destination labels, which are the first thing wrong although a label behind it is not closed; a
closing bracket behind the destination labels; and a name there, which nothing that follows changes. -/
theorem chain_verdict_refused :
    (let chain := tokenize "[a][b".toList
      let e := ChainError.unmatchedBracket .source "[a][b".toList
      sourceLabels chain = .error e ∧ filterTokens chain = .error e ∧
        destinationLabels chain = .error e ∧ decompose chain = .error e) ∧
    (let chain := tokenize "[a]b]c[d]'e f'[g".toList
      let e := ChainError.trailingContent "[a]b]c[d]'e f'[g".toList "'e f'".toList
      sourceLabels chain = .ok [['a']] ∧ filterTokens chain = .ok (tokenize "b]c".toList) ∧
        destinationLabels chain = .error e ∧ decompose chain = .error e) ∧
    decompose (tokenize "b[c]]d".toList) =
      .error (.unmatchedBracket .destination "b[c]]d".toList) ∧
    ∀ behind, decompose (tokenize "b[c]d".toList ++ behind) =
      .error (.trailingContent (render (tokenize "b[c]d".toList ++ behind)) ['d']) := by
  refine ⟨?_, ?_, ?_, fun behind => ?_⟩
  · intro chain e
    let cut : ChainCut chain :=
      ⟨[[.plain 'a']], [], [.plain '[', .plain 'b'], [], [.plain '[', .plain 'b'],
        by decide +kernel, by decide +kernel, by decide +kernel, by decide +kernel⟩
    obtain ⟨hwhole, hdestinations, hsources, hfilter, -⟩ := (chain_verdict chain).2.1 cut
    have hopen : Labels.Unmatched cut.behind := by decide +kernel
    have htext : render chain = "[a][b".toList := by decide +kernel
    have hrefused : cut.Refused (.unmatchedBracket .source (render chain)) := .source hopen
    rw [htext] at hrefused
    exact ⟨(hsources e).mpr ⟨hopen, by rw [htext]⟩, (hfilter e).mpr ⟨hopen, by rw [htext]⟩,
      (hdestinations e).mpr hrefused, (hwhole e).mpr hrefused⟩
  · intro chain e
    let cut : ChainCut chain :=
      ⟨[[.plain 'a']], tokenize "b]c".toList, tokenize "[d]'e f'[g".toList, [[.plain 'd']],
        tokenize "'e f'[g".toList, by decide +kernel, by decide +kernel, by decide +kernel,
        by decide +kernel⟩
    obtain ⟨hwhole, hdestinations, -, -, hmatched⟩ := (chain_verdict chain).2.1 cut
    have hclosed : ¬ Labels.Unmatched cut.behind := by decide +kernel
    have htext : render chain = "[a]b]c[d]'e f'[g".toList := by decide +kernel
    have hrefused : cut.Refused (.trailingContent (render chain) "'e f'".toList) :=
      .trailing hclosed rfl rfl
    rw [htext] at hrefused
    obtain ⟨hsources, hfilter, -⟩ := hmatched hclosed
    exact ⟨hsources, hfilter, (hdestinations e).mpr hrefused, (hwhole e).mpr hrefused⟩
  · let cut : ChainCut (tokenize "b[c]]d".toList) :=
      ⟨[], [.plain 'b'], tokenize "[c]]d".toList, [[.plain 'c']], tokenize "]d".toList,
        by decide +kernel, by decide +kernel, by decide +kernel, by decide +kernel⟩
    have htext : render (tokenize "b[c]]d".toList) = "b[c]]d".toList := by decide +kernel
    have hrefused : cut.Refused (.unmatchedBracket .destination
        (render (tokenize "b[c]]d".toList))) :=
      .destination (by decide +kernel) (by decide +kernel)
    rw [htext] at hrefused
    exact (((chain_verdict _).2.1 cut).1 _).mpr hrefused
  · let cut : ChainCut (tokenize "b[c]d".toList) :=
      ⟨[], [.plain 'b'], tokenize "[c]d".toList, [[.plain 'c']], [.plain 'd'],
        by decide +kernel, by decide +kernel, by decide +kernel, by decide +kernel⟩
    have hclosed : ¬ Labels.Unmatched cut.behind := by decide +kernel
    have hsettled : Labels.Settled cut.left := by decide +kernel
    have hdoomed : ∀ behind, ∃ e, decompose (tokenize "b[c]d".toList ++ behind) = .error e := by
      intro behind
      have hmatched := cut.matched_append hclosed (cut.back_ne_nil hsettled.ne_nil) behind
      exact ⟨_, (((chain_verdict _).2.1 (cut.append hclosed hsettled behind)).1 _).mpr
        (.trailing hmatched rfl rfl)⟩
    obtain ⟨fault, hfault⟩ := (chain_verdict _).2.2 hdoomed
    -- the fault of all longer chains is that of the chain itself
    have hname : decompose (tokenize "b[c]d".toList) =
        .error (.trailingContent "b[c]d".toList ['d']) := by
      decide +kernel
    have hown := hfault []
    rw [List.append_nil, hname] at hown
    rw [hfault behind]
    cases fault with
    | unmatchedBracket side => cases hown
    | trailingContent t =>
        obtain ⟨-, hcontent⟩ := ChainError.trailingContent.inj (Except.error.inj hown)
        rw [ChainFault.write, ← hcontent]

end PadGraph
