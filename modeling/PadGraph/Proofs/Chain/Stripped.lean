import PadGraph.Proofs.Chain.Grammar

/-!
# Labels taken off the front

As long as some tokens begin with a complete label, it can be taken off. What is left then begins with
no complete label, but it may begin with a bracket, and that one has no partner. Whether labels can be
read is told by this first bracket alone.

* `Labels.Unmatched` — tokens that begin with a bracket without a partner.
* `Labels.Stripped` — all complete labels taken off the front of some tokens.
* `Labels.Stripped.read_of_matched`, `Labels.Stripped.read_of_unmatched` — what is read of them.
* **`Labels.exists_stripped`**, **`Labels.Stripped.unique`** — labels can be taken off, and in one way
  only.
* `Labels.Settled`, `Labels.Stripped.append` — when tokens that follow change nothing of this.
-/

namespace PadGraph

/-- Whether a token is a bracket with its structural meaning. -/
def Token.isBracket (t : Token) : Bool := t.isPlain '[' || t.isPlain ']'

theorem Token.isBracket_iff {t : Token} :
    t.isBracket = true ↔ t = .plain '[' ∨ t = .plain ']' := by
  simp [isBracket, isPlain_iff]

theorem freeOf_brackets_iff {tokens : List Token} :
    FreeOf brackets tokens ↔ ∀ t ∈ tokens, t.isBracket = false := by
  simp [FreeOf, brackets, Token.isBracket]

namespace Labels

/-! ### The next bracket -/

/-- The next bracket closes a label exactly when the tokens before it are its tokens. -/
theorem find?_eq_close_iff {tokens : List Token} :
    tokens.find? Token.isBracket = some (.plain ']') ↔
      ∃ label behind, FreeOf brackets label ∧ tokens = label ++ .plain ']' :: behind := by
  have hclose : (Token.plain ']').isBracket = true := rfl
  rw [List.find?_eq_some_iff_append]
  simp only [hclose, true_and, freeOf_brackets_iff, Bool.not_eq_true']
  constructor
  · rintro ⟨label, behind, rfl, hfree⟩
    exact ⟨label, behind, hfree, rfl⟩
  · rintro ⟨label, behind, hfree, rfl⟩
    exact ⟨label, behind, rfl, hfree⟩

theorem find?_eq_none_iff {tokens : List Token} :
    tokens.find? Token.isBracket = none ↔ FreeOf brackets tokens := by
  simp [freeOf_brackets_iff]

/-- A bracket without a partner begins the tokens: a closing one, or an opening one that the next
bracket does not close, be it that this one opens too or that there is none. -/
def Unmatched : List Token → Prop
  | [] => False
  | t :: rest =>
    t = .plain ']' ∨ t = .plain '[' ∧ rest.find? Token.isBracket ≠ some (.plain ']')

instance : DecidablePred Unmatched
  | [] => isFalse id
  | t :: rest =>
    inferInstanceAs (Decidable
      (t = .plain ']' ∨ t = .plain '[' ∧ rest.find? Token.isBracket ≠ some (.plain ']')))

/-! ### Labels taken off -/

/-- Of `tokens`, all complete labels have been taken off the front: these are `labels`, and `rest` is
what stands behind them. -/
structure Stripped (tokens : List Token) (labels : List (List Token)) (rest : List Token) :
    Prop where
  tokens_eq : tokens = labels.flatMap bracketed ++ rest
  labels_free : ∀ label ∈ labels, FreeOf brackets label
  /-- What is left does not begin with one more complete label. -/
  exhausted : ∀ label behind, FreeOf brackets label → rest ≠ bracketed label ++ behind

theorem begins_iff {tokens : List Token} :
    (∃ label behind, FreeOf brackets label ∧ tokens = bracketed label ++ behind) ↔
      ∃ rest, tokens = .plain '[' :: rest ∧
        rest.find? Token.isBracket = some (.plain ']') := by
  simp only [find?_eq_close_iff, bracketed]
  constructor
  · rintro ⟨label, behind, hfree, rfl⟩
    exact ⟨_, rfl, label, behind, hfree, by simp⟩
  · rintro ⟨_, rfl, label, behind, hfree, rfl⟩
    exact ⟨label, behind, hfree, by simp⟩

namespace Stripped

variable {tokens rest : List Token} {labels : List (List Token)}

theorem find?_ne (h : Stripped tokens labels (.plain '[' :: rest)) :
    rest.find? Token.isBracket ≠ some (.plain ']') := by
  intro hclose
  obtain ⟨label, behind, hfree, heq⟩ := begins_iff.mpr ⟨rest, rfl, hclose⟩
  exact h.exhausted label behind hfree heq

/-- All complete labels have been taken off when the next bracket does not close one more. -/
theorem stripped_iff : Stripped tokens labels rest ↔
    tokens = labels.flatMap bracketed ++ rest ∧ (∀ label ∈ labels, FreeOf brackets label) ∧
      (rest.head? = some (.plain '[') →
        rest.tail.find? Token.isBracket ≠ some (.plain ']')) := by
  constructor
  · intro h
    refine ⟨h.tokens_eq, h.labels_free, fun hhead => ?_⟩
    obtain ⟨ts, rfl⟩ := List.head?_eq_some_iff.mp hhead
    exact h.find?_ne
  · rintro ⟨htokens, hfree, hopen⟩
    refine ⟨htokens, hfree, fun label behind hlabel heq => ?_⟩
    obtain ⟨ts, rfl, hclose⟩ := begins_iff.mp ⟨label, behind, hlabel, heq⟩
    exact hopen rfl hclose

instance : Decidable (Stripped tokens labels rest) := decidable_of_iff _ stripped_iff.symm

/-- What is left begins with a bracket exactly when it begins with one that has no partner. -/
theorem freeOf_take_iff (h : Stripped tokens labels rest) :
    FreeOf brackets (rest.take 1) ↔ ¬ Unmatched rest := by
  cases rest with
  | nil => simp [Unmatched]
  | cons t ts =>
      have hbracket : Unmatched (t :: ts) ↔ t.isBracket = true := by
        rw [Token.isBracket_iff, Unmatched, or_comm]
        refine or_congr_left (and_iff_left_of_imp ?_)
        rintro rfl
        exact h.find?_ne
      rw [freeOf_brackets_iff, hbracket]
      simp

/-- From what is left without a bracket at its front, no label can be read. -/
theorem read_of_matched (h : Stripped tokens labels rest) (hm : ¬ Unmatched rest) :
    read tokens = some (labels, rest) := by
  rw [h.tokens_eq]
  exact read_bracketed h.labels_free (h.freeOf_take_iff.mpr hm)

/-- Behind all complete labels stands nothing, a bracket without a partner, or no bracket. -/
theorem rest_cases (h : Stripped tokens labels rest) :
    rest = [] ∨ Unmatched rest ∨ ∃ t ts, rest = t :: ts ∧ t.isBracket = false := by
  by_cases hu : Unmatched rest
  · exact .inr (.inl hu)
  · cases rest with
    | nil => exact .inl rfl
    | cons t ts =>
        have hfree := freeOf_brackets_iff.mp (h.freeOf_take_iff.mpr hu)
        exact .inr (.inr ⟨t, ts, rfl, hfree t (by simp)⟩)

end Stripped

/-- A label that no bracket closes is not read. -/
theorem readFrom_some_eq_none {tokens : List Token}
    (h : tokens.find? Token.isBracket ≠ some (.plain ']')) (opened : List Token) :
    readFrom (some opened) tokens = none := by
  induction tokens generalizing opened with
  | nil => rfl
  | cons t ts ih =>
      rw [readFrom]
      by_cases hc : t.isPlain ']' = true
      · obtain rfl := Token.isPlain_iff.mp hc
        exact absurd rfl h
      · rw [if_neg hc]
        split
        · rfl
        · next ho =>
          have hbracket : t.isBracket = false := by simp [Token.isBracket, ho, hc]
          rw [List.find?_cons_of_neg (by simp [hbracket])] at h
          exact ih h (t :: opened)

theorem read_of_unmatched {tokens : List Token} (h : Unmatched tokens) : read tokens = none := by
  cases tokens with
  | nil => cases h
  | cons t ts =>
      rcases h with rfl | ⟨rfl, hne⟩
      · rfl
      · exact readFrom_some_eq_none hne []

/-- Complete labels before it do not help a bracket without a partner. -/
theorem Stripped.read_of_unmatched {tokens rest : List Token} {labels : List (List Token)}
    (h : Stripped tokens labels rest) (hu : Unmatched rest) : read tokens = none := by
  obtain ⟨rfl, hlabels, -⟩ := h
  induction labels with
  | nil => exact Labels.read_of_unmatched hu
  | cons label labels ih =>
      have hrest : read (labels.flatMap bracketed ++ rest) = none :=
        ih fun l hl => hlabels l (by simp [hl])
      have hlabel : FreeOf brackets label := hlabels label (by simp)
      rw [List.flatMap_cons, List.append_assoc, read_label_append hlabel, hrest]
      rfl

/-! ### Every list of tokens, in one way -/

theorem Stripped.push {tokens rest label : List Token} {labels : List (List Token)}
    (h : Stripped tokens labels rest) (hfree : FreeOf brackets label) :
    Stripped (bracketed label ++ tokens) (label :: labels) rest := by
  refine ⟨by simp [h.tokens_eq], ?_, h.exhausted⟩
  rw [List.forall_mem_cons]
  exact ⟨hfree, h.labels_free⟩

theorem exists_stripped (tokens : List Token) :
    ∃ labels rest, Stripped tokens labels rest := by
  induction hn : tokens.length using Nat.strongRecOn generalizing tokens with
  | ind n ih =>
      by_cases hb : ∃ label behind, FreeOf brackets label ∧ tokens = bracketed label ++ behind
      · obtain ⟨label, behind, hfree, rfl⟩ := hb
        have hlt : behind.length < n := by
          rw [← hn, List.length_append, bracketed, List.length_cons]
          omega
        obtain ⟨labels, rest, h⟩ := ih _ hlt behind rfl
        exact ⟨label :: labels, rest, h.push hfree⟩
      · exact ⟨[], tokens, rfl, by simp, fun label behind hfree heq =>
          hb ⟨label, behind, hfree, heq⟩⟩

/-- The label at the front of some tokens ends at the first bracket behind the opening one. -/
theorem bracketed_append_inj {label other behind after : List Token}
    (hl : FreeOf brackets label) (ho : FreeOf brackets other)
    (h : bracketed label ++ behind = bracketed other ++ after) :
    label = other ∧ behind = after := by
  have hread : ∀ {label : List Token}, FreeOf brackets label → ∀ behind,
      ((bracketed label ++ behind).tail.takeWhile (!·.isBracket)) = label := by
    intro label hl behind
    have hall : ∀ t ∈ label, (!t.isBracket) = true := by
      simpa [freeOf_brackets_iff] using hl
    rw [bracketed, List.cons_append, List.tail_cons, List.append_assoc,
      List.takeWhile_append_of_pos hall]
    simp [Token.isBracket, Token.isPlain]
  have hlabel : label = other := by
    rw [← hread hl behind, h, hread ho after]
  subst hlabel
  exact ⟨rfl, List.append_cancel_left h⟩

theorem Stripped.unique {tokens rest rest' : List Token} {labels labels' : List (List Token)}
    (h : Stripped tokens labels rest) (h' : Stripped tokens labels' rest') :
    labels = labels' ∧ rest = rest' := by
  obtain ⟨rfl, hfree, hend⟩ := h
  obtain ⟨heq, hfree', hend'⟩ := h'
  induction labels generalizing labels' with
  | nil =>
      cases labels' with
      | nil => exact ⟨rfl, heq⟩
      | cons label labels' =>
          rw [List.flatMap_nil, List.nil_append, List.flatMap_cons, List.append_assoc] at heq
          exact absurd heq (hend label _ (hfree' label (by simp)))
  | cons label labels ih =>
      have hlabel := hfree label (by simp)
      rw [List.flatMap_cons, List.append_assoc] at heq
      cases labels' with
      | nil => exact absurd heq.symm (hend' label _ hlabel)
      | cons label' labels' =>
          rw [List.flatMap_cons, List.append_assoc] at heq
          obtain ⟨rfl, hrest⟩ := bracketed_append_inj hlabel (hfree' label' (by simp)) heq
          obtain ⟨rfl, rfl⟩ :=
            ih (fun l hl => hfree l (by simp [hl])) hrest fun l hl => hfree' l (by simp [hl])
          exact ⟨rfl, rfl⟩

/-! ### What follows -/

/-- Whether it is decided, before anything follows, what is wrong with tokens that begin with no
complete label: there are some, and an opening bracket at their front is not the last bracket. -/
def Settled : List Token → Prop
  | [] => False
  | t :: rest => t = .plain '[' → rest.find? Token.isBracket ≠ none

instance : DecidablePred Settled
  | [] => isFalse id
  | t :: rest =>
    inferInstanceAs (Decidable (t = .plain '[' → rest.find? Token.isBracket ≠ none))

theorem Settled.ne_nil {tokens : List Token} (h : Settled tokens) : tokens ≠ [] := by
  rintro rfl
  exact h

/-- The next bracket stays the next bracket. -/
theorem find?_append_of_ne_none {tokens : List Token} (h : tokens.find? Token.isBracket ≠ none)
    (more : List Token) :
    (tokens ++ more).find? Token.isBracket = tokens.find? Token.isBracket := by
  rw [List.find?_append, Option.or_of_isSome (Option.isSome_iff_ne_none.mpr h)]

theorem Settled.unmatched_append_iff {tokens : List Token} (h : Settled tokens)
    (more : List Token) : Unmatched (tokens ++ more) ↔ Unmatched tokens := by
  cases tokens with
  | nil => exact h.elim
  | cons t ts =>
      rw [List.cons_append, Unmatched, Unmatched]
      refine or_congr_right (and_congr_right fun ht => ?_)
      rw [find?_append_of_ne_none (h ht)]

/-- Tokens with a bracket without a partner that are not settled are an open label. -/
theorem Unmatched.exists_open {tokens : List Token} (hu : Unmatched tokens)
    (hs : ¬ Settled tokens) : ∃ label, FreeOf brackets label ∧ tokens = .plain '[' :: label := by
  cases tokens with
  | nil => exact hu.elim
  | cons t label =>
      simp only [Settled, not_forall, not_not] at hs
      obtain ⟨rfl, hfree⟩ := hs
      exact ⟨label, find?_eq_none_iff.mp hfree, rfl⟩

namespace Stripped

variable {tokens rest : List Token} {labels : List (List Token)}

theorem append (h : Stripped tokens labels rest) (hs : Settled rest) (more : List Token) :
    Stripped (tokens ++ more) labels (rest ++ more) := by
  refine ⟨by simp [h.tokens_eq], h.labels_free, fun label behind hfree heq => ?_⟩
  obtain ⟨ts, hts, hclose⟩ := begins_iff.mp ⟨label, behind, hfree, heq⟩
  cases rest with
  | nil => exact hs
  | cons t rest =>
      rw [List.cons_append] at hts
      obtain ⟨rfl, rfl⟩ := List.cons.inj hts
      rw [find?_append_of_ne_none (hs rfl)] at hclose
      exact h.find?_ne hclose

/-- A token that is no bracket settles the end of the labels before it. -/
theorem settled_of_matched (h : Stripped tokens labels rest) (hm : ¬ Unmatched rest)
    (hne : rest ≠ []) : Settled rest := by
  rcases h.rest_cases with rfl | hu | ⟨t, ts, rfl, ht⟩
  · exact absurd rfl hne
  · exact absurd hu hm
  · rintro rfl
    cases ht

/-- A closing bracket makes an open label complete, and nothing stands behind it. -/
theorem close {label : List Token} (h : Stripped tokens labels (.plain '[' :: label))
    (hfree : FreeOf brackets label) :
    Stripped (tokens ++ [.plain ']']) (labels ++ [label]) [] := by
  refine ⟨by simp [h.tokens_eq, bracketed], ?_, by simp [bracketed]⟩
  simpa using fun l hl => hl.elim (h.labels_free l) (· ▸ hfree)

end Stripped

end Labels

end PadGraph
