import Mathlib.Data.List.Forall2
import PadGraph.Token.Split

/-!
# Splitting and joining at a separator

Splitting is the inverse of joining on pieces that are not empty and hold no separator, and joining
the pieces of a list gives the list back up to separators too many.

* `FreeOf` — no token is one of some characters with its structural meaning.
* `split_induction` — induction over a list from one separator to the next.
* `mem_split` — a piece is not empty and holds no separator.
* **`split_intercalate`** — pieces joined by separators are found again.
* **`intercalate_split_sublist`** — the pieces of a list, joined again, are what remains of the list
  when some of its separators are dropped.
* `SublistForall₂.intercalate` — joining keeps being part of something, piece by piece.
-/

namespace PadGraph

theorem Token.isPlain_iff {t : Token} {c : Char} : t.isPlain c = true ↔ t = .plain c := by
  cases t <;> simp [Token.isPlain]

theorem Token.isPlain_of_notMem {marks : List Char} {mark : Char} (h : mark ∉ marks) :
    ∀ c ∈ marks, (Token.plain mark).isPlain c = false := by
  intro c hc
  have hne : mark ≠ c := by
    rintro rfl
    exact h hc
  simpa [Token.isPlain] using hne

/-! ### Lists without some marks -/

/-- None of the tokens is one of the characters `marks` with its structural meaning. -/
def FreeOf (marks : List Char) (tokens : List Token) : Prop :=
  ∀ t ∈ tokens, ∀ c ∈ marks, t.isPlain c = false

-- only the marks are gone through, since nothing else has to be compared
instance (marks : List Char) (tokens : List Token) : Decidable (FreeOf marks tokens) :=
  @List.decidableBAll Token (fun t => ∀ c ∈ marks, t.isPlain c = false)
    (fun t => List.decidableBAll (fun c => t.isPlain c = false) marks) tokens

@[simp] theorem freeOf_nil (marks : List Char) : FreeOf marks [] := by
  simp [FreeOf]

@[simp] theorem freeOf_cons {marks : List Char} {t : Token} {ts : List Token} :
    FreeOf marks (t :: ts) ↔ (∀ c ∈ marks, t.isPlain c = false) ∧ FreeOf marks ts := by
  simp [FreeOf]

@[simp] theorem freeOf_append {marks : List Char} {ts us : List Token} :
    FreeOf marks (ts ++ us) ↔ FreeOf marks ts ∧ FreeOf marks us := by
  simp [FreeOf, or_imp, forall_and]

theorem freeOf_singleton_iff {mark : Char} {tokens : List Token} :
    FreeOf [mark] tokens ↔ .plain mark ∉ tokens := by
  simp only [FreeOf, List.mem_singleton, forall_eq, Bool.eq_false_iff, ne_eq, Token.isPlain_iff]
  constructor
  · intro h hmem
    exact h _ hmem rfl
  · rintro h t ht rfl
    exact h ht

namespace FreeOf

theorem fewer {marks fewer : List Char} {tokens : List Token} (h : FreeOf marks tokens)
    (hm : fewer ⊆ marks) : FreeOf fewer tokens := by
  intro t ht c hc
  exact h t ht c (hm hc)

theorem subset {marks : List Char} {tokens kept : List Token} (h : FreeOf marks tokens)
    (hs : kept ⊆ tokens) : FreeOf marks kept := by
  intro t ht
  exact h t (hs ht)

theorem append_marks {marks others : List Char} {tokens : List Token} (h : FreeOf marks tokens)
    (ho : FreeOf others tokens) : FreeOf (marks ++ others) tokens := by
  intro t ht c hc
  rcases List.mem_append.mp hc with hc | hc
  · exact h t ht c hc
  · exact ho t ht c hc

theorem split_eq {separator : Char} {tokens : List Token} (h : FreeOf [separator] tokens)
    (hne : tokens ≠ []) : split separator tokens = [tokens] :=
  split_of_separator_free hne fun t ht => h t ht separator (by simp)

end FreeOf

theorem freeOf_takeWhile (mark : Char) (tokens : List Token) :
    FreeOf [mark] (tokens.takeWhile (!·.isPlain mark)) := by
  intro t ht c hc
  obtain rfl := List.mem_singleton.mp hc
  simpa using List.all_eq_true.mp List.all_takeWhile t ht

/-! ### Joining -/

/-- The first piece stands alone, and each further one behind a separator. -/
theorem intercalate_cons {α : Type} (separator : α) (piece : List α) (pieces : List (List α)) :
    [separator].intercalate (piece :: pieces) = piece ++ pieces.flatMap (separator :: ·) := by
  induction pieces generalizing piece with
  | nil => simp
  | cons next pieces ih =>
      rw [List.intercalate_cons_cons, ih next]
      simp

theorem intercalate_append {α : Type} (separator : α) {front back : List (List α)}
    (hf : front ≠ []) (hb : back ≠ []) :
    [separator].intercalate (front ++ back) =
      [separator].intercalate front ++ separator :: [separator].intercalate back := by
  cases front with
  | nil => exact absurd rfl hf
  | cons first front =>
      cases back with
      | nil => exact absurd rfl hb
      | cons next back =>
          rw [List.cons_append, intercalate_cons, intercalate_cons, intercalate_cons]
          simp

/-- Each piece but the last stands before a separator. -/
theorem intercalate_concat {α : Type} (separator : α) (init : List (List α)) (last : List α) :
    [separator].intercalate (init ++ [last]) = init.flatMap (· ++ [separator]) ++ last := by
  induction init with
  | nil => simp
  | cons piece init ih =>
      rw [List.cons_append, List.intercalate_cons_of_ne_nil (by simp), ih]
      simp

/-- What holds of the separator holds of all that is joined when it holds of the pieces. -/
theorem forall_mem_intercalate {α : Type} {P : α → Prop} {separator : α} (hs : P separator)
    {pieces : List (List α)} :
    (∀ a ∈ [separator].intercalate pieces, P a) ↔ ∀ piece ∈ pieces, ∀ a ∈ piece, P a := by
  rcases List.eq_nil_or_concat' pieces with rfl | ⟨init, last, rfl⟩
  · simp
  · rw [intercalate_concat]
    simp only [List.mem_append, List.mem_flatMap, List.mem_singleton]
    constructor
    · rintro h piece (hp | rfl) a ha
      · exact h a (.inl ⟨piece, hp, .inl ha⟩)
      · exact h a (.inr ha)
    · rintro h a (⟨piece, hp, ha | rfl⟩ | ha)
      · exact h piece (.inl hp) a ha
      · exact hs
      · exact h last (.inr rfl) a ha

/-- **Joining keeps being part of something.** When pieces are parts of others in their order, with
some left out, then what is joined from the ones is part of what is joined from the others. -/
theorem SublistForall₂.intercalate {α : Type} (separator : α) {kept pieces : List (List α)}
    (h : List.SublistForall₂ List.Sublist kept pieces) :
    ([separator].intercalate kept).Sublist ([separator].intercalate pieces) := by
  have htail : ∀ {kept pieces : List (List α)}, List.SublistForall₂ List.Sublist kept pieces →
      (kept.flatMap (separator :: ·)).Sublist (pieces.flatMap (separator :: ·)) := by
    intro kept pieces h
    induction h with
    | nil => simp
    | cons hp _ ih => exact (hp.cons_cons separator).append ih
    | cons_right _ ih => exact ih.trans (List.sublist_append_right _ _)
  induction h with
  | nil => simp
  | cons hp hrest _ =>
      rw [intercalate_cons, intercalate_cons]
      exact hp.append (htail hrest)
  | @cons_right piece kept pieces hrest ih =>
      rcases eq_or_ne pieces [] with rfl | hne
      · cases hrest
        simp
      · rw [show piece :: pieces = [piece] ++ pieces from rfl,
          intercalate_append separator (by simp) hne]
        exact (ih.cons _).trans (List.sublist_append_right _ _)

theorem sublist_intercalate_of_mem {α : Type} (separator : α) {piece : List α}
    {pieces : List (List α)} (h : piece ∈ pieces) :
    piece.Sublist ([separator].intercalate pieces) := by
  have hkept : List.SublistForall₂ List.Sublist [piece] pieces :=
    List.sublistForall₂_iff.mpr
      ⟨[piece], .cons (List.Sublist.refl piece) .nil, List.singleton_sublist.mpr h⟩
  have hjoined := SublistForall₂.intercalate separator hkept
  rwa [List.intercalate_singleton] at hjoined

theorem render_intercalate (separator : Char) (pieces : List (List Token)) :
    render ([.plain separator].intercalate pieces) =
      [separator].intercalate (pieces.map render) := by
  cases pieces with
  | nil => rfl
  | cons first pieces =>
      rw [List.map_cons, intercalate_cons, intercalate_cons, render_append]
      simp [render, List.flatMap_assoc, List.flatMap_map, Token.text]

/-! ### Splitting -/

/-- Induction over a list from one separator to the next: a list without separators, and such a list
before a separator and the rest. -/
theorem split_induction (separator : Char) {motive : List Token → Prop}
    (piece : ∀ tokens, FreeOf [separator] tokens → motive tokens)
    (cut : ∀ front back, FreeOf [separator] front → motive back →
      motive (front ++ .plain separator :: back))
    (tokens : List Token) : motive tokens := by
  -- `front` is the run since the latest separator
  suffices h : ∀ front, FreeOf [separator] front → motive (front ++ tokens) from
    h [] (freeOf_nil _)
  induction tokens with
  | nil =>
      intro front hf
      rw [List.append_nil]
      exact piece front hf
  | cons t ts ih =>
      intro front hf
      by_cases ht : t.isPlain separator = true
      · obtain rfl := Token.isPlain_iff.mp ht
        exact cut front ts hf (ih [] (freeOf_nil _))
      · have hfree : FreeOf [separator] (front ++ [t]) := by
          simp [hf, ht]
        simpa using ih (front ++ [t]) hfree

/-- A list is without a separator or has a first one. -/
theorem freeOf_or_cut (separator : Char) (tokens : List Token) :
    FreeOf [separator] tokens ∨
      ∃ front back, FreeOf [separator] front ∧ tokens = front ++ .plain separator :: back := by
  induction tokens using split_induction separator with
  | piece tokens hfree => exact .inl hfree
  | cut front back hfree _ => exact .inr ⟨front, back, hfree, rfl⟩

theorem split_separator_cons (separator : Char) (tokens : List Token) :
    split separator (.plain separator :: tokens) = split separator tokens := by
  simpa using split_append_cons separator [] tokens

/-- A non-empty list without separators, and a separator behind it, are its first piece. -/
theorem split_piece_cons {separator : Char} {front back : List Token} (hne : front ≠ [])
    (hf : FreeOf [separator] front) :
    split separator (front ++ .plain separator :: back) = front :: split separator back := by
  rw [split_append_cons, hf.split_eq hne]
  rfl

theorem mem_split {separator : Char} {tokens piece : List Token}
    (h : piece ∈ split separator tokens) : piece ≠ [] ∧ FreeOf [separator] piece := by
  induction tokens using split_induction separator with
  | piece tokens hfree =>
      rcases eq_or_ne tokens [] with rfl | hne
      · simp at h
      · rw [hfree.split_eq hne, List.mem_singleton] at h
        exact h ▸ ⟨hne, hfree⟩
  | cut front back hfree ih =>
      rcases eq_or_ne front [] with rfl | hne
      · exact ih (by rwa [List.nil_append, split_separator_cons] at h)
      · rw [split_piece_cons hne hfree] at h
        rcases List.mem_cons.mp h with rfl | h
        · exact ⟨hne, hfree⟩
        · exact ih h

/-- **Pieces joined by separators are found again.** -/
theorem split_intercalate {separator : Char} {pieces : List (List Token)}
    (h : ∀ piece ∈ pieces, piece ≠ [] ∧ FreeOf [separator] piece) :
    split separator ([.plain separator].intercalate pieces) = pieces := by
  induction pieces with
  | nil => simp
  | cons first pieces ih =>
      obtain ⟨hne, hfree⟩ := h first (by simp)
      cases pieces with
      | nil => simpa using hfree.split_eq hne
      | cons next pieces =>
          rw [List.intercalate_cons_cons, List.append_assoc, List.singleton_append,
            split_piece_cons hne hfree, ih fun piece hp => h piece (by simp [hp])]

/-- **The pieces of a list, joined again, are the list without some of its separators.** -/
theorem intercalate_split_sublist (separator : Char) (tokens : List Token) :
    ([.plain separator].intercalate (split separator tokens)).Sublist tokens := by
  induction tokens using split_induction separator with
  | piece tokens hfree =>
      rcases eq_or_ne tokens [] with rfl | hne
      · simp
      · simp [hfree.split_eq hne]
  | cut front back hfree ih =>
      rcases eq_or_ne front [] with rfl | hne
      · rw [List.nil_append, split_separator_cons]
        exact ih.cons _
      · rw [split_piece_cons hne hfree]
        rcases eq_or_ne (split separator back) [] with hb | hb
        · simp [hb]
        · rw [show front :: split separator back = [front] ++ split separator back from rfl,
            intercalate_append _ (by simp) hb, List.intercalate_singleton]
          exact (ih.cons_cons _).append_left front

theorem sublist_of_mem_split {separator : Char} {tokens piece : List Token}
    (h : piece ∈ split separator tokens) : piece.Sublist tokens :=
  (sublist_intercalate_of_mem _ h).trans (intercalate_split_sublist separator tokens)

/-- Only separators make no piece. -/
theorem eq_separator_of_split_eq_nil {separator : Char} {tokens : List Token}
    (h : split separator tokens = []) : ∀ t ∈ tokens, t = .plain separator := by
  induction tokens using split_induction separator with
  | piece tokens hfree =>
      rcases eq_or_ne tokens [] with rfl | hne
      · simp
      · simp [hfree.split_eq hne] at h
  | cut front back hfree ih =>
      rcases eq_or_ne front [] with rfl | hne
      · rw [List.nil_append, split_separator_cons] at h
        simpa using ih h
      · simp [split_piece_cons hne hfree] at h

end PadGraph
