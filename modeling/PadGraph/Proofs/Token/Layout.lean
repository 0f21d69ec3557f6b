import Mathlib.Data.List.Induction
import PadGraph.Proofs.Token.WellFormed

/-!
# The texts that write given tokens

Different texts can have the same tokens, but they differ only in what means nothing: runs of spaces
and newlines around the written tokens, and one backslash at the end. A `Layout` is such a text by
its parts, and scanning is the inverse of putting these parts in a row.

* `Blank`, `spread` — a run of spaces and newlines, and tokens with a run behind each.
* `Layout`, `Layout.text`, `Layout.tokens` — a text by its parts.
* `Scan.Covers` — what holds of a scan all along: all it has read is either written by the tokens
  found, or means nothing, or belongs to the token being read.
* `Layout.tokenize_text`, `exists_layout` — the tokens of a layout are found in its text, and every
  text has a layout with its tokens.
* **`tokenize_eq_iff`** — the tokens of a text are the ones with which it can be laid out.
-/

namespace PadGraph

/-! ### Runs that mean nothing -/

/-- Spaces and newlines only. -/
def Blank (text : Text) : Prop := ∀ c ∈ text, isInsignificant c = true

instance : DecidablePred Blank := fun text =>
  inferInstanceAs (Decidable (∀ c ∈ text, isInsignificant c = true))

@[simp] theorem blank_nil : Blank [] := by
  simp [Blank]

theorem blank_append {front back : Text} : Blank (front ++ back) ↔ Blank front ∧ Blank back := by
  simp [Blank, or_imp, forall_and]

/-- The characters of a text other than spaces and newlines, in their order. -/
def significant (text : Text) : Text := text.filter (!isInsignificant ·)

theorem significant_append (front back : Text) :
    significant (front ++ back) = significant front ++ significant back := by
  simp [significant]

theorem Blank.significant_eq {text : Text} (h : Blank text) : significant text = [] := by
  rw [significant, List.filter_eq_nil_iff]
  intro c hc
  simp [h c hc]

/-- What tokens write, each with a run behind it. -/
def spread (items : List (Token × Text)) : Text := items.flatMap fun item => item.1.text ++ item.2

theorem spread_append (front back : List (Token × Text)) :
    spread (front ++ back) = spread front ++ spread back := by
  simp [spread]

theorem render_sublist_spread (items : List (Token × Text)) :
    (render (items.map Prod.fst)).Sublist (spread items) := by
  induction items with
  | nil => exact List.Sublist.refl []
  | cons item items ih =>
      have hitem : item.1.text.Sublist (item.1.text ++ item.2) := List.sublist_append_left _ _
      exact hitem.append ih

theorem significant_spread {items : List (Token × Text)} (h : ∀ item ∈ items, Blank item.2) :
    significant (spread items) = significant (render (items.map Prod.fst)) := by
  induction items with
  | nil => rfl
  | cons item items ih =>
      have hrun : significant item.2 = [] := (h item (by simp)).significant_eq
      have hrest := ih fun other ho => h other (by simp [ho])
      show significant ((item.1.text ++ item.2) ++ spread items) =
        significant (item.1.text ++ render (items.map Prod.fst))
      rw [significant_append, significant_append, significant_append, hrun, hrest, List.append_nil]

namespace Scan

theorem foldl_step_blank {run : Text} (h : Blank run) (found : List Token) :
    run.foldl step ⟨found, .outside⟩ = ⟨found, .outside⟩ := by
  induction run with
  | nil => rfl
  | cons c run ih =>
      have hstep : step ⟨found, .outside⟩ c = ⟨found, .outside⟩ := by
        simp [step, h c (by simp)]
      rw [List.foldl_cons, hstep]
      exact ih fun d hd => h d (by simp [hd])

/-- Closed tokens are found in what they write, whatever runs stand between them. -/
theorem foldl_step_spread {items : List (Token × Text)}
    (h : ∀ item ∈ items, item.1.Closed ∧ Blank item.2) (found : List Token) :
    (spread items).foldl step ⟨found, .outside⟩ =
      ⟨(items.map Prod.fst).reverse ++ found, .outside⟩ := by
  induction items generalizing found with
  | nil => rfl
  | cons item items ih =>
      obtain ⟨hclosed, hblank⟩ := h item (by simp)
      show ((item.1.text ++ item.2) ++ spread items).foldl step ⟨found, .outside⟩ = _
      rw [List.foldl_append, List.foldl_append, foldl_step_closed hclosed,
        foldl_step_blank hblank, ih fun other ho => h other (by simp [ho])]
      simp

end Scan

@[simp] theorem tokenize_nil : tokenize [] = [] := rfl

/-- A scan that stands outside at the end of a text goes on as if it began there. -/
theorem tokenize_append_of_outside {front : Text} (h : (scan front).mode = .outside) (back : Text) :
    tokenize (front ++ back) = tokenize front ++ tokenize back := by
  have hfront : tokenize front = (scan front).found.reverse := by
    simp [tokenize, Scan.finish, h]
  rw [tokenize_append, h, hfront]
  rfl

theorem tokenize_blank_append {run : Text} (h : Blank run) (rest : Text) :
    tokenize (run ++ rest) = tokenize rest := by
  have hrun : scan run = ⟨[], .outside⟩ := Scan.foldl_step_blank h []
  rw [tokenize_append_of_outside (by rw [hrun]), tokenize, hrun]
  rfl

theorem tokenize_closed_append {t : Token} (h : t.Closed) (rest : Text) :
    tokenize (t.text ++ rest) = t :: tokenize rest := by
  have htoken : scan t.text = ⟨[t], .outside⟩ := Scan.foldl_step_closed h []
  rw [tokenize_append_of_outside (by rw [htoken]), tokenize, htoken]
  rfl

/-- Behind what closed tokens write, a text is read on its own. -/
theorem tokenize_render_append {tokens : List Token} (h : ∀ t ∈ tokens, t.Closed) (rest : Text) :
    tokenize (render tokens ++ rest) = tokens ++ tokenize rest := by
  have hscan : scan (render tokens) = ⟨tokens.reverse ++ [], .outside⟩ :=
    Scan.foldl_step_render h []
  rw [tokenize_append_of_outside (by rw [hscan]), tokenize_render (wellFormed_of_closed h)]

/-! ### Texts by their parts -/

/-- A text by its parts: tokens with runs of spaces and newlines around them, and possibly a
backslash at the end. Behind an unterminated quote there is nothing, since all of it would belong to
the quote. -/
structure Layout where
  /-- The run before the first token. -/
  lead : Text
  /-- The tokens, each with the run behind it. -/
  items : List (Token × Text)
  /-- Whether a backslash stands at the end. -/
  dangling : Bool
  lead_blank : Blank lead
  runs_blank : ∀ item ∈ items, Blank item.2
  wellFormed : WellFormed (items.map Prod.fst)
  open_last : ∀ last ∈ items.getLast?, last.1.Unterminated → last.2 = [] ∧ dangling = false

namespace Layout

def tokens (layout : Layout) : List Token := layout.items.map Prod.fst

/-- What stands behind the last run. -/
def ending (layout : Layout) : Text := if layout.dangling then ['\\'] else []

def text (layout : Layout) : Text := layout.lead ++ (spread layout.items ++ layout.ending)

/-- A backslash at the end gives no token. -/
theorem finish_ending (layout : Layout) (found : List Token) :
    (layout.ending.foldl Scan.step ⟨found, .outside⟩).finish = found.reverse := by
  rw [ending]
  split <;> rfl

/-- **The tokens of a layout are found in its text.** -/
theorem tokenize_text (layout : Layout) : tokenize layout.text = layout.tokens := by
  have hlead := Scan.foldl_step_blank layout.lead_blank []
  have hwell := layout.wellFormed
  have hruns := layout.runs_blank
  have hopen := layout.open_last
  rw [tokenize, scan, text, List.foldl_append, hlead, List.foldl_append, tokens]
  rcases List.eq_nil_or_concat' layout.items with hnil | ⟨init, last, hitems⟩
  · rw [hnil]
    exact layout.finish_ending []
  · rw [hitems, List.map_append, List.map_singleton] at hwell
    rw [hitems] at hruns hopen
    obtain ⟨hinit, hlast⟩ := (wellFormed_append (by simp)).mp hwell
    have hfront : ∀ item ∈ init, item.1.Closed ∧ Blank item.2 := by
      intro item hi
      exact ⟨hinit item.1 (List.mem_map_of_mem hi), hruns item (by simp [hi])⟩
    rcases hlast.closed_or last.1 (by simp) with hclosed | hquote
    · -- the scan stands outside again behind the last token
      have hall : ∀ item ∈ init ++ [last], item.1.Closed ∧ Blank item.2 := by
        intro item hi
        rcases List.mem_append.mp hi with hi | hi
        · exact hfront item hi
        · obtain rfl := List.mem_singleton.mp hi
          exact ⟨hclosed, hruns item (by simp)⟩
      rw [hitems, Scan.foldl_step_spread hall, finish_ending]
      simp
    · -- nothing stands behind an open quote
      obtain ⟨hrun, hdangling⟩ := hopen last (by simp) hquote
      have hspread : spread [last] = last.1.text := by
        simp [spread, hrun]
      have hending : layout.ending = [] := by
        simp [ending, hdangling]
      rw [hitems, spread_append, List.foldl_append, Scan.foldl_step_spread hfront, hspread,
        hending, List.foldl_nil, (Scan.foldl_step_unterminated hquote _).2]
      simp

theorem significant_text (layout : Layout) :
    significant layout.text = significant (render layout.tokens) ++ layout.ending := by
  have hending : significant layout.ending = layout.ending := by
    rw [ending]
    split <;> rfl
  rw [text, significant_append, significant_append, layout.lead_blank.significant_eq,
    significant_spread layout.runs_blank, hending]
  rfl

theorem render_sublist_text (layout : Layout) : (render layout.tokens).Sublist layout.text := by
  have hspread : (render layout.tokens).Sublist (spread layout.items) :=
    render_sublist_spread layout.items
  exact (hspread.trans (List.sublist_append_left _ _)).trans (List.sublist_append_right _ _)

end Layout

/-! ### Every text can be laid out -/

/-- What has been read of the token that is being read. -/
def Mode.pending : Mode → Text
  | outside => []
  | escape => ['\\']
  | quote span => span.reverse
  | quoteEscape span => span.reverse

/-- A scan accounts for the text it has read: a run, the tokens found with runs between them, and
what has been read of the next token. -/
def Scan.Covers (s : Scan) (text : Text) : Prop :=
  ∃ (lead : Text) (items : List (Token × Text)),
    Blank lead ∧ (∀ item ∈ items, Blank item.2) ∧ s.found.reverse = items.map Prod.fst ∧
      text = lead ++ (spread items ++ s.mode.pending)

namespace Scan.Covers

variable {s : Scan} {text : Text}

/-- A token that has been read to its end is the last one found, with no run behind it yet. -/
theorem push {found : List Token} {mode : Mode} {t : Token} {c : Char}
    (h : Covers ⟨found, mode⟩ text) (ht : mode.pending ++ [c] = t.text) :
    Covers ⟨t :: found, .outside⟩ (text ++ [c]) := by
  obtain ⟨lead, items, hlead, hruns, hfound, rfl⟩ := h
  refine ⟨lead, items ++ [(t, [])], hlead, ?_, ?_, ?_⟩
  · intro item hi
    rcases List.mem_append.mp hi with hi | hi
    · exact hruns item hi
    · obtain rfl := List.mem_singleton.mp hi
      exact blank_nil
  · have hfound' : found.reverse = items.map Prod.fst := hfound
    simp [hfound']
  · simp [spread, Mode.pending, ← ht]

/-- What has been read of a token grows. -/
theorem grow {found : List Token} {mode mode' : Mode} {c : Char}
    (h : Covers ⟨found, mode⟩ text) (hm : mode'.pending = mode.pending ++ [c]) :
    Covers ⟨found, mode'⟩ (text ++ [c]) := by
  obtain ⟨lead, items, hlead, hruns, hfound, rfl⟩ := h
  exact ⟨lead, items, hlead, hruns, hfound, by simp [hm]⟩

/-- Between tokens a space or newline belongs to the latest run. -/
theorem pass {found : List Token} {c : Char} (h : Covers ⟨found, .outside⟩ text)
    (hc : isInsignificant c = true) : Covers ⟨found, .outside⟩ (text ++ [c]) := by
  obtain ⟨lead, items, hlead, hruns, hfound, rfl⟩ := h
  have hrun : Blank [c] := by simpa [Blank] using hc
  rcases List.eq_nil_or_concat' items with rfl | ⟨init, ⟨t, run⟩, rfl⟩
  · refine ⟨lead ++ [c], [], blank_append.mpr ⟨hlead, hrun⟩, by simp, hfound, ?_⟩
    simp [spread, Mode.pending]
  · refine ⟨lead, init ++ [(t, run ++ [c])], hlead, ?_, ?_, ?_⟩
    · intro item hi
      rcases List.mem_append.mp hi with hi | hi
      · exact hruns item (by simp [hi])
      · obtain rfl := List.mem_singleton.mp hi
        exact blank_append.mpr ⟨hruns (t, run) (by simp), hrun⟩
    · rw [hfound]
      simp
    · simp [spread, Mode.pending]

theorem step (h : s.Covers text) (c : Char) : (s.step c).Covers (text ++ [c]) := by
  obtain ⟨found, mode⟩ := s
  cases mode with
  | outside =>
      simp only [Scan.step]
      split
      · next hi => exact h.pass hi
      split
      · next hq => exact h.grow (by simp [Mode.pending])
      split
      · next hs => exact h.grow (by simp [Mode.pending, hs])
      · exact h.push (by simp [Mode.pending, Token.text])
  | escape => exact h.push (by simp [Mode.pending, Token.text])
  | quote span =>
      simp only [Scan.step]
      split
      · exact h.push (by simp [Mode.pending, Token.text])
      split
      · exact h.grow (by simp [Mode.pending])
      · exact h.grow (by simp [Mode.pending])
  | quoteEscape span => exact h.grow (by simp [Mode.pending])

end Scan.Covers

theorem covers_scan (text : Text) : (scan text).Covers text := by
  induction text using List.reverseRecOn with
  | nil => exact ⟨[], [], blank_nil, by simp, rfl, rfl⟩
  | append_singleton text c ih =>
      have hscan : scan (text ++ [c]) = (scan text).step c := by
        simp [scan]
      rw [hscan]
      exact ih.step c

/-- The quote that is still open when the text ends, with the empty run behind it. -/
def Mode.openItems : Mode → List (Token × Text)
  | outside => []
  | escape => []
  | quote span => [(.quoted span.reverse, [])]
  | quoteEscape span => [(.quoted span.reverse, [])]

/-- Whether the text ends behind a backslash outside quotes. -/
def Mode.dangling : Mode → Bool
  | escape => true
  | _ => false

theorem Scan.finish_eq (s : Scan) :
    s.finish = s.found.reverse ++ s.mode.openItems.map Prod.fst := by
  cases hmode : s.mode <;> simp [finish, Mode.openItems, hmode]

theorem Mode.pending_eq (mode : Mode) :
    mode.pending = spread mode.openItems ++ (if mode.dangling then ['\\'] else []) := by
  cases mode <;> simp [pending, openItems, dangling, spread, Token.text]

theorem Mode.mem_openItems {mode : Mode} {item : Token × Text} (h : item ∈ mode.openItems) :
    item.2 = [] ∧ mode.dangling = false := by
  cases mode with
  | outside => simp [openItems] at h
  | escape => simp [openItems] at h
  | quote span =>
      obtain rfl := List.mem_singleton.mp h
      exact ⟨rfl, rfl⟩
  | quoteEscape span =>
      obtain rfl := List.mem_singleton.mp h
      exact ⟨rfl, rfl⟩

/-- **Every text can be laid out with its tokens.** -/
theorem exists_layout (text : Text) :
    ∃ layout : Layout, layout.tokens = tokenize text ∧ layout.text = text := by
  obtain ⟨lead, items, hlead, hruns, hfound, htext⟩ := covers_scan text
  have htokens : tokenize text = (items ++ (scan text).mode.openItems).map Prod.fst := by
    rw [tokenize, Scan.finish_eq, hfound, List.map_append]
  have hwell : WellFormed (tokenize text) := wellFormed_tokenize text
  have hblank : ∀ item ∈ items ++ (scan text).mode.openItems, Blank item.2 := by
    intro item hi
    rcases List.mem_append.mp hi with hi | hi
    · exact hruns item hi
    · rw [(Mode.mem_openItems hi).1]
      exact blank_nil
  have hopen : ∀ last ∈ (items ++ (scan text).mode.openItems).getLast?, last.1.Unterminated →
      last.2 = [] ∧ (scan text).mode.dangling = false := by
    intro last hl hquote
    rcases List.mem_append.mp (List.mem_of_mem_getLast? hl) with hi | hi
    · -- the tokens found are closed
      have hmem : last.1 ∈ (scan text).found.reverse := hfound ▸ List.mem_map_of_mem hi
      have hclosed := (Scan.sound_scan text).found_closed last.1 (List.mem_reverse.mp hmem)
      exact absurd hquote hclosed.not_unterminated
    · exact Mode.mem_openItems hi
  refine ⟨⟨lead, items ++ (scan text).mode.openItems, (scan text).mode.dangling, hlead, hblank,
    htokens ▸ hwell, hopen⟩, htokens.symm, ?_⟩
  rw [Layout.text, Layout.ending, spread_append, List.append_assoc, ← Mode.pending_eq]
  exact htext.symm

theorem wellFormed_iff_tokenize_render (tokens : List Token) :
    WellFormed tokens ↔ tokenize (render tokens) = tokens := by
  constructor
  · intro h
    exact tokenize_render h
  · intro h
    rw [← h]
    exact wellFormed_tokenize (render tokens)

/-- **The texts with given tokens** are those that can be laid out with them. In particular, the
lists that are found again in their written form are the well-formed ones, and with the tokens of a
text every stretch of them. What is written of the tokens of a text is the text without some of its
characters, and these are spaces, newlines and at most one backslash at its end. -/
theorem tokenize_eq_iff (text : Text) (tokens : List Token) :
    (tokenize text = tokens ↔
      ∃ layout : Layout, layout.tokens = tokens ∧ layout.text = text) ∧
    (tokenize (render tokens) = tokens ↔ WellFormed tokens) ∧
    (∀ stretch, stretch <:+: tokenize text → tokenize (render stretch) = stretch) ∧
    (render (tokenize text)).Sublist text ∧
    (∃ ending, (ending = [] ∨ ending = ['\\']) ∧
      significant text = significant (render (tokenize text)) ++ ending) := by
  refine ⟨⟨?_, ?_⟩, (wellFormed_iff_tokenize_render tokens).symm, ?_, ?_⟩
  · rintro rfl
    exact exists_layout text
  · rintro ⟨layout, rfl, rfl⟩
    exact layout.tokenize_text
  · intro stretch hs
    exact tokenize_render ((wellFormed_tokenize text).sublist hs.sublist)
  · obtain ⟨layout, htokens, htext⟩ := exists_layout text
    have hsub := layout.render_sublist_text
    have hsignificant := layout.significant_text
    rw [htokens, htext] at hsub hsignificant
    refine ⟨hsub, layout.ending, ?_, hsignificant⟩
    rw [Layout.ending]
    split
    · exact .inr rfl
    · exact .inl rfl

end PadGraph
