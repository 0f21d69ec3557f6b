import PadGraph.Proofs.Token.Layout

/-!
# Where a scan starts afresh

Behind some texts a scan goes on as if it had just begun: behind those in which every quote is closed
and that do not end in a backslash with nothing to escape. These are exactly the texts behind which
the scan stands outside.

* `Dangling` — a text whose last backslash gives nothing.
* `Complete` — a text behind which a scan starts afresh.
* `dangling_iff`, **`complete_iff`** — both by where the scan stands.
* `Complete.tokenize_append`, `Complete.tokenize_append_mark` — the tokens of a text in two parts of
  which the first is complete.
-/

namespace PadGraph

/-- A text that ends in a backslash without which it has the same tokens. -/
def Dangling (text : Text) : Prop :=
  ∃ front, text = front ++ ['\\'] ∧ tokenize text = tokenize front

/-- A text that leaves nothing open at its end. -/
structure Complete (text : Text) : Prop where
  /-- Every quote is closed. -/
  quotes_closed : ∀ t ∈ tokenize text, ¬ t.Unterminated
  not_dangling : ¬ Dangling text

theorem scan_concat (text : Text) (c : Char) : scan (text ++ [c]) = (scan text).step c := by
  simp [scan]

/-! ### Where a scan stands behind a text -/

/-- Only outside quotes does a backslash bring the scan behind one. -/
theorem step_mode_eq_escape {s : Scan} {c : Char} (h : (s.step c).mode = .escape) :
    c = '\\' ∧ s.mode = .outside := by
  obtain ⟨found, mode⟩ := s
  cases mode with
  | outside =>
      simp only [Scan.step] at h
      split at h
      · cases h
      split at h
      · cases h
      split at h
      · next hc => exact ⟨hc, rfl⟩
      · cases h
  | escape => cases h
  | quote span =>
      simp only [Scan.step] at h
      split at h
      · cases h
      · split at h <;> cases h
  | quoteEscape span => cases h

/-- A backslash gives nothing exactly when the scan stands outside before it. -/
theorem tokenize_concat_backslash {front : Text} :
    tokenize (front ++ ['\\']) = tokenize front ↔ (scan front).mode = .outside := by
  rw [tokenize, tokenize, scan_concat]
  obtain ⟨found, mode⟩ := scan front
  cases mode with
  | outside => simp [Scan.step, Scan.finish, isInsignificant]
  | escape => simp [Scan.step, Scan.finish]
  | quote span => simp [Scan.step, Scan.finish]
  | quoteEscape span => simp [Scan.step, Scan.finish]

theorem dangling_iff {text : Text} : Dangling text ↔ (scan text).mode = .escape := by
  constructor
  · intro h
    obtain ⟨front, rfl, htokens⟩ := h
    have hfront : (scan front).mode = .outside := tokenize_concat_backslash.mp htokens
    rw [scan_concat, Scan.step, hfront]
    rfl
  · intro h
    rcases List.eq_nil_or_concat' text with rfl | ⟨front, c, rfl⟩
    · cases h
    · rw [scan_concat] at h
      obtain ⟨rfl, hfront⟩ := step_mode_eq_escape h
      exact ⟨front, rfl, tokenize_concat_backslash.mpr hfront⟩

/-- Some quote of a text is open exactly when the scan ends inside one. -/
theorem mem_unterminated_iff {text : Text} :
    (∃ t ∈ tokenize text, t.Unterminated) ↔ (scan text).mode.openItems ≠ [] := by
  have hs : (scan text).Sound := Scan.sound_scan text
  rw [tokenize, Scan.finish_eq]
  constructor
  · intro h hnil
    obtain ⟨t, ht, hopen⟩ := h
    rw [hnil, List.map_nil, List.append_nil, List.mem_reverse] at ht
    exact (hs.found_closed t ht).not_unterminated hopen
  · intro h
    obtain ⟨item, items, hitems⟩ := List.exists_cons_of_ne_nil h
    refine ⟨item.1, by simp [hitems], ?_⟩
    have hmode := hs.mode_sound
    cases hm : (scan text).mode with
    | outside => simp [hm, Mode.openItems] at h
    | escape => simp [hm, Mode.openItems] at h
    | quote span =>
        rw [hm] at hmode hitems
        obtain ⟨body, hbody, hspan⟩ := hmode
        obtain ⟨rfl, -⟩ := List.cons.inj hitems
        exact ⟨body, hbody, .inl hspan⟩
    | quoteEscape span =>
        rw [hm] at hmode hitems
        obtain ⟨body, hbody, hspan⟩ := hmode
        obtain ⟨rfl, -⟩ := List.cons.inj hitems
        exact ⟨body, hbody, .inr hspan⟩

/-- **The complete texts** are those behind which a scan stands outside. -/
theorem complete_iff {text : Text} : Complete text ↔ (scan text).mode = .outside := by
  have hquotes : (∀ t ∈ tokenize text, ¬ t.Unterminated) ↔ (scan text).mode.openItems = [] := by
    rw [← not_iff_not, ← ne_eq, ← mem_unterminated_iff]
    push Not
    rfl
  have hsplit : Complete text ↔
      (scan text).mode.openItems = [] ∧ (scan text).mode ≠ .escape := by
    rw [← hquotes, ne_eq, ← dangling_iff]
    exact ⟨fun h => ⟨h.quotes_closed, h.not_dangling⟩, fun h => ⟨h.1, h.2⟩⟩
  rw [hsplit]
  cases (scan text).mode <;> simp [Mode.openItems]

instance : DecidablePred Complete := fun text =>
  decidable_of_iff ((scan text).mode = .outside) complete_iff.symm

/-! ### Texts in two parts -/

namespace Complete

variable {front : Text}

/-- Behind a complete text the tokens are those of what follows. -/
theorem tokenize_append (h : Complete front) (back : Text) :
    tokenize (front ++ back) = tokenize front ++ tokenize back :=
  tokenize_append_of_outside (complete_iff.mp h) back

/-- A mark between two texts, the first of which is complete, stands between their tokens. -/
theorem tokenize_append_mark (h : Complete front) {mark : Char} (hm : (Token.plain mark).Closed)
    (back : Text) :
    tokenize (front ++ mark :: back) = tokenize front ++ .plain mark :: tokenize back := by
  rw [h.tokenize_append]
  congr 1
  exact tokenize_closed_append hm back

end Complete

end PadGraph
