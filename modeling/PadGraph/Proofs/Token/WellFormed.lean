import Mathlib.Data.List.Basic
import PadGraph.Token.Scan

/-!
# Which lists of tokens a scan can find

A scan never finds a plain blank, a plain quote or a plain backslash, and every quoted span it finds
is closed, the last one of a text excepted. These are all the limits there are: a list of tokens
within them is found again in its written form.

* `SpanBody` — what may stand between the quotes of a span.
* `Token.Closed`, `Token.Unterminated` — a token that ends by itself, and a quote that does not.
* `WellFormed` — lists of closed tokens, of which the last may be an unterminated quote instead.
* **`wellFormed_tokenize`** — the tokens of a text are well formed.
* **`tokenize_render`** — a well-formed list is read back from its written form.
* `WellFormed.sublist`, `wellFormed_append` — dropping tokens keeps a list well formed, and a list
  in two parts is well formed when its front is closed and its back is well formed.
-/

namespace PadGraph

/-! ### Spans -/

/-- What may stand between the quotes of a span: characters other than a quote and a backslash, and
pairs of a backslash and any character. -/
inductive SpanBody : Text → Prop
  | nil : SpanBody []
  | char {c : Char} {body : Text} : c ≠ '\'' → c ≠ '\\' → SpanBody body → SpanBody (c :: body)
  | pair {c : Char} {body : Text} : SpanBody body → SpanBody ('\\' :: c :: body)

namespace SpanBody

theorem append {front back : Text} (hf : SpanBody front) (hb : SpanBody back) :
    SpanBody (front ++ back) := by
  induction hf with
  | nil => exact hb
  | char hq hs _ ih => exact .char hq hs ih
  | pair _ ih => exact .pair ih

theorem char_iff {c : Char} {body : Text} (hs : c ≠ '\\') :
    SpanBody (c :: body) ↔ c ≠ '\'' ∧ SpanBody body := by
  constructor
  · intro h
    cases h with
    | char hq _ hbody => exact ⟨hq, hbody⟩
    | pair _ => exact absurd rfl hs
  · rintro ⟨hq, hbody⟩
    exact .char hq hs hbody

theorem pair_iff {c : Char} {body : Text} : SpanBody ('\\' :: c :: body) ↔ SpanBody body := by
  constructor
  · intro h
    cases h with
    | char _ hs _ => exact absurd rfl hs
    | pair hbody => exact hbody
  · exact .pair

theorem not_backslash : ¬ SpanBody ['\\'] := by
  intro h
  cases h with
  | char _ hs _ => exact hs rfl

/-- Whether a text may stand between quotes is decided from its front. -/
def decide : (body : Text) → Decidable (SpanBody body)
  | [] => isTrue .nil
  | c :: body =>
    if hs : c = '\\' then
      match body with
      | [] => isFalse (hs ▸ not_backslash)
      | _ :: body => @decidable_of_iff _ (SpanBody body) (hs ▸ pair_iff.symm) (decide body)
    else
      @decidable_of_iff _ (c ≠ '\'' ∧ SpanBody body) (char_iff hs).symm
        (@instDecidableAnd _ _ _ (decide body))

instance : DecidablePred SpanBody := decide

end SpanBody

namespace Token

/-- A token after which a scan stands outside again. -/
def Closed : Token → Prop
  | plain c => isInsignificant c = false ∧ c ≠ '\'' ∧ c ≠ '\\'
  | escaped _ => True
  | quoted span => ∃ body, SpanBody body ∧ span = '\'' :: (body ++ ['\''])

/-- A quote that is still open where its span ends, which may be behind a backslash. -/
def Unterminated : Token → Prop
  | quoted span => ∃ body, SpanBody body ∧ (span = '\'' :: body ∨ span = '\'' :: (body ++ ['\\']))
  | _ => False

/-- A span is closed when it begins and ends in a quote and has a body between them. -/
theorem closed_quoted_iff {span : Text} :
    (quoted span).Closed ↔ span.head? = some '\'' ∧ span.tail.getLast? = some '\'' ∧
      SpanBody span.tail.dropLast := by
  constructor
  · rintro ⟨body, hbody, rfl⟩
    simpa using hbody
  · rintro ⟨hhead, hlast, hbody⟩
    refine ⟨_, hbody, ?_⟩
    rw [List.dropLast_append_getLast? _ hlast]
    exact (List.eq_cons_of_mem_head? hhead)

instance : DecidablePred Closed
  | plain c => inferInstanceAs (Decidable (isInsignificant c = false ∧ c ≠ '\'' ∧ c ≠ '\\'))
  | escaped _ => isTrue trivial
  | quoted _ => decidable_of_iff _ closed_quoted_iff.symm

end Token

/-- Lists of tokens of which every one is closed, only that the last may be an unterminated quote. -/
structure WellFormed (tokens : List Token) : Prop where
  /-- Each token before the last is closed. -/
  init_closed : ∀ t ∈ tokens.dropLast, t.Closed
  /-- No token is anything but closed or an unterminated quote. -/
  closed_or : ∀ t ∈ tokens, t.Closed ∨ t.Unterminated

namespace Scan

/-! ### Scanning the written form of a token -/

/-- Inside a quote the body of a span is read as it stands. -/
theorem foldl_step_body {body : Text} (h : SpanBody body) (found : List Token) (span : Text) :
    body.foldl step ⟨found, .quote span⟩ = ⟨found, .quote (body.reverse ++ span)⟩ := by
  induction h generalizing span with
  | nil => rfl
  | @char c body hq hs _ ih =>
      rw [List.foldl_cons, show step ⟨found, .quote span⟩ c = ⟨found, .quote (c :: span)⟩ from by
        simp [step, hq, hs], ih]
      simp
  | @pair c body _ ih =>
      show body.foldl step ⟨found, .quote (c :: '\\' :: span)⟩ = _
      rw [ih]
      simp

/-- A closed token is found in its written form, and the scan stands outside again. -/
theorem foldl_step_closed {t : Token} (h : t.Closed) (found : List Token) :
    t.text.foldl step ⟨found, .outside⟩ = ⟨t :: found, .outside⟩ := by
  cases t with
  | plain c =>
      obtain ⟨hi, hq, hs⟩ := h
      simp [Token.text, step, hi, hq, hs]
  | escaped c => rfl
  | quoted span =>
      obtain ⟨body, hbody, rfl⟩ := h
      show (body ++ ['\'']).foldl step ⟨found, .quote ['\'']⟩ = _
      rw [List.foldl_append, foldl_step_body hbody]
      simp [step]

/-- An unterminated quote leaves the scan inside it, and is found when the text ends there. -/
theorem foldl_step_unterminated {t : Token} (h : t.Unterminated) (found : List Token) :
    (t.text.foldl step ⟨found, .outside⟩).mode ≠ .outside ∧
      (t.text.foldl step ⟨found, .outside⟩).finish = found.reverse ++ [t] := by
  cases t with
  | plain c => exact h.elim
  | escaped c => exact h.elim
  | quoted span =>
      obtain ⟨body, hbody, rfl | rfl⟩ := h
      · show (body.foldl step ⟨found, .quote ['\'']⟩).mode ≠ .outside ∧
          (body.foldl step ⟨found, .quote ['\'']⟩).finish = _
        rw [foldl_step_body hbody]
        simp [finish]
      · show ((body ++ ['\\']).foldl step ⟨found, .quote ['\'']⟩).mode ≠ .outside ∧
          ((body ++ ['\\']).foldl step ⟨found, .quote ['\'']⟩).finish = _
        rw [List.foldl_append, foldl_step_body hbody]
        simp [step, finish]

theorem foldl_step_render {tokens : List Token} (h : ∀ t ∈ tokens, t.Closed)
    (found : List Token) :
    (render tokens).foldl step ⟨found, .outside⟩ = ⟨tokens.reverse ++ found, .outside⟩ := by
  induction tokens generalizing found with
  | nil => rfl
  | cons t ts ih =>
      rw [render_cons, List.foldl_append, foldl_step_closed (h t (by simp)),
        ih (fun u hu => h u (by simp [hu]))]
      simp

/-! ### What a scan can find -/

/-- The span that is being read, if one is, is an opening quote with a body behind it. -/
def SoundMode : Mode → Prop
  | .outside => True
  | .escape => True
  | .quote span => ∃ body, SpanBody body ∧ span.reverse = '\'' :: body
  | .quoteEscape span => ∃ body, SpanBody body ∧ span.reverse = '\'' :: (body ++ ['\\'])

/-- What holds of a scan all along: the tokens found so far are closed. -/
structure Sound (s : Scan) : Prop where
  /-- The tokens found so far are closed. -/
  found_closed : ∀ t ∈ s.found, t.Closed
  /-- The span that is being read can be continued to a closed one. -/
  mode_sound : SoundMode s.mode

theorem Sound.push {found : List Token} {mode : Mode} {t : Token}
    (hf : ∀ u ∈ found, u.Closed) (ht : t.Closed) (hm : SoundMode mode) :
    Sound ⟨t :: found, mode⟩ := by
  refine ⟨fun u hu => ?_, hm⟩
  rcases List.mem_cons.mp hu with rfl | hu
  · exact ht
  · exact hf u hu

theorem Sound.step {s : Scan} (h : s.Sound) (c : Char) : (s.step c).Sound := by
  obtain ⟨found, mode⟩ := s
  obtain ⟨hf, hm⟩ := h
  cases mode with
  | outside =>
      simp only [Scan.step]
      split
      · exact ⟨hf, trivial⟩
      split
      · next hc => exact ⟨hf, [], .nil, by simp [hc]⟩
      split
      · exact ⟨hf, trivial⟩
      · next hi hq hs => exact .push hf ⟨by simpa using hi, hq, hs⟩ trivial
  | escape => exact .push hf trivial trivial
  | quote span =>
      obtain ⟨body, hbody, hspan⟩ := hm
      simp only [Scan.step]
      split
      · next hc => exact .push hf ⟨body, hbody, by simp [hspan, hc]⟩ trivial
      split
      · next hs => exact ⟨hf, body, hbody, by simp [hspan, hs]⟩
      · next hq hs =>
        exact ⟨hf, body ++ [c], hbody.append (.char hq hs .nil), by simp [hspan]⟩
  | quoteEscape span =>
      obtain ⟨body, hbody, hspan⟩ := hm
      exact ⟨hf, body ++ ['\\', c], hbody.append (.pair .nil), by simp [hspan]⟩

theorem Sound.foldl {s : Scan} (h : s.Sound) (text : Text) : (text.foldl Scan.step s).Sound := by
  induction text generalizing s with
  | nil => exact h
  | cons c rest ih => exact ih (h.step c)

theorem sound_scan (text : Text) : (scan text).Sound := by
  have hstart : Sound {} := ⟨by simp, trivial⟩
  exact hstart.foldl text

/-- What a sound scan has found when the text ends: closed tokens, and behind them at most one
quote that is still open. -/
theorem Sound.finish {s : Scan} (h : s.Sound) :
    ∃ open? : Option Token, s.finish = s.found.reverse ++ open?.toList ∧
      ∀ t ∈ open?, t.Unterminated := by
  obtain ⟨found, mode⟩ := s
  obtain ⟨-, hm⟩ := h
  cases mode with
  | outside => exact ⟨none, by simp [Scan.finish], by simp⟩
  | escape => exact ⟨none, by simp [Scan.finish], by simp⟩
  | quote span =>
      obtain ⟨body, hbody, hspan⟩ := hm
      refine ⟨some (.quoted span.reverse), by simp [Scan.finish], fun t ht => ?_⟩
      obtain rfl : .quoted span.reverse = t := by simpa using ht
      exact ⟨body, hbody, .inl hspan⟩
  | quoteEscape span =>
      obtain ⟨body, hbody, hspan⟩ := hm
      refine ⟨some (.quoted span.reverse), by simp [Scan.finish], fun t ht => ?_⟩
      obtain rfl : .quoted span.reverse = t := by simpa using ht
      exact ⟨body, hbody, .inr hspan⟩

end Scan

/-! ### Well-formed lists -/

/-- Tokens that are all written somehow are written as nothing only when there are none. -/
theorem render_eq_nil {tokens : List Token} (h : ∀ t ∈ tokens, t.text ≠ []) :
    render tokens = [] ↔ tokens = [] := by
  cases tokens with
  | nil => simp
  | cons t ts => simp [h t (by simp)]

theorem wellFormed_of_closed {tokens : List Token} (h : ∀ t ∈ tokens, t.Closed) :
    WellFormed tokens :=
  ⟨fun t ht => h t (List.dropLast_subset _ ht), fun t ht => .inl (h t ht)⟩

/-- A list with something behind it is closed, and what stands behind it is well formed. -/
theorem wellFormed_append {front back : List Token} (hne : back ≠ []) :
    WellFormed (front ++ back) ↔ (∀ t ∈ front, t.Closed) ∧ WellFormed back := by
  constructor
  · intro h
    have hinit := h.init_closed
    rw [List.dropLast_append_of_ne_nil hne] at hinit
    exact ⟨fun t ht => hinit t (by simp [ht]), fun t ht => hinit t (by simp [ht]),
      fun t ht => h.closed_or t (by simp [ht])⟩
  · rintro ⟨hf, hinit, hback⟩
    refine ⟨?_, fun t ht => ?_⟩
    · rw [List.dropLast_append_of_ne_nil hne]
      intro t ht
      rcases List.mem_append.mp ht with ht | ht
      · exact hf t ht
      · exact hinit t ht
    · rcases List.mem_append.mp ht with ht | ht
      · exact .inl (hf t ht)
      · exact hback t ht

theorem wellFormed_append_of_closed {front back : List Token} (h : ∀ t ∈ front, t.Closed) :
    WellFormed (front ++ back) ↔ WellFormed back := by
  rcases eq_or_ne back [] with rfl | hne
  · simpa using ⟨fun _ => ⟨by simp, by simp⟩, fun _ => wellFormed_of_closed h⟩
  · exact (wellFormed_append hne).trans (and_iff_right h)

theorem wellFormed_concat {front : List Token} {t : Token} (ht : t.Closed) :
    WellFormed (front ++ [t]) ↔ ∀ u ∈ front ++ [t], u.Closed := by
  constructor
  · intro h u hu
    obtain ⟨hfront, -⟩ := (wellFormed_append (by simp)).mp h
    rcases List.mem_append.mp hu with hu | hu
    · exact hfront u hu
    · exact List.mem_singleton.mp hu ▸ ht
  · exact wellFormed_of_closed

/-- **The tokens of a text are well formed.** -/
theorem wellFormed_tokenize (text : Text) : WellFormed (tokenize text) := by
  have hs := Scan.sound_scan text
  obtain ⟨open?, hfinish, hopen⟩ := hs.finish
  have hfound : ∀ t ∈ (scan text).found.reverse, t.Closed := fun t ht =>
    hs.found_closed t (List.mem_reverse.mp ht)
  rw [tokenize, hfinish]
  cases open? with
  | none => simpa using wellFormed_of_closed hfound
  | some t =>
      rw [wellFormed_append (by simp)]
      refine ⟨hfound, by simp, fun u hu => .inr (hopen u ?_)⟩
      simpa [eq_comm] using hu

/-- **A well-formed list of tokens is read back from its written form.** -/
theorem tokenize_render {tokens : List Token} (h : WellFormed tokens) :
    tokenize (render tokens) = tokens := by
  rcases List.eq_nil_or_concat' tokens with rfl | ⟨front, t, rfl⟩
  · rfl
  · obtain ⟨hfront, hlast⟩ := (wellFormed_append (by simp)).mp h
    have hscan : scan (render (front ++ [t])) =
        t.text.foldl Scan.step ⟨front.reverse, .outside⟩ := by
      rw [scan, render_append, List.foldl_append]
      show (render [t]).foldl Scan.step ((render front).foldl Scan.step ⟨[], .outside⟩) = _
      rw [Scan.foldl_step_render hfront]
      simp
    rw [tokenize, hscan]
    rcases hlast.closed_or t (by simp) with ht | ht
    · rw [Scan.foldl_step_closed ht]
      simp [Scan.finish]
    · rw [(Scan.foldl_step_unterminated ht _).2, List.reverse_reverse]

/-- A closed token is no unterminated quote: the one leaves a scan outside and the other inside. -/
theorem Token.Closed.not_unterminated {t : Token} (h : t.Closed) : ¬ t.Unterminated := by
  intro hu
  have hmode := (Scan.foldl_step_unterminated hu []).1
  rw [Scan.foldl_step_closed h] at hmode
  exact hmode rfl

namespace WellFormed

theorem sublist {tokens kept : List Token} (h : WellFormed tokens) (hs : kept.Sublist tokens) :
    WellFormed kept := by
  rcases List.eq_nil_or_concat' kept with rfl | ⟨front, t, rfl⟩
  · exact ⟨by simp, by simp⟩
  · -- the last token kept stands in `tokens` behind all others that are kept
    obtain ⟨before, behind, rfl, hbefore, hbehind⟩ := List.append_sublist_iff.mp hs
    have hne : behind ≠ [] := by
      rintro rfl
      simp at hbehind
    obtain ⟨hclosed, hwell⟩ := (wellFormed_append hne).mp h
    rw [wellFormed_append (by simp)]
    refine ⟨fun u hu => hclosed u (hbefore.subset hu), by simp, fun u hu => ?_⟩
    exact hwell.closed_or u (hbehind.subset hu)

theorem closed_of_not_unterminated {tokens : List Token} (h : WellFormed tokens) {t : Token}
    (ht : t ∈ tokens) (hn : ¬ t.Unterminated) : t.Closed :=
  (h.closed_or t ht).resolve_right hn

theorem text_ne_nil {tokens : List Token} (h : WellFormed tokens) : ∀ t ∈ tokens, t.text ≠ [] := by
  intro t ht
  cases t with
  | plain c => simp [Token.text]
  | escaped c => simp [Token.text]
  | quoted span =>
      rcases h.closed_or _ ht with ⟨body, -, rfl⟩ | ⟨body, -, rfl | rfl⟩ <;> simp [Token.text]

end WellFormed

end PadGraph
