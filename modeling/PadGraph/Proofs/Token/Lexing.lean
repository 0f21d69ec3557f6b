import Mathlib.Data.List.MinMax
import Mathlib.Data.List.ReduceOption
import Mathlib.Data.Prod.Lex
import PadGraph.Proofs.Token.Flags
import PadGraph.Proofs.Token.Lexeme

/-!
# Cutting a text at longest matches

At each place of a text the kind with the longest match gives the next lexeme, and of two matches
of one length the one whose kind has the higher priority. The lexemes of a text are tokens,
or mean nothing, and the tokens among them are those that a scan finds one character at a time.

* `select`, `lex`, `lexTokens` — the next lexeme, all of them, and the tokens among them.
* `Selected` — what is known of a lexeme that is selected.
* `Selected.tokenize_eq` — a scan finds the token of a selected lexeme first.
* `lex_induction` — induction over a text from one lexeme to the next.
* **`lexTokens_eq_flagTokens`** — longest matches and a scan with flags find the same tokens, there
  is a lexeme at every place, open quotes and lone backslashes come last, and the only tie is at a
  quote that ends the text.
-/

namespace PadGraph

/-! ### Selecting and cutting -/

/-- The longest match of each kind at the front of a text, with what stands behind it. -/
def candidates (text : Text) : List (Lexeme × Text) :=
  Kind.all.filterMap fun kind =>
    (kind.pattern.longest? text).map fun (span, rest) => (⟨kind, span⟩, rest)

/-- The next lexeme of a text and what stands behind it, if one of the patterns matches: the longest
candidate, and of several the one with the highest priority. -/
def select (skip : Nat) (text : Text) : Option (Lexeme × Text) :=
  (candidates text).argmax fun (lexeme, _) =>
    toLex (lexeme.span.length, lexeme.kind.priority skip)

/-- A lexeme at the front of a text, and no other match there is longer or has the same length and
a higher priority. -/
structure Selected (skip : Nat) (text : Text) (lexeme : Lexeme) (rest : Text) : Prop where
  split : text = lexeme.span ++ rest
  fits : lexeme.kind.Fits lexeme.span
  best : ∀ (kind : Kind) (front back : Text), text = front ++ back → kind.Fits front →
    front.length < lexeme.span.length ∨
      front.length = lexeme.span.length ∧ kind.priority skip ≤ lexeme.kind.priority skip

variable {skip : Nat} {text rest : Text} {lexeme : Lexeme}

theorem mem_candidates :
    (lexeme, rest) ∈ candidates text ↔ lexeme.kind.pattern.Longest text lexeme.span rest := by
  obtain ⟨kind, span⟩ := lexeme
  rw [candidates, List.mem_filterMap]
  constructor
  · rintro ⟨other, -, h⟩
    obtain ⟨⟨front, back⟩, hlongest, heq⟩ := Option.map_eq_some_iff.mp h
    obtain ⟨hlexeme, rfl⟩ := Prod.mk.inj heq
    obtain ⟨rfl, rfl⟩ := Lexeme.mk.inj hlexeme
    exact Pattern.longest?_eq_some_iff.mp hlongest
  · intro h
    exact ⟨kind, kind.mem_all, by rw [Pattern.longest?_eq_some_iff.mpr h]; rfl⟩

/-- Every front of some kind is at most as long as a candidate of this kind. -/
theorem exists_candidate {kind : Kind} {front back : Text} (hsplit : text = front ++ back)
    (h : kind.Fits front) :
    ∃ span behind, (⟨kind, span⟩, behind) ∈ candidates text ∧ front.length ≤ span.length := by
  have hmatch := (kind.matches_iff_fits front).mpr h
  cases hl : kind.pattern.longest? text with
  | none => exact absurd hmatch (Pattern.longest?_eq_none_iff.mp hl front back hsplit)
  | some found =>
      obtain ⟨span, behind⟩ := found
      have hlongest := Pattern.longest?_eq_some_iff.mp hl
      exact ⟨span, behind, mem_candidates.mpr hlongest,
        hlongest.longest front back hsplit hmatch⟩

theorem selected_of_select (h : select skip text = some (lexeme, rest)) :
    Selected skip text lexeme rest := by
  have hlongest := mem_candidates.mp (List.argmax_mem h)
  refine ⟨hlongest.split, (lexeme.kind.matches_iff_fits _).mp hlongest.matched, ?_⟩
  intro kind front back hsplit hfits
  obtain ⟨span, behind, hmem, hle⟩ := exists_candidate hsplit hfits
  have hbest := List.le_of_mem_argmax hmem h
  rcases Prod.Lex.le_iff.mp hbest with hlt | ⟨heq, hpriority⟩
  · have hlt' : span.length < lexeme.span.length := hlt
    omega
  · have heq' : span.length = lexeme.span.length := heq
    have hpriority' : kind.priority skip ≤ lexeme.kind.priority skip := hpriority
    omega

theorem exists_select (skip : Nat) (h : text ≠ []) :
    ∃ lexeme rest, select skip text = some (lexeme, rest) := by
  obtain ⟨kind, front, back, hfits, hsplit⟩ := Kind.exists_fits h
  obtain ⟨span, behind, hmem, -⟩ := exists_candidate hsplit hfits
  cases hs : select skip text with
  | none =>
      rw [select, List.argmax_eq_none] at hs
      rw [hs] at hmem
      exact absurd hmem (by simp)
  | some found => exact ⟨found.1, found.2, rfl⟩

theorem Selected.length_lt (h : Selected skip text lexeme rest) : rest.length < text.length := by
  have hpos := List.length_pos_of_ne_nil h.fits.ne_nil
  rw [h.split, List.length_append]
  omega

/-- The lexemes of a text. Where no pattern matches there is none, and one character is passed
over. -/
def lex (skip : Nat) (text : Text) : List (Option Lexeme) :=
  match hselect : select skip text with
  | some (lexeme, rest) =>
    have : rest.length < text.length := (selected_of_select hselect).length_lt
    some lexeme :: lex skip rest
  | none =>
    match text with
    | [] => []
    | _ :: rest => none :: lex skip rest
termination_by text.length

/-- The tokens among the lexemes of a text; places without a lexeme are left out. -/
def lexTokens (skip : Nat) (text : Text) : List Token :=
  (lex skip text).reduceOption.filterMap Lexeme.token?

theorem select_nil (skip : Nat) : select skip [] = none := by
  cases hs : select skip [] with
  | none => rfl
  | some found =>
      obtain ⟨lexeme, rest⟩ := found
      have hlt := (selected_of_select hs).length_lt
      simp at hlt

theorem lex_nil (skip : Nat) : lex skip [] = [] := by
  rw [lex]
  split
  · next hs => simp [select_nil] at hs
  · rfl

theorem lex_of_select (h : select skip text = some (lexeme, rest)) :
    lex skip text = some lexeme :: lex skip rest := by
  rw [lex]
  split
  · next hs =>
    obtain ⟨rfl, rfl⟩ := Prod.mk.inj (Option.some.inj (hs.symm.trans h))
    rfl
  · next hs => simp [hs] at h

/-- **Induction over a text from one lexeme to the next.** -/
theorem lex_induction (skip : Nat) {motive : Text → Prop} (nil : motive [])
    (cons : ∀ (text : Text) (lexeme : Lexeme) (rest : Text), Selected skip text lexeme rest →
      lex skip text = some lexeme :: lex skip rest → motive rest → motive text)
    (text : Text) : motive text := by
  induction hlen : text.length using Nat.strong_induction_on generalizing text with
  | _ n ih =>
    rcases eq_or_ne text [] with rfl | hne
    · exact nil
    · obtain ⟨lexeme, rest, hs⟩ := exists_select skip hne
      have hselected := selected_of_select hs
      exact cons text lexeme rest hselected (lex_of_select hs)
        (ih rest.length (hlen ▸ hselected.length_lt) rest rfl)

/-! ### What is selected -/

namespace Selected

/-- At a quote there is a closed span, or the quote is open up to the end of the text; a lexeme that
is selected is no shorter than either. -/
theorem at_quote {behind : Text} (h : Selected skip ('\'' :: behind) lexeme rest) :
    (∃ span back, (Token.quoted span).Closed ∧ '\'' :: behind = span ++ back ∧
      span.length ≤ lexeme.span.length) ∨
    rest = [] ∧ (Kind.unterminated.priority skip ≤ lexeme.kind.priority skip) := by
  rcases closed_or_unterminated behind with ⟨span, back, hclosed, hsplit⟩ | hopen
  · refine .inl ⟨span, back, hclosed, hsplit, ?_⟩
    rcases h.best .quoted span back hsplit hclosed with hlt | ⟨heq, -⟩ <;> omega
  · refine .inr ?_
    have hbest := h.best .unterminated ('\'' :: behind) [] (by simp) hopen
    have hlength := congrArg List.length h.split
    rw [List.length_append] at hlength
    rcases hbest with hlt | ⟨heq, hpriority⟩
    · omega
    · exact ⟨List.eq_nil_of_length_eq_zero (by omega), hpriority⟩

/-- **An open quote is selected only when it reaches the end of the text.** -/
theorem rest_of_unterminated (h : Selected skip text lexeme rest)
    (hkind : lexeme.kind = .unterminated) : rest = [] := by
  have hopen : (Token.quoted lexeme.span).Unterminated := by
    have hfits := h.fits
    rwa [hkind] at hfits
  obtain ⟨c, behind, hbegin, hspan⟩ := h.fits.exists_cons
  rw [hkind] at hbegin
  obtain rfl : c = '\'' := hbegin
  obtain rfl : text = '\'' :: (behind ++ rest) := by rw [h.split, hspan]; rfl
  rcases h.at_quote with ⟨span, back, hclosed, hsplit, hle⟩ | ⟨hrest, -⟩
  · have hlt := unterminated_shorter hclosed hopen (hsplit.symm.trans h.split)
    omega
  · exact hrest

/-- **A lone backslash is selected only at the end of the text.** -/
theorem rest_of_backslash (h : Selected skip text lexeme rest) (hspan : lexeme.span = ['\\']) :
    rest = [] := by
  have hsplit := h.split
  rw [hspan] at hsplit
  cases rest with
  | nil => rfl
  | cons d rest =>
      have hbest := h.best .escape ['\\', d] rest hsplit ⟨d, rfl⟩
      rw [hspan] at hbest
      simp at hbest

/-- A quote is never selected as an ordinary character. -/
theorem ne_quote_of_char (h : Selected skip text lexeme rest) (hkind : lexeme.kind = .char) :
    lexeme.span ≠ ['\''] := by
  intro hspan
  obtain rfl : text = '\'' :: rest := by rw [h.split, hspan]; rfl
  rcases h.at_quote with ⟨span, back, hclosed, -, hle⟩ | ⟨-, hpriority⟩
  · have htwo := hclosed.two_le_length
    rw [hspan] at hle
    simp at hle
    omega
  · rw [hkind] at hpriority
    simp [Kind.priority] at hpriority

/-- **Matches of two kinds are equally long only at a quote that ends the text.** -/
theorem eq_quote_of_tie (h : Selected skip text lexeme rest) {other : Kind} {front back : Text}
    (hne : other ≠ lexeme.kind) (hsplit : text = front ++ back) (hfits : other.Fits front)
    (hlength : front.length = lexeme.span.length) : text = ['\''] := by
  obtain ⟨rfl, -⟩ := List.append_inj (hsplit.symm.trans h.split) hlength
  have hspan : lexeme.span = ['\''] := Kind.eq_quote_of_fits hfits h.fits hne
  obtain rfl : text = '\'' :: rest := by rw [h.split, hspan]; rfl
  rcases h.at_quote with ⟨span, back, hclosed, -, hle⟩ | ⟨hrest, -⟩
  · have htwo := hclosed.two_le_length
    rw [hspan] at hle
    simp at hle
    omega
  · rw [hrest]

/-- **A scan finds the token of a selected lexeme first**, and goes on behind the lexeme. -/
theorem tokenize_eq (h : Selected skip text lexeme rest) :
    tokenize text = lexeme.token?.toList ++ tokenize rest := by
  have hfits := h.fits
  cases hkind : lexeme.kind with
  | blank =>
      rw [hkind] at hfits
      rw [h.split, tokenize_blank_append hfits.2]
      simp [Lexeme.token?, hkind]
  | quoted =>
      rw [hkind] at hfits
      have hclosed := tokenize_closed_append (t := .quoted lexeme.span) hfits rest
      rw [h.split]
      simpa [Lexeme.token?, hkind, Token.text] using hclosed
  | unterminated =>
      obtain rfl := h.rest_of_unterminated hkind
      rw [hkind] at hfits
      have hopen : WellFormed [.quoted lexeme.span] := by
        refine ⟨by simp, fun t ht => .inr ?_⟩
        rwa [List.mem_singleton.mp ht]
      have hread := tokenize_render hopen
      rw [h.split]
      simpa [Lexeme.token?, hkind, Token.text] using hread
  | escape =>
      rw [hkind] at hfits
      obtain ⟨c, hspan⟩ := hfits
      have hclosed := tokenize_closed_append (t := .escaped c) trivial rest
      rw [h.split, hspan]
      simpa [Lexeme.token?, hkind, hspan, Token.text] using hclosed
  | char =>
      have hquote := h.ne_quote_of_char hkind
      rw [hkind] at hfits
      obtain ⟨c, hc, hspan⟩ := hfits
      by_cases hs : c = '\\'
      · subst hs
        obtain rfl := h.rest_of_backslash hspan
        rw [h.split, hspan]
        simp only [Lexeme.token?, hkind, hspan]
        rfl
      · have hq : c ≠ '\'' := by
          rintro rfl
          exact hquote hspan
        have hclosed := tokenize_closed_append (t := .plain c) ⟨hc, hq, hs⟩ rest
        rw [h.split, hspan]
        simpa [Lexeme.token?, hkind, hspan, hs, Token.text] using hclosed

end Selected

/-! ### All lexemes of a text -/

/-- **Longest matches and a scan find the same tokens.** -/
theorem lexTokens_eq_tokenize (skip : Nat) (text : Text) :
    lexTokens skip text = tokenize text := by
  induction text using lex_induction skip with
  | nil =>
      rw [lexTokens, lex_nil]
      rfl
  | cons text lexeme rest hselected hlex ih =>
      rw [hselected.tokenize_eq, ← ih, lexTokens, lexTokens, hlex, List.reduceOption_cons_of_some,
        List.filterMap_cons]
      cases lexeme.token? <;> rfl

/-- There is a lexeme at every place of a text, and together they are the text. -/
theorem exists_lexemes (skip : Nat) (text : Text) :
    ∃ lexemes : List Lexeme, lex skip text = lexemes.map some ∧
      lexemes.flatMap Lexeme.span = text := by
  induction text using lex_induction skip with
  | nil => exact ⟨[], lex_nil skip, rfl⟩
  | cons text lexeme rest hselected hlex ih =>
      obtain ⟨lexemes, hrest, hspans⟩ := ih
      refine ⟨lexeme :: lexemes, ?_, ?_⟩
      · rw [hlex, hrest]
        rfl
      · rw [List.flatMap_cons, hspans]
        exact hselected.split.symm

/-- Nothing comes behind an open quote or a lone backslash. -/
theorem behind_eq_nil (skip : Nat) {front behind : List (Option Lexeme)}
    (h : lex skip text = front ++ some lexeme :: behind)
    (hlast : lexeme.kind = .unterminated ∨ lexeme.span = ['\\']) : behind = [] := by
  induction text using lex_induction skip generalizing front with
  | nil =>
      rw [lex_nil] at h
      simp at h
  | cons text first rest hselected hlex ih =>
      rw [hlex] at h
      cases front with
      | cons item front => exact ih (List.cons.inj h).2
      | nil =>
          obtain ⟨hfirst, hbehind⟩ := List.cons.inj h
          obtain rfl := Option.some.inj hfirst
          have hrest : rest = [] := by
            rcases hlast with hkind | hspan
            · exact hselected.rest_of_unterminated hkind
            · exact hselected.rest_of_backslash hspan
          rw [← hbehind, hrest, lex_nil]

/-- **Longest matches and a scan with flags find the same tokens.** The lexemes of a text leave out
none of its places, and nothing comes behind an open quote or a lone backslash. Where a text is not
at its end, some lexeme is selected; it reaches the end if it is an open quote or a lone backslash,
and another kind matches as far only when nothing but a quote is left. -/
theorem lexTokens_eq_flagTokens (skip : Nat) (text : Text) :
    (lexTokens skip text = flagTokens text ∧ tokenize text = flagTokens text) ∧
    (∃ lexemes : List Lexeme, lex skip text = lexemes.map some ∧
      lexemes.flatMap Lexeme.span = text) ∧
    (∀ front lexeme behind, lex skip text = front ++ some lexeme :: behind →
      lexeme.kind = .unterminated ∨ lexeme.span = ['\\'] → behind = []) ∧
    (∀ place, place ≠ [] → ∃ lexeme rest, select skip place = some (lexeme, rest) ∧
      lexeme.span ≠ [] ∧ lexeme.kind.pattern.Matches lexeme.span ∧ place = lexeme.span ++ rest ∧
      (lexeme.kind = .unterminated ∨ lexeme.span = ['\\'] → rest = []) ∧
      ∀ (other : Kind) (front back : Text), other ≠ lexeme.kind → place = front ++ back →
        other.pattern.Matches front → front.length = lexeme.span.length → place = ['\'']) := by
  have hflags := tokenize_eq_flagTokens text
  refine ⟨⟨(lexTokens_eq_tokenize skip text).trans hflags, hflags⟩, exists_lexemes skip text,
    fun front lexeme behind => behind_eq_nil skip, ?_⟩
  intro place hne
  obtain ⟨lexeme, rest, hselect⟩ := exists_select skip hne
  have hselected := selected_of_select hselect
  refine ⟨lexeme, rest, hselect, hselected.fits.ne_nil,
    (lexeme.kind.matches_iff_fits _).mpr hselected.fits, hselected.split, ?_, ?_⟩
  · rintro (hkind | hspan)
    · exact hselected.rest_of_unterminated hkind
    · exact hselected.rest_of_backslash hspan
  · intro other front back hother hsplit hmatch hlength
    exact hselected.eq_quote_of_tie hother hsplit ((other.matches_iff_fits front).mp hmatch) hlength

/-- A quote that ends the text is an open quote and a character, both as long as it; the open quote
goes before. With one more character behind it there is no tie. -/
theorem lexTokens_eq_flagTokens_tie :
    lexTokens 1 "a 'b' '".toList = [.plain 'a', .quoted "'b'".toList, .quoted ['\'']] ∧
    select 1 ['\''] = some (⟨.unterminated, ['\'']⟩, []) ∧
    Kind.char.pattern.Matches ['\''] ∧
    select 1 "'b".toList = some (⟨.unterminated, "'b".toList⟩, []) ∧
    ∀ (other : Kind) (front back : Text), other ≠ .unterminated → "'b".toList = front ++ back →
      other.pattern.Matches front → front.length ≠ 2 := by
  have hlone : select 1 ['\''] = some (⟨.unterminated, ['\'']⟩, []) := by decide +kernel
  have hopen : select 1 "'b".toList = some (⟨.unterminated, "'b".toList⟩, []) := by
    decide +kernel
  obtain ⟨⟨htokens, -⟩, -, -, hplaces⟩ := lexTokens_eq_flagTokens 1 "a 'b' '".toList
  obtain ⟨lexeme, rest, hselect, -, -, -, -, htie⟩ := hplaces "'b".toList (by decide)
  obtain ⟨rfl, rfl⟩ := Prod.mk.inj (Option.some.inj (hopen.symm.trans hselect))
  have hchar : Kind.char.pattern.Matches ['\''] :=
    (Kind.char.matches_iff_fits _).mpr ⟨'\'', by decide, rfl⟩
  refine ⟨htokens.trans (by decide +kernel), hlone, hchar, hopen, ?_⟩
  intro other front back hother hsplit hmatches hlength
  cases htie other front back hother hsplit hmatches hlength

end PadGraph
