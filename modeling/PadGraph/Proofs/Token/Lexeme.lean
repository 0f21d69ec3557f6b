import PadGraph.Proofs.Token.Layout
import PadGraph.Proofs.Token.Pattern

/-!
# Lexemes

A text can also be cut into lexemes, each of a kind that a regular pattern describes: a run of
spaces and newlines, a quoted span, a quote that is not closed, a backslash with the character it
escapes, and any other character.

* `Kind`, `Kind.pattern`, `Kind.priority` — the kinds with their patterns, and which of two goes
  before the other.
* `Lexeme`, `Lexeme.token?` — a piece of a text with its kind, and the token it is, if it is one.
* `Kind.Fits`, **`Kind.matches_iff_fits`** — what the patterns match, told by tokens.
* `closed_or_unterminated` — a quote is closed somewhere, or open up to the end.
* `unterminated_shorter` — a quote that is closed is longer than any front of it that is open.
* `Kind.eq_quote_of_fits` — only a lone quote is of two kinds.
-/

namespace PadGraph

namespace Pattern

/-- Any character: one other than a newline, or a newline. -/
def any : Pattern := either (one (· != '\n')) (char '\n')

/-- What stands between quotes, character by character and escape by escape. -/
def body : Pattern :=
  many (either (one fun c => c != '\'' && c != '\\') (seq (char '\\') any))

theorem matches_any_iff {text : Text} : any.Matches text ↔ ∃ c, text = [c] := by
  rw [any, matches_either_iff, matches_one_iff, matches_char_iff]
  constructor
  · rintro (⟨c, -, rfl⟩ | rfl)
    · exact ⟨c, rfl⟩
    · exact ⟨'\n', rfl⟩
  · rintro ⟨c, rfl⟩
    by_cases hc : c = '\n'
    · exact .inr (by rw [hc])
    · exact .inl ⟨c, by simpa using hc, rfl⟩

/-- A backslash with the character behind it. -/
theorem matches_pair_iff {text : Text} :
    (seq (char '\\') any).Matches text ↔ ∃ c, text = ['\\', c] := by
  rw [matches_seq_iff]
  constructor
  · rintro ⟨front, back, hfront, hback, rfl⟩
    obtain rfl := matches_char_iff.mp hfront
    obtain ⟨c, rfl⟩ := matches_any_iff.mp hback
    exact ⟨c, rfl⟩
  · rintro ⟨c, rfl⟩
    exact ⟨['\\'], [c], matches_char_iff.mpr rfl, matches_any_iff.mpr ⟨c, rfl⟩, rfl⟩

theorem spanBody_of_matches_body {text : Text} (h : body.Matches text) : SpanBody text := by
  rw [body] at h
  generalize hrow : many _ = row at h
  induction h with
  | none => exact .nil
  | @more p front back hfirst _ _ ih =>
      obtain rfl := Pattern.many.inj hrow
      have hback : SpanBody back := ih hrow
      rcases matches_either_iff.mp hfirst with hone | hpair
      · obtain ⟨c, hc, rfl⟩ := matches_one_iff.mp hone
        obtain ⟨hq, hs⟩ : c ≠ '\'' ∧ c ≠ '\\' := by simpa using hc
        exact .char hq hs hback
      · obtain ⟨c, rfl⟩ := matches_pair_iff.mp hpair
        exact .pair hback
  | empty => cases hrow
  | one => cases hrow
  | seq => cases hrow
  | left => cases hrow
  | right => cases hrow

theorem matches_body_iff {text : Text} : body.Matches text ↔ SpanBody text := by
  constructor
  · exact spanBody_of_matches_body
  · intro h
    induction h with
    | nil => exact .none
    | @char c rest hq hs _ ih =>
        have hone : Matches (one fun c => c != '\'' && c != '\\') [c] := .one (by simp [hq, hs])
        exact .more (.left hone) ih
    | @pair c rest _ ih =>
        have hpair : Matches (seq (char '\\') any) ['\\', c] := matches_pair_iff.mpr ⟨c, rfl⟩
        exact .more (.right hpair) ih

/-- Something behind an opening quote. -/
theorem matches_quote_seq_iff {p : Pattern} {text : Text} :
    (seq (char '\'') p).Matches text ↔ ∃ rest, p.Matches rest ∧ text = '\'' :: rest := by
  rw [matches_seq_iff]
  constructor
  · rintro ⟨front, back, hfront, hback, rfl⟩
    obtain rfl := matches_char_iff.mp hfront
    exact ⟨back, hback, rfl⟩
  · rintro ⟨rest, hrest, rfl⟩
    exact ⟨['\''], rest, matches_char_iff.mpr rfl, hrest, rfl⟩

theorem matches_many_one_iff {among : Char → Bool} {text : Text} :
    (many (one among)).Matches text ↔ ∀ c ∈ text, among c = true := by
  induction text with
  | nil => exact iff_of_true .none (by simp)
  | cons c text ih =>
      constructor
      · intro h
        obtain ⟨front, back, hfirst, hrest, rfl⟩ := exists_of_matches_many_cons h
        obtain ⟨d, hd, hfront⟩ := matches_one_iff.mp hfirst
        obtain ⟨rfl, rfl⟩ := List.cons.inj hfront
        simpa [hd] using ih.mp hrest
      · intro h
        exact .more (.one (h c (by simp))) (ih.mpr fun d hd => h d (by simp [hd]))

end Pattern

/-! ### Shapes -/

/-- The kinds of lexemes. -/
inductive Kind where
  | blank
  | quoted
  | unterminated
  | escape
  | char
  deriving DecidableEq, Repr, Inhabited

/-- A piece of a text with its kind. -/
structure Lexeme where
  kind : Kind
  span : Text
  deriving DecidableEq, Repr, Inhabited

/-- The token that a lexeme is. Runs of spaces and newlines are none, and neither is a backslash
without a character behind it. -/
def Lexeme.token? (lexeme : Lexeme) : Option Token :=
  match lexeme.kind with
  | .blank => none
  | .quoted => some (.quoted lexeme.span)
  | .unterminated => some (.quoted lexeme.span)
  | .escape => lexeme.span[1]?.map .escaped
  | .char => if lexeme.span = ['\\'] then none else lexeme.span.head?.map .plain

namespace Kind

/-- All kinds. -/
def all : List Kind := [blank, quoted, unterminated, escape, char]

theorem mem_all (kind : Kind) : kind ∈ all := by
  cases kind <;> decide

open Pattern in
/-- The pattern of a kind. -/
def pattern : Kind → Pattern
  | blank => seq (one isInsignificant) (many (one isInsignificant))
  | quoted => seq (.char '\'') (seq body (.char '\''))
  | unterminated => seq (.char '\'') (seq body (either (.char '\\') .empty))
  | escape => seq (.char '\\') any
  | char => one (!isInsignificant ·)

/-- Of two matches of one length the one with the higher priority counts. None is set for runs of
spaces and newlines, so that of `blank` may be any number `skip`. -/
def priority (skip : Nat) : Kind → Nat
  | blank => skip
  | quoted => 5
  | unterminated => 4
  | escape => 4
  | char => 1

/-- The pieces of a kind, told by tokens. -/
def Fits (kind : Kind) (text : Text) : Prop :=
  match kind with
  | blank => text ≠ [] ∧ Blank text
  | quoted => (Token.quoted text).Closed
  | unterminated => (Token.quoted text).Unterminated
  | escape => ∃ c, text = ['\\', c]
  | char => ∃ c, isInsignificant c = false ∧ text = [c]

open Pattern in
/-- **What the patterns match.** -/
theorem matches_iff_fits (kind : Kind) (text : Text) :
    kind.pattern.Matches text ↔ kind.Fits text := by
  cases kind with
  | blank =>
      show (seq _ _).Matches text ↔ text ≠ [] ∧ Blank text
      rw [matches_seq_iff]
      constructor
      · rintro ⟨front, back, hfront, hback, rfl⟩
        obtain ⟨c, hc, rfl⟩ := matches_one_iff.mp hfront
        have hrun : Blank back := matches_many_one_iff.mp hback
        exact ⟨by simp, blank_append.mpr ⟨by simpa [Blank] using hc, hrun⟩⟩
      · rintro ⟨hne, hblank⟩
        obtain ⟨c, rest, rfl⟩ := List.exists_cons_of_ne_nil hne
        have hrest : Blank rest := fun d hd => hblank d (by simp [hd])
        exact ⟨[c], rest, .one (hblank c (by simp)), matches_many_one_iff.mpr hrest, rfl⟩
  | quoted =>
      show (seq _ _).Matches text ↔ ∃ body, SpanBody body ∧ text = '\'' :: (body ++ ['\''])
      rw [matches_quote_seq_iff]
      constructor
      · rintro ⟨rest, hrest, rfl⟩
        obtain ⟨body, close, hbody, hclose, rfl⟩ := matches_seq_iff.mp hrest
        obtain rfl := matches_char_iff.mp hclose
        exact ⟨body, matches_body_iff.mp hbody, rfl⟩
      · rintro ⟨body, hbody, rfl⟩
        exact ⟨_, .seq (matches_body_iff.mpr hbody) (matches_char_iff.mpr rfl), rfl⟩
  | unterminated =>
      show (seq _ _).Matches text ↔
        ∃ body, SpanBody body ∧ (text = '\'' :: body ∨ text = '\'' :: (body ++ ['\\']))
      rw [matches_quote_seq_iff]
      constructor
      · rintro ⟨rest, hrest, rfl⟩
        obtain ⟨body, close, hbody, hclose, rfl⟩ := matches_seq_iff.mp hrest
        refine ⟨body, matches_body_iff.mp hbody, ?_⟩
        rcases matches_either_iff.mp hclose with hslash | hnil
        · obtain rfl := matches_char_iff.mp hslash
          exact .inr rfl
        · obtain rfl := matches_empty_iff.mp hnil
          exact .inl (by rw [List.append_nil])
      · rintro ⟨body, hbody, rfl | rfl⟩
        · refine ⟨body, ?_, rfl⟩
          have hseq := Matches.seq (matches_body_iff.mpr hbody)
            (Matches.right (p := .char '\\') Matches.empty)
          rwa [List.append_nil] at hseq
        · exact ⟨_, .seq (matches_body_iff.mpr hbody) (.left (matches_char_iff.mpr rfl)), rfl⟩
  | escape => exact matches_pair_iff
  | char =>
      show (one _).Matches text ↔ ∃ c, isInsignificant c = false ∧ text = [c]
      simp [matches_one_iff]

-- an escaped quote closes nothing, and where a quote is closed the open one stops before that
example :
    quoted.pattern.longest? "'a\\'b' c'".toList = some ("'a\\'b'".toList, " c'".toList) ∧
      unterminated.pattern.longest? "'a\\'b' c'".toList = some ("'a\\'b".toList, "' c'".toList) := by
  decide +kernel

/-- What the first character of a piece is. -/
def Begins (kind : Kind) (c : Char) : Prop :=
  match kind with
  | blank => isInsignificant c = true
  | quoted => c = '\''
  | unterminated => c = '\''
  | escape => c = '\\'
  | char => isInsignificant c = false

theorem Fits.exists_cons {kind : Kind} {text : Text} (h : kind.Fits text) :
    ∃ c rest, kind.Begins c ∧ text = c :: rest := by
  cases kind with
  | blank =>
      obtain ⟨c, rest, rfl⟩ := List.exists_cons_of_ne_nil h.1
      exact ⟨c, rest, h.2 c (by simp), rfl⟩
  | quoted =>
      obtain ⟨body, -, rfl⟩ := h
      exact ⟨_, _, rfl, rfl⟩
  | unterminated =>
      obtain ⟨body, -, rfl | rfl⟩ := h <;> exact ⟨_, _, rfl, rfl⟩
  | escape =>
      obtain ⟨c, rfl⟩ := h
      exact ⟨_, _, rfl, rfl⟩
  | char =>
      obtain ⟨c, hc, rfl⟩ := h
      exact ⟨c, [], hc, rfl⟩

theorem Fits.ne_nil {kind : Kind} {text : Text} (h : kind.Fits text) : text ≠ [] := by
  obtain ⟨c, rest, -, rfl⟩ := h.exists_cons
  simp

/-- Every text that is not empty has a front of some kind. -/
theorem exists_fits {text : Text} (h : text ≠ []) :
    ∃ (kind : Kind) (front back : Text), kind.Fits front ∧ text = front ++ back := by
  obtain ⟨c, rest, rfl⟩ := List.exists_cons_of_ne_nil h
  cases hc : isInsignificant c with
  | true => exact ⟨blank, [c], rest, ⟨by simp, by simpa [Blank] using hc⟩, rfl⟩
  | false => exact ⟨char, [c], rest, ⟨c, hc, rfl⟩, rfl⟩

end Kind

/-! ### Closed and open quotes -/

/-- Behind an opening quote the body ends at a quote, or goes on to the end of the text. -/
theorem spanBody_or_open : (text : Text) →
    (∃ body rest, SpanBody body ∧ text = body ++ '\'' :: rest) ∨
      ∃ body, SpanBody body ∧ (text = body ∨ text = body ++ ['\\'])
  | [] => .inr ⟨[], .nil, .inl rfl⟩
  | c :: text => by
      by_cases hs : c = '\\'
      · subst hs
        cases text with
        | nil => exact .inr ⟨[], .nil, .inr rfl⟩
        | cons d text =>
            rcases spanBody_or_open text with ⟨body, rest, hbody, rfl⟩ | ⟨body, hbody, hend⟩
            · exact .inl ⟨'\\' :: d :: body, rest, .pair hbody, rfl⟩
            · exact .inr ⟨'\\' :: d :: body, .pair hbody, by simpa using hend⟩
      by_cases hq : c = '\''
      · subst hq
        exact .inl ⟨[], text, .nil, rfl⟩
      · rcases spanBody_or_open text with ⟨body, rest, hbody, rfl⟩ | ⟨body, hbody, hend⟩
        · exact .inl ⟨c :: body, rest, .char hq hs hbody, rfl⟩
        · exact .inr ⟨c :: body, .char hq hs hbody, by simpa using hend⟩

/-- **A quote is closed somewhere, or it is open up to the end of the text.** -/
theorem closed_or_unterminated (text : Text) :
    (∃ span rest, (Token.quoted span).Closed ∧ '\'' :: text = span ++ rest) ∨
      (Token.quoted ('\'' :: text)).Unterminated := by
  rcases spanBody_or_open text with ⟨body, rest, hbody, rfl⟩ | ⟨body, hbody, hend⟩
  · exact .inl ⟨'\'' :: (body ++ ['\'']), rest, ⟨body, hbody, rfl⟩, by simp⟩
  · exact .inr ⟨body, hbody, by simpa using hend⟩

/-- No body goes beyond a quote that ends one. -/
theorem SpanBody.length_le {body body' rest rest' : Text} (h : SpanBody body)
    (h' : SpanBody body') (heq : body ++ '\'' :: rest = body' ++ rest') :
    body'.length ≤ body.length := by
  induction h' generalizing body with
  | nil => simp
  | @char c body' hq hs _ ih =>
      cases body with
      | nil => exact absurd (List.cons.inj heq).1.symm hq
      | cons d body =>
          obtain ⟨rfl, hrest⟩ := List.cons.inj heq
          have hle := ih ((SpanBody.char_iff hs).mp h).2 hrest
          simpa using hle
  | @pair c body' _ ih =>
      cases h with
      | nil => exact absurd (List.cons.inj heq).1 (by decide)
      | char _ hs _ => exact absurd (List.cons.inj heq).1 hs
      | @pair d body hbody =>
          have hrest : body ++ '\'' :: rest = body' ++ rest' := by
            simpa using (List.cons.inj (List.cons.inj heq).2).2
          have hle := ih hbody hrest
          simpa using hle

/-- **A quote that is closed is longer than any open one at its place.** -/
theorem unterminated_shorter {span rest span' rest' : Text} (h : (Token.quoted span).Closed)
    (h' : (Token.quoted span').Unterminated) (heq : span ++ rest = span' ++ rest') :
    span'.length < span.length := by
  obtain ⟨body, hbody, rfl⟩ := h
  obtain ⟨body', hbody', rfl | rfl⟩ := h'
  · have hall : body ++ '\'' :: rest = body' ++ rest' := by simpa using heq
    have hle := hbody.length_le hbody' hall
    simp only [List.length_cons, List.length_append, List.length_nil]
    omega
  · have hall : body ++ '\'' :: rest = body' ++ ('\\' :: rest') := by simpa using heq
    have hle := hbody.length_le hbody' hall
    have hne : body'.length ≠ body.length := by
      intro hlen
      obtain ⟨-, hcons⟩ := List.append_inj hall hlen.symm
      exact absurd (List.cons.inj hcons).1 (by decide)
    simp only [List.length_cons, List.length_append, List.length_nil]
    omega

theorem Token.Closed.two_le_length {span : Text} (h : (quoted span).Closed) : 2 ≤ span.length := by
  obtain ⟨body, -, rfl⟩ := h
  simp only [List.length_cons, List.length_append, List.length_nil]
  omega

namespace Kind

/-- A single character is of another kind only when it is a quote. -/
theorem eq_quote_of_fits_singleton {kind : Kind} {c : Char} (h : kind.Fits [c])
    (hne : kind ≠ char) (hc : isInsignificant c = false) : c = '\'' := by
  cases kind with
  | blank =>
      have hblank : isInsignificant c = true := h.2 c (by simp)
      exact absurd hblank (by simp [hc])
  | quoted => exact absurd (Token.Closed.two_le_length h) (by simp)
  | unterminated =>
      obtain ⟨d, rest, rfl, hcons⟩ := h.exists_cons
      exact (List.cons.inj hcons).1
  | escape =>
      obtain ⟨d, hd⟩ := h
      simp at hd
  | char => exact absurd rfl hne

/-- **Only a lone quote is of two kinds.** -/
theorem eq_quote_of_fits {kind other : Kind} {text : Text} (h : kind.Fits text)
    (ho : other.Fits text) (hne : kind ≠ other) : text = ['\''] := by
  by_cases hchar : kind = char
  · subst hchar
    obtain ⟨c, hc, rfl⟩ := h
    rw [eq_quote_of_fits_singleton ho hne.symm hc]
  by_cases hchar' : other = char
  · subst hchar'
    obtain ⟨c, hc, rfl⟩ := ho
    rw [eq_quote_of_fits_singleton h hne hc]
  -- the first character tells the others apart, closed and open quotes excepted
  obtain ⟨c, rest, hbegin, rfl⟩ := h.exists_cons
  obtain ⟨d, rest', hbegin', hcons⟩ := ho.exists_cons
  obtain ⟨rfl, rfl⟩ := List.cons.inj hcons
  have hquotes : kind = quoted ∧ other = unterminated ∨ kind = unterminated ∧ other = quoted := by
    cases kind <;> cases other <;> simp_all [Begins, isInsignificant]
  rcases hquotes with ⟨rfl, rfl⟩ | ⟨rfl, rfl⟩
  · have hclosed : (Token.quoted (c :: rest)).Closed := h
    exact absurd ho hclosed.not_unterminated
  · have hclosed : (Token.quoted (c :: rest)).Closed := ho
    exact absurd h hclosed.not_unterminated

end Kind

end PadGraph
