import PadGraph.Proofs.Graph.Parse
import PadGraph.Proofs.Token.Restart

/-!
# Spaces and newlines between two texts

Whether spaces and newlines mean anything is decided by the text before them alone. Behind a
complete text they mean nothing. Behind a quote that is open they belong to it, all of them, and
behind a backslash with nothing to escape the first of them is what it escapes.

* `Mode.Within`, `EndsQuote`, `Scan.step_within`, `Scan.finish_foldl_within` — a scan inside a quote
  reads on until the quote is closed or the text ends.
* `tokenize_append_of_unterminated`, `tokenize_append_of_dangling` — what follows a text that leaves
  something open.
* **`tokenize_blank_between`** — the tokens of two texts with spaces and newlines between them, and
  what is read of them.
-/

namespace PadGraph

/-! ### Inside a quote -/

/-- A scan stands inside a quote of which `opened` has been read. -/
def Mode.Within (opened : Text) (mode : Mode) : Prop :=
  mode = .quote opened.reverse ∨ mode = .quoteEscape opened.reverse

/-- Of a text behind an open quote, `inside` goes to the end of the quote: to the character that
closes it, or to the end of the text. -/
def EndsQuote (inside behind : Text) : Prop := behind = [] ∨ ∃ body, inside = body ++ ['\'']

namespace Scan

variable {mode : Mode} {opened : Text}

/-- Inside a quote every character belongs to the span, also the one that closes it. -/
theorem step_within (h : mode.Within opened) (c : Char) :
    (c = '\'' ∧ step ⟨[], mode⟩ c = ⟨[.quoted (opened ++ [c])], .outside⟩) ∨
      ∃ mode', mode'.Within (opened ++ [c]) ∧ step ⟨[], mode⟩ c = ⟨[], mode'⟩ := by
  have hspan : (opened ++ [c]).reverse = c :: opened.reverse := by
    simp
  rcases h with rfl | rfl
  · by_cases hq : c = '\''
    · subst hq
      exact .inl ⟨rfl, by simp [step]⟩
    by_cases hs : c = '\\'
    · subst hs
      exact .inr ⟨.quoteEscape ('\\' :: opened.reverse), .inr (by rw [hspan]), rfl⟩
    · refine .inr ⟨.quote (c :: opened.reverse), .inl (by rw [hspan]), ?_⟩
      simp [step, hq, hs]
  · exact .inr ⟨.quote (c :: opened.reverse), .inl (by rw [hspan]), rfl⟩

/-- Spaces and newlines inside a quote leave it open and belong to it. -/
theorem foldl_step_blank_within (h : mode.Within opened) {run : Text} (hrun : Blank run) :
    ∃ mode', mode'.Within (opened ++ run) ∧ run.foldl step ⟨[], mode⟩ = ⟨[], mode'⟩ := by
  induction run generalizing mode opened with
  | nil => exact ⟨mode, by rwa [List.append_nil], rfl⟩
  | cons c run ih =>
      have hc : isInsignificant c = true := hrun c (by simp)
      have hquote : c ≠ '\'' := by
        rintro rfl
        cases hc
      obtain ⟨mode', hmode', hstep⟩ := (step_within h c).resolve_left fun hclose =>
        hquote hclose.1
      obtain ⟨last, hlast, hfold⟩ := ih hmode' fun d hd => hrun d (by simp [hd])
      refine ⟨last, by simpa using hlast, ?_⟩
      rw [List.foldl_cons, hstep, hfold]

/-- A scan that begins inside a quote finds the quote first, with the front of the text in it up to
the character that closes it, and then the tokens of the rest. -/
theorem finish_foldl_within (h : mode.Within opened) (text : Text) :
    ∃ inside behind, text = inside ++ behind ∧ EndsQuote inside behind ∧
      (text.foldl step ⟨[], mode⟩).finish = .quoted (opened ++ inside) :: tokenize behind := by
  induction text generalizing mode opened with
  | nil =>
      refine ⟨[], [], rfl, .inl rfl, ?_⟩
      rcases h with rfl | rfl <;> simp [finish]
  | cons c text ih =>
      rcases step_within h c with ⟨rfl, hclose⟩ | ⟨mode', hmode', hstep⟩
      · refine ⟨['\''], text, rfl, .inr ⟨[], rfl⟩, ?_⟩
        rw [List.foldl_cons, hclose, foldl_step_found, finish_found, List.reverse_append,
          List.append_assoc, ← finish_found]
        rfl
      · obtain ⟨inside, behind, rfl, hends, hfinish⟩ := ih hmode'
        refine ⟨c :: inside, behind, rfl, ?_, ?_⟩
        · refine hends.imp_right ?_
          rintro ⟨body, rfl⟩
          exact ⟨c :: body, rfl⟩
        · rw [List.foldl_cons, hstep, hfinish]
          simp

end Scan

/-- Behind a text with an open quote the scan stands inside it, and it is the last token. -/
theorem exists_within_of_unterminated {text : Text} (h : ∃ t ∈ tokenize text, t.Unterminated) :
    ∃ opened, (scan text).mode.Within opened ∧
      tokenize text = (scan text).found.reverse ++ [.quoted opened] := by
  have hopen : (scan text).mode.openItems ≠ [] := mem_unterminated_iff.mp h
  rw [tokenize, Scan.finish_eq]
  cases hmode : (scan text).mode with
  | outside => simp [hmode, Mode.openItems] at hopen
  | escape => simp [hmode, Mode.openItems] at hopen
  | quote span => exact ⟨span.reverse, .inl (by simp), rfl⟩
  | quoteEscape span => exact ⟨span.reverse, .inr (by simp), rfl⟩

/-! ### Behind a text that leaves something open -/

section Between

variable {front run : Text}

/-- Behind an open quote spaces and newlines belong to it, and so does what follows them until the
quote is closed. -/
theorem tokenize_append_of_unterminated (h : ∃ t ∈ tokenize front, t.Unterminated)
    (hrun : Blank run) (back : Text) :
    ∃ before opened inside behind, tokenize front = before ++ [.quoted opened] ∧
      back = inside ++ behind ∧ EndsQuote inside behind ∧
      tokenize (front ++ run ++ back) =
        before ++ .quoted (opened ++ run ++ inside) :: tokenize behind := by
  obtain ⟨opened, hwithin, htokens⟩ := exists_within_of_unterminated h
  obtain ⟨mode, hmode, hfold⟩ := Scan.foldl_step_blank_within hwithin hrun
  obtain ⟨inside, behind, hback, hends, hfinish⟩ := Scan.finish_foldl_within hmode back
  refine ⟨(scan front).found.reverse, opened, inside, behind, htokens, hback, hends, ?_⟩
  rw [List.append_assoc, tokenize_append, List.foldl_append, hfold, hfinish]

/-- A backslash with nothing to escape escapes what comes next, be it a space or a newline. -/
theorem tokenize_append_of_dangling (h : Dangling front) {c : Char} (hrun : Blank run)
    (back : Text) :
    tokenize (front ++ c :: run ++ back) = tokenize front ++ .escaped c :: tokenize back := by
  have hmode : (scan front).mode = .escape := dangling_iff.mp h
  have hfront : tokenize front = (scan front).found.reverse := by
    rw [tokenize, Scan.finish, hmode]
  have hnext : scan (front ++ [c]) = ⟨.escaped c :: (scan front).found, .outside⟩ := by
    rw [scan_concat, Scan.step, hmode]
  have houtside : (scan (front ++ [c])).mode = .outside := by
    rw [hnext]
  have hescaped : tokenize (front ++ [c]) = tokenize front ++ [.escaped c] := by
    rw [tokenize, hnext, hfront]
    simp [Scan.finish]
  calc tokenize (front ++ c :: run ++ back)
      = tokenize ((front ++ [c]) ++ (run ++ back)) := by simp
    _ = tokenize (front ++ [c]) ++ tokenize (run ++ back) :=
        tokenize_append_of_outside houtside _
    _ = tokenize front ++ .escaped c :: tokenize back := by
        rw [hescaped, tokenize_blank_append hrun]
        simp

end Between

/-! ### Texts -/

/-- **Spaces and newlines between two texts.** When the first text is complete they mean nothing:
the tokens are those of the one text and then those of the other, and the same graph is read as
without them, or the same error found. When a quote of the first text is open, all of them belong to
it. When the first text ends in a backslash with nothing to escape, the first of them is an escaped
character, and only the others mean nothing. -/
theorem tokenize_blank_between (front run back : Text) (hrun : Blank run) :
    (Complete front →
      tokenize (front ++ run ++ back) = tokenize front ++ tokenize back ∧
      parse (front ++ run ++ back) = parse (front ++ back)) ∧
    ((∃ t ∈ tokenize front, t.Unterminated) →
      ∃ before opened inside behind, tokenize front = before ++ [.quoted opened] ∧
        back = inside ++ behind ∧ EndsQuote inside behind ∧
        tokenize (front ++ run ++ back) =
          before ++ .quoted (opened ++ run ++ inside) :: tokenize behind) ∧
    (Dangling front → ∀ c rest, run = c :: rest →
      tokenize (front ++ run ++ back) = tokenize front ++ .escaped c :: tokenize back) := by
  refine ⟨?_, ?_, ?_⟩
  · intro hcomplete
    have htokens : tokenize (front ++ run ++ back) = tokenize front ++ tokenize back := by
      rw [List.append_assoc, hcomplete.tokenize_append, tokenize_blank_append hrun]
    refine ⟨htokens, ?_⟩
    rw [parse_eq_readTokens, parse_eq_readTokens, htokens, hcomplete.tokenize_append]
  · intro hopen
    exact tokenize_append_of_unterminated hopen hrun back
  · rintro hdangling c rest rfl
    exact tokenize_append_of_dangling hdangling (fun d hd => hrun d (by simp [hd])) back

/-- Spaces and newlines behind a name, inside a quote that ends in a backslash, and behind a
backslash. -/
theorem tokenize_blank_between_open :
    Blank [' ', '\n'] ∧
    parse ("a\\ ".toList ++ [' ', '\n'] ++ ";]".toList) = parse ("a\\ ".toList ++ ";]".toList) ∧
    (∃ before opened inside behind,
      tokenize "x'y\\".toList = before ++ [.quoted opened] ∧ "'z',".toList = inside ++ behind ∧
      EndsQuote inside behind ∧
      tokenize ("x'y\\".toList ++ [' ', '\n'] ++ "'z',".toList) =
        before ++ .quoted (opened ++ [' ', '\n'] ++ inside) :: tokenize behind) ∧
    tokenize ("a\\".toList ++ [' ', '\n'] ++ ['b']) =
      tokenize "a\\".toList ++ .escaped ' ' :: tokenize ['b'] := by
  have hrun : Blank [' ', '\n'] := by
    simp [Blank, isInsignificant]
  have hcomplete : Complete "a\\ ".toList := by decide +kernel
  have hopen : ∃ t ∈ tokenize "x'y\\".toList, t.Unterminated :=
    ⟨.quoted "'y\\".toList, by decide, ['y'], .char (by decide) (by decide) .nil, .inr rfl⟩
  have hdangling : Dangling "a\\".toList := ⟨['a'], by decide +kernel, by decide +kernel⟩
  refine ⟨hrun, ?_, ?_, ?_⟩
  · exact ((tokenize_blank_between _ _ ";]".toList hrun).1 hcomplete).2
  · exact (tokenize_blank_between _ _ "'z',".toList hrun).2.1 hopen
  · exact (tokenize_blank_between _ _ ['b'] hrun).2.2 hdangling ' ' ['\n'] rfl

end PadGraph
