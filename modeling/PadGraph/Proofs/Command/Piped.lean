import PadGraph.Proofs.Command.Agreement
import PadGraph.Proofs.Graph.Trimmed
import PadGraph.Proofs.Token.Restart

/-!
# Formatting what has been formatted

What the formatter prints of an expression is the canonical form and a newline. Given back to it on the
standard input, it is printed once more as it is, in all cases but two: the newline is one byte more
than the limit allows, or it falls into a quote that is open, where it counts.

* `not_dangling_of_verbatim`, `complete_iff_of_verbatim` — a text that its tokens write ends in no
  backslash without use, and is complete when it does not end in an open quote.
* `parse_newline_of_complete`, `parse_newline_of_open` — a newline behind a canonical form.
* `run_format_prints_iff` — when the formatter prints a given text.
* **`format_piped_iff`** — when it prints what it has printed.
-/

namespace PadGraph

/-! ### Where a written graph ends -/

/-- A backslash without use is not written again. -/
theorem not_dangling_of_verbatim {text : Text} (h : text.Verbatim) : ¬ Dangling text := by
  rintro ⟨front, rfl, htokens⟩
  have hlength := (render_tokenize_sublist front).length_le
  rw [← htokens, h, List.length_append, List.length_singleton] at hlength
  omega

/-- Only the last token of a text can be an open quote. -/
theorem quotes_closed_iff {text : Text} :
    (∀ t ∈ tokenize text, ¬ t.Unterminated) ↔
      ∀ t ∈ (tokenize text).getLast?, ¬ t.Unterminated := by
  constructor
  · intro h t ht
    exact h t (List.mem_of_getLast? ht)
  · intro h t ht
    have hwell := wellFormed_tokenize text
    rcases List.eq_nil_or_concat' (tokenize text) with hnil | ⟨front, last, heq⟩
    · simp [hnil] at ht
    · rw [heq] at h ht hwell
      rcases List.mem_append.mp ht with hf | hl
      · exact (hwell.init_closed t (by simpa using hf)).not_unterminated
      · exact h t (by simpa [eq_comm] using hl)

theorem complete_iff_of_verbatim {text : Text} (h : text.Verbatim) :
    Complete text ↔ ∀ t ∈ (tokenize text).getLast?, ¬ t.Unterminated := by
  rw [← quotes_closed_iff]
  exact ⟨fun hc => hc.quotes_closed, fun hq => ⟨hq, not_dangling_of_verbatim h⟩⟩

/-- The tokens of a canonical form are those of the graph. -/
theorem Graph.Canonical.tokenize_render {graph : Graph} (h : graph.Canonical) :
    tokenize graph.render = graph.tokens := by
  rw [← Graph.render_tokens h.nodes]
  exact PadGraph.tokenize_render ((Graph.wellFormed_tokens_iff h.nodes).mpr h.closed)

theorem Graph.Canonical.verbatim_render {graph : Graph} (h : graph.Canonical) :
    graph.render.Verbatim := by
  rw [Text.Verbatim, h.tokenize_render, Graph.render_tokens h.nodes]

/-! ### A newline behind it -/

theorem Complete.tokenize_newline {text : Text} (h : Complete text) :
    tokenize (text ++ ['\n']) = tokenize text := by
  rw [h.tokenize_append]
  exact List.append_nil _

/-- Inside an open quote a newline adds to the span. -/
theorem tokenize_newline_of_open {text : Text} (h : (scan text).mode.openItems ≠ []) :
    (tokenize (text ++ ['\n'])).length = (tokenize text).length ∧
      tokenize (text ++ ['\n']) ≠ tokenize text := by
  rw [tokenize, tokenize, scan_concat]
  generalize scan text = s at h
  obtain ⟨found, mode⟩ := s
  cases mode with
  | outside => exact absurd rfl h
  | escape => exact absurd rfl h
  | quote span => simp [Scan.step, Scan.finish]
  | quoteEscape span => simp [Scan.step, Scan.finish]

/-- A canonical form without an open quote is read the same with a newline behind it. -/
theorem parse_newline_of_complete {graph : Graph} (h : graph.Canonical)
    (hc : Complete graph.render) : parse (graph.render ++ ['\n']) = .ok graph := by
  rw [parse_eq, hc.tokenize_newline, ← parse_eq]
  exact h.parse_render

/-- With an open quote at its end, it is not what is written of the graph that is read then. -/
theorem parse_newline_of_open {graph read : Graph} (h : graph.Canonical)
    (hc : ¬ Complete graph.render) (hr : parse (graph.render ++ ['\n']) = .ok read) :
    read.render ≠ graph.render := by
  intro heq
  have hopen : (scan graph.render).mode.openItems ≠ [] := by
    rw [complete_iff_of_verbatim h.verbatim_render, ← quotes_closed_iff] at hc
    apply mem_unterminated_iff.mp
    simpa using hc
  obtain ⟨hlength, hne⟩ := tokenize_newline_of_open hopen
  -- what is read is written with some of the tokens, so with all of them
  have hsublist : (tokenize graph.render).Sublist (tokenize (graph.render ++ ['\n'])) := by
    rw [← heq, (Graph.canonical_of_parse hr).tokenize_render, heq]
    exact (Graph.of_parse hr).2
  exact hne (hsublist.eq_of_length hlength.symm).symm

/-! ### The formatter -/

section Formatter

variable {world : World} {config : Option Text} {source : Source} {verbose : Bool} {text : Text}

theorem run_format_prints_iff :
    ((Invocation.mk config verbose (.format source)).run world).Prints (text ++ ['\n']) ↔
      ∃ settings graph, readGraph world config source = .ok (settings, graph) ∧
        graph.render = text := by
  rw [Outcome.prints_iff]
  constructor
  · intro h
    cases hread : readGraph world config source with
    | error failure =>
        rw [run_of_readGraph_error hread verbose rfl] at h
        cases (Outcome.mk.inj h).2
    | ok found =>
        obtain ⟨settings, graph⟩ := found
        rw [run_format hread] at h
        exact ⟨settings, graph, rfl, List.append_cancel_right (Outcome.mk.inj h).1⟩
  · rintro ⟨settings, graph, hread, rfl⟩
    exact run_format hread verbose

/-- The graph of an expression that is given in place has been read of a text within the limit. -/
theorem parse_of_expressionGraph {files : FileSystem} {stdin : List UInt8} {limits : Limits}
    {graph : Graph} (hne : text ≠ ['-'])
    (h : expressionGraph files stdin limits ⟨some text, none⟩ = .ok graph) :
    Utf8.byteLength text ≤ limits.allowed ∧ parse text = .ok graph := by
  have htext : readExpression files stdin limits ⟨some text, none⟩ = .ok text := if_neg hne
  obtain ⟨read, hread, hgraph⟩ := exists_of_bind_eq_ok h
  obtain rfl : text = read := Except.ok.inj (htext.symm.trans hread)
  exact parseExpression_eq_ok_iff.mp hgraph

end Formatter

theorem byteLength_newline (text : Text) :
    Utf8.byteLength (text ++ ['\n']) = Utf8.byteLength text + 1 := by
  simp [Utf8.byteLength, Char.utf8Size]

/-- **The formatter on what it has printed.** Let it print the form `form` of an expression that is
given in place. Under the same configuration, and given on the standard input what was printed, it
prints the same if and only if the form and the newline keep to the limit and the form does not end
in an open quote. -/
theorem format_piped_iff {world piped : World} {config config' : Option Text}
    {verbose verbose' : Bool} {expression form : Text} (hexpression : expression ≠ ['-'])
    (hsame : findConfig piped.files piped.home config' = findConfig world.files world.home config)
    (hstdin : piped.stdin = Utf8.encode (form ++ ['\n']))
    (h : ((Invocation.mk config verbose (.format ⟨some expression, none⟩)).run world).Prints
      (form ++ ['\n'])) :
    ∃ settings, findConfig world.files world.home config = .ok settings ∧
      (((Invocation.mk config' verbose' (.format ⟨some ['-'], none⟩)).run piped).Prints
          (form ++ ['\n']) ↔
        Utf8.byteLength form + 1 ≤ settings.parser.allowed ∧
          ∀ t ∈ (tokenize form).getLast?, ¬ t.Unterminated) := by
  obtain ⟨settings, graph, hread, rfl⟩ := run_format_prints_iff.mp h
  obtain ⟨hfound, hgraph⟩ := readGraph_eq_ok_iff.mp hread
  obtain ⟨hle, hparse⟩ := parse_of_expressionGraph hexpression hgraph
  have hcanonical := Graph.canonical_of_parse hparse
  have hshorter := Utf8.byteLength_le_of_sublist (Graph.render_sublist hparse)
  have hlength := byteLength_newline graph.render
  have hbound := (Config.bounded_of_findConfig hfound).allowed_lt
  -- the form has no more bytes than the expression, and with the newline still not too many to count
  have hcounted : Utf8.byteLength (graph.render ++ ['\n']) < UInt64.size := by
    have hsize : 2 ^ 63 < UInt64.size := by decide
    omega
  have hpiped : ∀ read, expressionGraph piped.files piped.stdin settings.parser ⟨some ['-'], none⟩ =
      .ok read ↔ Utf8.byteLength graph.render + 1 ≤ settings.parser.allowed ∧
        parse (graph.render ++ ['\n']) = .ok read := by
    intro read
    rw [← hlength]
    exact (Delivers.onStandardInput hstdin).expressionGraph_eq_ok_iff hcounted
  refine ⟨settings, hfound, ?_⟩
  rw [run_format_prints_iff, ← complete_iff_of_verbatim hcanonical.verbatim_render]
  constructor
  · rintro ⟨settings', read, hagain, hrender⟩
    obtain ⟨hfound', hread'⟩ := readGraph_eq_ok_iff.mp hagain
    rw [hsame, hfound] at hfound'
    obtain rfl := Except.ok.inj hfound'
    obtain ⟨hfits, hnewline⟩ := (hpiped read).mp hread'
    refine ⟨hfits, ?_⟩
    by_contra hopen
    exact parse_newline_of_open hcanonical hopen hnewline hrender
  · rintro ⟨hfits, hcomplete⟩
    have hnewline := parse_newline_of_complete hcanonical hcomplete
    refine ⟨settings, graph, readGraph_eq_ok_iff.mpr ⟨hsame.trans hfound, ?_⟩, rfl⟩
    exact (hpiped graph).mpr ⟨hfits, hnewline⟩

/-- A form without quotes is printed again, and one that ends within a quote is not. -/
theorem format_piped_iff_open :
    let world : World := ⟨fun _ => .missing, [], none⟩
    let piped (form : Text) : World := { world with stdin := Utf8.encode (form ++ ['\n']) }
    let format (expression : Text) : Invocation := { command := .format ⟨some expression, none⟩ }
    (((format "a , b".toList).run world).Prints (['a', ',', 'b'] ++ ['\n']) ∧
      ((format ['-']).run (piped ['a', ',', 'b'])).Prints (['a', ',', 'b'] ++ ['\n'])) ∧
    ((format "a = 'b".toList).run world).Prints (['a', '=', '\'', 'b'] ++ ['\n']) ∧
      ¬ ((format ['-']).run (piped ['a', '=', '\'', 'b'])).Prints
        (['a', '=', '\'', 'b'] ++ ['\n']) := by
  intro world piped format
  have hdefault : findConfig world.files world.home none = .ok {} := by decide +kernel
  have hagain : ∀ expression form : Text, expression ≠ ['-'] →
      ((format expression).run world).Prints (form ++ ['\n']) →
      (((format ['-']).run (piped form)).Prints (form ++ ['\n']) ↔
        Utf8.byteLength form + 1 ≤ ({} : Config).parser.allowed ∧
          ∀ t ∈ (tokenize form).getLast?, ¬ t.Unterminated) := by
    intro expression form hne hprints
    have hsame : findConfig (piped form).files (piped form).home none =
        findConfig world.files world.home none := rfl
    obtain ⟨settings, hfound, hiff⟩ := format_piped_iff hne hsame rfl hprints
    obtain rfl := Except.ok.inj (hdefault.symm.trans hfound)
    exact hiff
  have hclosed : ((format "a , b".toList).run world).Prints (['a', ',', 'b'] ++ ['\n']) := by
    rw [Outcome.prints_iff]
    decide +kernel
  have hopen : ((format "a = 'b".toList).run world).Prints
      (['a', '=', '\'', 'b'] ++ ['\n']) := by
    rw [Outcome.prints_iff]
    decide +kernel
  refine ⟨⟨hclosed, ?_⟩, hopen, ?_⟩
  · refine (hagain _ _ (by decide) hclosed).mpr ⟨by decide, fun t ht => ?_⟩
    obtain rfl : Token.plain 'b' = t := Option.some.inj ht
    exact id
  · intro hprints
    have hquote : (Token.quoted ['\'', 'b']).Unterminated :=
      ⟨['b'], .char (by decide) (by decide) .nil, .inl rfl⟩
    exact ((hagain _ _ (by decide) hopen).mp hprints).2 _ rfl hquote

end PadGraph
