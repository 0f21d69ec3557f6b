import PadGraph.Proofs.Expression.Read
import PadGraph.Proofs.Graph.RoundTrip
import PadGraph.Proofs.Token.Layout

/-!
# Writing what was read

What is written of a graph that was read stands in the text it was read from, in the same order: each
bracket, mark and separator of it has been one of the text. So writing a graph again only ever drops
characters, and a text that keeps to a limit still does when it is written anew.

* `render_tokenize_sublist` — what is written of the tokens of a text stands in the text.
* `Graph.render_sublist` — so does what is written of the graph.
* **`render_trimmed`** — the characters of a graph that was read, their bytes, and the limits they
  keep to.
-/

namespace PadGraph

theorem render_tokenize_sublist (text : Text) : (render (tokenize text)).Sublist text := by
  obtain ⟨layout, htokens, htext⟩ := exists_layout text
  rw [← htokens, ← htext]
  exact layout.render_sublist_text

/-- Dropping tokens drops characters. -/
theorem render_sublist {kept tokens : List Token} (h : kept.Sublist tokens) :
    (render kept).Sublist (render tokens) :=
  h.flatMap Token.text

/-- What is written of a graph stands in the text from which it was read. -/
theorem Graph.render_sublist {text : Text} {graph : Graph} (h : parse text = .ok graph) :
    graph.render.Sublist text := by
  obtain ⟨hnodes, htokens⟩ := Graph.of_parse h
  rw [← Graph.render_tokens hnodes]
  exact (PadGraph.render_sublist htokens).trans (render_tokenize_sublist text)

/-- **Writing what was read only drops characters.** So it takes no more bytes, and it keeps to every
limit under which the text is read. -/
theorem render_trimmed {text : Text} {graph : Graph} (h : parse text = .ok graph) :
    graph.render.Sublist text ∧
    (Utf8.encode graph.render).length ≤ (Utf8.encode text).length ∧
    ∀ limits read, parseExpression limits text = .ok read →
      checkLength limits graph.render = .ok () := by
  have hsublist : graph.render.Sublist text := Graph.render_sublist h
  have hlength := Utf8.byteLength_le_of_sublist hsublist
  refine ⟨hsublist, ?_, ?_⟩
  · rw [Utf8.length_encode, Utf8.length_encode]
    exact hlength
  · intro limits read hread
    apply checkLength_of_le
    have hread := byteLength_le_of_parseExpression hread
    omega

/-- The mark of a node without name, the comma of a branch without nodes and a value that is replaced,
with a limit that the text just keeps to. -/
theorem render_trimmed_marks :
    ∃ graph : Graph, parse "[in] = =:[out];, ,;é=k=a=\n=b\\".toList = .ok graph ∧
      graph.render = "[in]=[out];,;é=k=b".toList ∧
      "[in]=[out];,;é=k=b".toList.Sublist "[in] = =:[out];, ,;é=k=a=\n=b\\".toList ∧
      checkLength ⟨30⟩ "[in]=[out];,;é=k=b".toList = .ok () := by
  obtain ⟨graph, h, hread, hrender⟩ : ∃ graph : Graph,
      parse "[in] = =:[out];, ,;é=k=a=\n=b\\".toList = .ok graph ∧
      parseExpression ⟨30⟩ "[in] = =:[out];, ,;é=k=a=\n=b\\".toList = .ok graph ∧
      graph.render = "[in]=[out];,;é=k=b".toList := by
    refine ⟨[[⟨["in".toList], [], [], ["out".toList]⟩], [],
      [⟨[], "é".toList, [⟨"k".toList, some "b".toList⟩], []⟩]], ?_, ?_, ?_⟩
    · decide +kernel
    · decide +kernel
    · decide +kernel
  obtain ⟨hsublist, -, hlength⟩ := render_trimmed h
  have hfits := hlength ⟨30⟩ graph hread
  rw [hrender] at hsublist hfits
  exact ⟨graph, h, hrender, hsublist, hfits⟩

end PadGraph
