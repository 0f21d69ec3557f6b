import PadGraph.Proofs.Expression.Read

/-!
# Three ways to give an expression

An expression is given in place, in a file or on the standard input. A file and the standard input are
read as bytes within a limit, and the text is measured again before it is read as a graph. Whichever
way a text is given, the same comes of it.

* `Delivers` — the ways in which a text may be given.
* `measuredExpression`, `expressionGraph` — the text of an expression once it has been measured, and
  its graph.
* `Source.refusal` — how a text that is too long is refused.
* `Delivers.expressionGraph_of_le`, `Delivers.measuredExpression_of_lt` — what comes of a text that
  keeps to the limit, and of one that does not.
* `checkLength_of_readExpression` — bytes that were read within the limit give a text within it.
* **`routes_agree`** — all of this for every text and all ways to give it.
-/

namespace PadGraph

/-- The ways in which a text may be given: in place, unless it stands for the standard input there; in
a file, whatever is given in place besides; and on the standard input. -/
inductive Delivers (text : Text) (files : FileSystem) (stdin : List UInt8) : Source → Prop where
  | inPlace (h : text ≠ ['-']) : Delivers text files stdin ⟨some text, none⟩
  | inFile (inline : Option Text) (path : Text) (h : files path = .file (Utf8.encode text)) :
    Delivers text files stdin ⟨inline, some path⟩
  | onStandardInput (h : stdin = Utf8.encode text) : Delivers text files stdin ⟨some ['-'], none⟩

/-- Whether an expression comes as bytes: from a file or from the standard input. -/
def Source.comesAsBytes (source : Source) : Prop :=
  source.file.isSome ∨ source.inline = some ['-']

/-- The text of an expression, once it has been measured. -/
def measuredExpression (files : FileSystem) (stdin : List UInt8) (limits : Limits)
    (source : Source) : Except Failure Text := do
  let text ← readExpression files stdin limits source
  checkLength limits text
  return text

/-- The graph of an expression, wherever that comes from. -/
def expressionGraph (files : FileSystem) (stdin : List UInt8) (limits : Limits)
    (source : Source) : Except Failure Graph := do
  let text ← readExpression files stdin limits source
  parseExpression limits text

/-- How a text that is too long is refused: bytes are not counted to their end. -/
def Source.refusal (source : Source) (limits : Limits) (text : Text) : Failure :=
  match source.file with
  | some path => ⟨.expressionFile path, [.overLimit limits]⟩
  | none =>
    if source.inline = some ['-'] then ⟨.standardInput, [.overLimit limits]⟩
    else ⟨.tooLong (Utf8.byteLength text) limits, []⟩

section Routes

variable {files : FileSystem} {stdin : List UInt8} {limits : Limits} {source : Source}
  {text : Text}

/-- A graph is read only of a text that has been measured. -/
theorem expressionGraph_eq :
    expressionGraph files stdin limits source =
      (measuredExpression files stdin limits source).bind fun text =>
        (parse text).mapError fun error => ⟨.invalidGraph, [.chain error]⟩ := by
  rw [expressionGraph, measuredExpression]
  cases readExpression files stdin limits source with
  | error failure => rfl
  | ok text =>
      show parseExpression limits text =
        ((checkLength limits text).bind fun _ => .ok text).bind _
      by_cases hle : Utf8.byteLength text ≤ limits.allowed
      · rw [parseExpression_of_le hle, checkLength_of_le hle]
        rfl
      · have hlt := Nat.lt_of_not_le hle
        rw [parseExpression_of_lt hlt, checkLength_of_lt hlt]
        rfl

/-- A text that keeps to the limit is given in full. -/
theorem Delivers.readExpression_of_le (h : Delivers text files stdin source)
    (hle : Utf8.byteLength text ≤ limits.allowed) :
    readExpression files stdin limits source = .ok text := by
  have hread : (readLimited limits (Utf8.encode text)).outcome = .ok text := by
    rw [readLimited_of_le (by rw [Utf8.length_encode]; exact hle), Utf8.decode_eq_ok_iff.mpr rfl]
    rfl
  cases h with
  | inPlace hne => exact if_neg hne
  | inFile inline path hfile =>
      simp only [readExpression, hfile, Entry.bytes, hread]
      rfl
  | onStandardInput hstdin =>
      simp only [readExpression, hstdin, hread, if_pos]
      rfl

theorem Delivers.measuredExpression_of_le (h : Delivers text files stdin source)
    (hle : Utf8.byteLength text ≤ limits.allowed) :
    measuredExpression files stdin limits source = .ok text := by
  rw [measuredExpression, h.readExpression_of_le hle]
  show ((checkLength limits text).bind fun _ => .ok text) = .ok text
  rw [checkLength_of_le hle]
  rfl

/-- A text that is too long is refused before it is read as a graph. -/
theorem Delivers.measuredExpression_of_lt (h : Delivers text files stdin source)
    (hlength : Utf8.byteLength text < UInt64.size) (hlt : limits.allowed < Utf8.byteLength text) :
    measuredExpression files stdin limits source = .error (source.refusal limits text) := by
  have hread : (readLimited limits (Utf8.encode text)).outcome = .error ⟨.overLimit limits, []⟩ := by
    rw [← Utf8.length_encode] at hlength hlt
    exact readLimited_of_lt hlt hlength
  cases h with
  | inPlace hne =>
      have hinline : ¬ some text = some ['-'] := fun h => hne (Option.some.inj h)
      simp only [measuredExpression, readExpression, if_neg hne, Source.refusal, if_neg hinline]
      show ((checkLength limits text).bind fun _ => .ok text) = _
      rw [checkLength_of_lt hlt]
      rfl
  | inFile inline path hfile =>
      simp only [measuredExpression, readExpression, hfile, Entry.bytes, hread]
      rfl
  | onStandardInput hstdin =>
      simp only [measuredExpression, readExpression, hstdin, hread, if_pos]
      rfl

theorem eq_ok_of_during {outcome : Except Failure Text} {outer : Cause}
    (h : outcome.mapError (·.during outer) = .ok text) : outcome = .ok text := by
  cases outcome with
  | error failure => cases h
  | ok read => exact h

/-- A text that was read of bytes is never refused when it is measured. -/
theorem checkLength_of_readExpression (hsource : source.comesAsBytes)
    (h : readExpression files stdin limits source = .ok text) :
    checkLength limits text = .ok () := by
  apply checkLength_of_le
  obtain ⟨inline, file⟩ := source
  cases file with
  | some path =>
      simp only [readExpression] at h
      split at h
      · exact byteLength_le_of_readLimited (eq_ok_of_during h)
      · cases h
  | none =>
      have hinline : inline = some ['-'] := hsource.resolve_left (by simp)
      subst hinline
      simp only [readExpression, if_pos] at h
      exact byteLength_le_of_readLimited (eq_ok_of_during h)

/-- What comes of a text that keeps to the limit is what comes of the text alone. -/
theorem Delivers.expressionGraph_of_le (h : Delivers text files stdin source)
    (hle : Utf8.byteLength text ≤ limits.allowed) :
    expressionGraph files stdin limits source =
      (parse text).mapError fun error => ⟨.invalidGraph, [.chain error]⟩ := by
  rw [expressionGraph_eq, h.measuredExpression_of_le hle]
  rfl

theorem Delivers.expressionGraph_of_lt (h : Delivers text files stdin source)
    (hlength : Utf8.byteLength text < UInt64.size) (hlt : limits.allowed < Utf8.byteLength text) :
    expressionGraph files stdin limits source = .error (source.refusal limits text) := by
  rw [expressionGraph_eq, h.measuredExpression_of_lt hlength hlt]
  rfl

theorem Source.notUtf8_notMem_refusal : Cause.notUtf8 ∉ (source.refusal limits text).causes := by
  rw [Source.refusal]
  split
  · simp [Failure.causes]
  · split
    · simp [Failure.causes]
    · simp [Failure.causes]

/-- Whichever way a text is given, it is not taken for bytes that are no text. -/
theorem Delivers.notUtf8_notMem (h : Delivers text files stdin source)
    (hlength : Utf8.byteLength text < UInt64.size) {failure : Failure}
    (hfailure : expressionGraph files stdin limits source = .error failure) :
    Cause.notUtf8 ∉ failure.causes := by
  by_cases hle : Utf8.byteLength text ≤ limits.allowed
  · rw [h.expressionGraph_of_le hle] at hfailure
    cases hparse : parse text with
    | ok graph =>
        rw [hparse] at hfailure
        cases hfailure
    | error error =>
        rw [hparse] at hfailure
        obtain rfl := Except.error.inj hfailure
        simp [Failure.causes]
  · rw [h.expressionGraph_of_lt hlength (Nat.lt_of_not_le hle)] at hfailure
    obtain rfl := Except.error.inj hfailure
    exact Source.notUtf8_notMem_refusal

/-- A graph that is read of a text is read of it whichever way it is given. -/
theorem Delivers.expressionGraph_eq_ok_iff (h : Delivers text files stdin source)
    (hlength : Utf8.byteLength text < UInt64.size) {graph : Graph} :
    expressionGraph files stdin limits source = .ok graph ↔
      Utf8.byteLength text ≤ limits.allowed ∧ parse text = .ok graph := by
  by_cases hle : Utf8.byteLength text ≤ limits.allowed
  · rw [h.expressionGraph_of_le hle, ← parseExpression_of_le hle]
    exact parseExpression_eq_ok_iff
  · rw [h.expressionGraph_of_lt hlength (Nat.lt_of_not_le hle)]
    simp [hle]

end Routes

/-- **All ways to give a text agree.** Let its length be one that 64 bits can tell, as that of every
text in memory is.

Within the limit, the graph or the error is that of the text, whichever way it is given. Over the
limit, the text is refused before it is read as a graph, whatever it may be. In no case is it taken for
anything but a text, although the bound may cut a character. Two ways therefore give the same graph,
or neither gives one. And no text that was read of any bytes is found to be too long later. -/
theorem routes_agree (text : Text) (limits : Limits)
    (hlength : Utf8.byteLength text < UInt64.size) :
    (∀ files stdin source, Delivers text files stdin source →
      (Utf8.byteLength text ≤ limits.allowed →
        expressionGraph files stdin limits source =
          (parse text).mapError fun error => ⟨.invalidGraph, [.chain error]⟩) ∧
      (limits.allowed < Utf8.byteLength text →
        measuredExpression files stdin limits source = .error (source.refusal limits text) ∧
        expressionGraph files stdin limits source = .error (source.refusal limits text)) ∧
      ∀ failure, expressionGraph files stdin limits source = .error failure →
        Cause.notUtf8 ∉ failure.causes) ∧
    (∀ files stdin source files' stdin' source', Delivers text files stdin source →
      Delivers text files' stdin' source' → ∀ graph,
        expressionGraph files stdin limits source = .ok graph ↔
          expressionGraph files' stdin' limits source' = .ok graph) ∧
    ∀ files stdin source read, source.comesAsBytes →
      readExpression files stdin limits source = .ok read → checkLength limits read = .ok () := by
  refine ⟨?_, ?_, ?_⟩
  · intro files stdin source h
    refine ⟨?_, ?_, ?_⟩
    · intro hle
      exact h.expressionGraph_of_le hle
    · intro hlt
      exact ⟨h.measuredExpression_of_lt hlength hlt, h.expressionGraph_of_lt hlength hlt⟩
    · intro failure hfailure
      exact h.notUtf8_notMem hlength hfailure
  · intro files stdin source files' stdin' source' h h' graph
    rw [h.expressionGraph_eq_ok_iff hlength, h'.expressionGraph_eq_ok_iff hlength]
  · intro files stdin source read hsource hread
    exact checkLength_of_readExpression hsource hread

/-- At a limit that the text just keeps to, and at one where the bound cuts a character of it. -/
theorem routes_agree_boundary :
    Utf8.byteLength ['a', '€'] < UInt64.size ∧
    expressionGraph (fun _ => .missing) (Utf8.encode ['a', '€']) ⟨4⟩ ⟨some ['-'], none⟩ =
      .ok [[.named ['a', '€']]] ∧
    expressionGraph (fun _ => .file (Utf8.encode ['a', '€'])) [] ⟨4⟩ ⟨some ['b'], some ['f']⟩ =
      .ok [[.named ['a', '€']]] ∧
    expressionGraph (fun _ => .missing) [] ⟨2⟩ ⟨some ['a', '€'], none⟩ =
      .error ⟨.tooLong 4 ⟨2⟩, []⟩ ∧
    expressionGraph (fun _ => .file (Utf8.encode ['a', '€'])) [] ⟨2⟩ ⟨none, some ['f']⟩ =
      .error ⟨.expressionFile ['f'], [.overLimit ⟨2⟩]⟩ := by
  have hlength : Utf8.byteLength ['a', '€'] < UInt64.size := by decide
  have hfile : ∀ inline path, Delivers ['a', '€'] (fun _ => .file (Utf8.encode ['a', '€'])) []
      ⟨inline, some path⟩ := fun inline path => .inFile inline path rfl
  obtain ⟨hfits, hsame, -⟩ := routes_agree ['a', '€'] ⟨4⟩ hlength
  obtain ⟨hover, -, -⟩ := routes_agree ['a', '€'] ⟨2⟩ hlength
  have hstdin := (hfits (fun _ => .missing) _ _ (.onStandardInput rfl)).1 (by decide)
  have hgraph : parse ['a', '€'] = .ok [[.named ['a', '€']]] := by decide
  rw [hgraph] at hstdin
  refine ⟨hlength, hstdin, ?_, ?_, ?_⟩
  · exact (hsame _ _ _ _ _ _ (.onStandardInput rfl) (hfile (some ['b']) ['f']) _).mp hstdin
  · exact ((hover _ _ _ (.inPlace (by decide))).2.1 (by decide)).2
  · exact ((hover _ _ _ (hfile none ['f'])).2.1 (by decide)).2

end PadGraph
