import Mathlib.Data.List.Forall2
import Mathlib.Tactic.MkIffOfInductiveProp
import PadGraph.Proofs.Toml.Number
import PadGraph.Toml.Document

/-!
# Documents that are written line by line

A document that is written with one statement on each line is read line by line. The text of a line
makes its statement whatever lines stand behind it, and the text of a value is read up to the end of
its line.

* `Toml.Writes` — a text that writes a value; `Toml.writes_decimal` and `Toml.writes_string` — a
  number, and a text in which nothing has to be escaped.
* `Toml.Bare`, `Toml.key_bare` — a name that needs no quotes is a key of one part.
* `Toml.Makes` — a line that makes a statement; `Toml.makes_blank`, `Toml.makes_table` and
  `Toml.makes_entry` — an empty line, a header and an entry.
* `Toml.document` — the document with given lines.
* **`Toml.statements_document`** — its statements are those of its lines.
* `Toml.parse_document` — its table is the one that they make.
-/

namespace PadGraph

namespace Toml

/-! ### Blanks -/

theorem isBlank_iff {c : Char} : isBlank c = true ↔ c = ' ' ∨ c = '\t' := by
  simp [isBlank]

theorem skipBlanks_cons {c : Char} (h : isBlank c = false) (rest : Text) :
    skipBlanks (c :: rest) = c :: rest :=
  List.dropWhile_cons_of_neg (by simp [h])

theorem skipBlanks_append {run : Text} (h : ∀ c ∈ run, isBlank c = true) (rest : Text) :
    skipBlanks (run ++ rest) = skipBlanks rest :=
  List.dropWhile_append_of_pos h

/-! ### Values -/

/-- Up to the end of its line the text is read as the value. -/
def Writes (shown : Text) (written : Value) : Prop :=
  ∀ rest, value (shown ++ '\n' :: rest) = some (written, '\n' :: rest)

theorem writes_decimal {n : Nat} (h : n < 2 ^ 63) :
    Writes (Text.decimal n) (.integer (Int64.ofNat n)) := value_decimal h

/-- No blank stands at the front of a value. -/
theorem Writes.skipBlanks_eq {shown : Text} {written : Value} (h : Writes shown written)
    (rest : Text) : skipBlanks (shown ++ '\n' :: rest) = shown ++ '\n' :: rest := by
  have hread := h []
  cases shown with
  | nil => rfl
  | cons c shown =>
      refine skipBlanks_cons ?_ _
      by_contra hblank
      rw [Bool.not_eq_false, isBlank_iff] at hblank
      rcases hblank with rfl | rfl <;> cases hread

section Strings

variable {content : Text}

/-- Characters that stand for themselves between quotes. -/
def Plain (content : Text) : Prop := ∀ c ∈ content, isVisible c = true ∧ c ≠ '"' ∧ c ≠ '\\'

instance : DecidablePred Plain := fun content =>
  List.decidableBAll (fun c => isVisible c = true ∧ c ≠ '"' ∧ c ≠ '\\') content

theorem lineSpan_plain (h : Plain content) (c : Char) (rest : Text) :
    lineSpan '"' true (content ++ '"' :: c :: rest) = some (content, c :: rest) := by
  induction content with
  | nil => rfl
  | cons d content ih =>
      obtain ⟨⟨hvisible, hquote, hescape⟩, hcontent⟩ := List.forall_mem_cons.mp h
      have hspan := ih hcontent
      obtain ⟨e, more, hmore⟩ := List.exists_cons_of_ne_nil
        (show content ++ '"' :: c :: rest ≠ [] by simp)
      rw [hmore] at hspan
      rw [List.cons_append, hmore, lineSpan, if_neg hquote, if_neg (by simp [hescape]),
        if_pos hvisible, hspan]
      rfl

theorem unescape_plain (h : Plain content) : unescape content = some content := by
  induction content with
  | nil => rfl
  | cons c content ih =>
      obtain ⟨⟨-, -, hescape⟩, hcontent⟩ := List.forall_mem_cons.mp h
      rw [unescape, if_neg hescape, ih hcontent]
      · rfl
      all_goals
        intros
        contradiction

/-- A text between double quotes, in which nothing has to be escaped. -/
theorem writes_string (h : Plain content) :
    Writes ('"' :: (content ++ ['"'])) (.string content) := by
  intro rest
  have hline : lineString ('"' :: (content ++ '"' :: '\n' :: rest)) =
      some (content, '\n' :: rest) := by
    simp [lineString, lineSpan_plain h, unescape_plain h]
  have hstring : string ('"' :: (content ++ '"' :: '\n' :: rest)) =
      some (content, '\n' :: rest) := by
    rw [string, hline]
    -- no second quote stands behind the first, or no third one behind it
    · intro _ heq
      cases content with
      | nil => simp at heq
      | cons c content => exact (h c (by simp)).2.1 (List.cons.inj (List.cons.inj heq).2).1
    · simp
  have hwhole : '"' :: (content ++ ['"']) ++ '\n' :: rest =
      '"' :: (content ++ '"' :: '\n' :: rest) := by
    simp
  rw [hwhole, value, valueWithin.eq_def]
  dsimp only
  rw [if_pos (.inl rfl), hstring]
  rfl

end Strings

/-! ### Keys -/

/-- A name that needs no quotes. -/
@[mk_iff] structure Bare (name : Text) : Prop where
  ne_nil : name ≠ []
  chars : ∀ c ∈ name, isBareKeyChar c = true

instance : DecidablePred Bare := fun name =>
  have : Decidable (∀ c ∈ name, isBareKeyChar c = true) :=
    List.decidableBAll (fun c => isBareKeyChar c = true) name
  decidable_of_iff' _ (bare_iff name)

theorem isBareKeyChar_of_isBlank {c : Char} (h : isBlank c = true) : isBareKeyChar c = false := by
  rcases isBlank_iff.mp h with rfl | rfl <;> rfl

section Keys

variable {name : Text}

/-- It begins with a character that is no blank and none of the marks between names. -/
theorem Bare.exists_cons (h : Bare name) :
    ∃ c behind, name = c :: behind ∧ isBlank c = false ∧
      ∀ mark : Char, isBareKeyChar mark = false → c ≠ mark := by
  obtain ⟨c, behind, rfl⟩ := List.exists_cons_of_ne_nil h.ne_nil
  have hc : isBareKeyChar c = true := h.chars c (by simp)
  refine ⟨c, behind, rfl, ?_, ?_⟩
  · by_contra hblank
    rw [Bool.not_eq_false] at hblank
    simp [isBareKeyChar_of_isBlank hblank] at hc
  · rintro mark hmark rfl
    simp [hc] at hmark

/-- A name up to a mark, with blanks between them, is a key of one part. -/
theorem key_bare (h : Bare name) {run : Text} (hrun : ∀ c ∈ run, isBlank c = true) {mark : Char}
    (hbare : isBareKeyChar mark = false) (hblank : isBlank mark = false) (hdot : mark ≠ '.')
    (rest : Text) : key (name ++ (run ++ mark :: rest)) = some (⟨[], name⟩, mark :: rest) := by
  have hend : ∀ c ∈ (run ++ mark :: rest).head?, isBareKeyChar c = false := by
    cases run with
    | nil => simpa using hbare
    | cons c run =>
        simpa using isBareKeyChar_of_isBlank (hrun c (by simp))
  have hspan : (name ++ (run ++ mark :: rest)).takeWhile isBareKeyChar = name ∧
      (name ++ (run ++ mark :: rest)).dropWhile isBareKeyChar = run ++ mark :: rest := by
    rw [List.takeWhile_append_of_pos h.chars, List.dropWhile_append_of_pos h.chars]
    cases hbehind : run ++ mark :: rest with
    | nil => simp
    | cons c behind => simp [hend c (by simp [hbehind])]
  have hpart : keyPart (name ++ (run ++ mark :: rest)) = some (name, mark :: rest) := by
    obtain ⟨c, behind, rfl, hc, -⟩ := h.exists_cons
    rw [List.cons_append] at hspan ⊢
    rw [keyPart, skipBlanks_cons hc, hspan.1, hspan.2]
    simp [skipBlanks_append hrun, skipBlanks_cons hblank]
  rw [key, Reader.separated, hpart]
  simp [behind?, hdot, maxKeyParts]

end Keys

/-! ### Lines -/

/-- The text makes the statement when it is a line of its own, whatever lines stand behind it. -/
def Makes (line : Text) (made : Statement) : Prop :=
  ∀ rest, statement (line ++ '\n' :: rest) = some (made, rest)

theorem makes_blank : Makes [] .blank := fun _ => rfl

section Lines

variable {name : Text}

/-- A line is not at its end where a character stands that is no blank, no newline and no hash. -/
theorem lineEnd?_cons {c : Char} (hb : isBlank c = false) (hc : c ≠ '#') (hn : c ≠ '\n')
    (rest : Text) : lineEnd? (c :: rest) = none := by
  have hcomment : skipComment (c :: rest) = c :: rest := by
    rw [skipComment]
    intro _ heq
    exact hc (List.cons.inj heq).1
  rw [lineEnd?, skipBlanks_cons hb, hcomment]
  show newline? (c :: rest) = none
  rw [newline?]
  intro _ heq
  exact hn (List.cons.inj heq).1

/-- A line with content makes what is read of it up to the end of the line. -/
theorem makes_of_content {c : Char} {line : Text} {made : Statement} (hb : isBlank c = false)
    (hc : c ≠ '#') (hn : c ≠ '\n')
    (h : ∀ rest, content (c :: (line ++ '\n' :: rest)) = some (made, '\n' :: rest)) :
    Makes (c :: line) made := by
  intro rest
  have hend : lineEnd? ('\n' :: rest) = some rest := rfl
  rw [List.cons_append, statement]
  simp only [skipBlanks_cons hb, lineEnd?_cons hb hc hn, h]
  simp [hend]

/-- A name in brackets is the header of a table. -/
theorem makes_table (h : Bare name) : Makes ('[' :: (name ++ [']'])) (.table ⟨[], name⟩) := by
  refine makes_of_content rfl (by decide) (by decide) fun rest => ?_
  have hkey : key (name ++ ([] ++ ']' :: '\n' :: rest)) = some (⟨[], name⟩, ']' :: '\n' :: rest) :=
    key_bare h (by simp) rfl rfl (by decide) _
  obtain ⟨c, behind, rfl, -, hmark⟩ := h.exists_cons
  have hline : c :: behind ++ [']'] ++ '\n' :: rest = c :: (behind ++ ']' :: '\n' :: rest) := by
    simp
  rw [List.nil_append, List.cons_append] at hkey
  rw [content, hline, header, hkey]
  · simp [behind?]
  · intro _ heq
    exact hmark '[' rfl (List.cons.inj heq).1

/-- A name, an equals sign and a value between blanks are an entry. -/
theorem makes_entry (h : Bare name) {shown : Text} {written : Value} (hw : Writes shown written) :
    Makes (name ++ ' ' :: '=' :: ' ' :: shown) (.entry ⟨[], name⟩ written) := by
  have hkey : ∀ rest, key (name ++ ([' '] ++ '=' :: rest)) = some (⟨[], name⟩, '=' :: rest) :=
    key_bare h (by simp [isBlank]) rfl rfl (by decide)
  obtain ⟨c, behind, rfl, hb, hmark⟩ := h.exists_cons
  refine makes_of_content hb (hmark _ rfl) (hmark _ rfl) fun rest => ?_
  have hline : c :: (List.append behind (' ' :: '=' :: ' ' :: shown) ++ '\n' :: rest) =
      (c :: behind) ++ ([' '] ++ '=' :: ' ' :: (shown ++ '\n' :: rest)) := by
    simp
  have hvalue : skipBlanks (' ' :: (shown ++ '\n' :: rest)) = shown ++ '\n' :: rest :=
    hw.skipBlanks_eq rest
  rw [content]
  · rw [hline, pair, hkey]
    simp [behind?, hvalue, hw rest]
  · intro _ heq
    exact hmark '[' rfl (List.cons.inj heq).1

end Lines

/-! ### Documents -/

/-- The document with the given lines. -/
def document (lines : List Text) : Text := lines.flatMap (· ++ ['\n'])

theorem document_cons (line : Text) (lines : List Text) :
    document (line :: lines) = line ++ '\n' :: document lines := by
  simp [document]

/-- **The statements of a document are those of its lines.** -/
theorem statements_document {lines : List Text} {made : List Statement}
    (h : List.Forall₂ Makes lines made) : statements (document lines) = some made := by
  induction h with
  | nil => rw [document, List.flatMap_nil, statements]
  | @cons line first lines made hline hlines ih =>
      have hfirst := hline (document lines)
      obtain ⟨c, text, htext⟩ := List.exists_cons_of_ne_nil
        (show line ++ '\n' :: document lines ≠ [] by simp)
      have hlength : (document lines).length < (c :: text).length := by
        rw [← htext, List.length_append, List.length_cons]
        omega
      rw [htext] at hfirst
      rw [document_cons, htext, statements, hfirst]
      simp only [hlength, ih]
      rfl

theorem unifyNewlines_eq {text : Text} (h : '\r' ∉ text) : unifyNewlines text = text := by
  induction text with
  | nil => rfl
  | cons c text ih =>
      obtain ⟨hc, htext⟩ := not_or.mp (mt List.mem_cons.mpr h)
      rw [unifyNewlines, ih htext]
      intro _ heq
      exact absurd heq.symm hc

/-- The table of a document is the one that its lines make, if there is no carriage return in it and
no mark at its beginning. -/
theorem parse_document {lines : List Text} {made : List Statement}
    (h : List.Forall₂ Makes lines made) (hr : '\r' ∉ document lines)
    (hm : (document lines).head? ≠ some byteOrderMark) :
    parse (document lines) = ofStatements made := by
  have hmark : behind? byteOrderMark (document lines) = none := by
    cases htext : document lines with
    | nil => rfl
    | cons c text =>
        have hc : c ≠ byteOrderMark := by
          simpa [htext] using hm
        rw [behind?, if_neg hc]
  rw [parse, hmark, Option.getD_none, unifyNewlines_eq hr, statements_document h]
  rfl

end Toml

end PadGraph
