import PadGraph.Json.Lexeme

/-!
# Spelling lexemes

A written value is cut into lexemes piece by piece: each piece spells some lexemes, whatever stands
behind it. A string is spelled by its characters, some of them escaped, and reading it undoes each
escape.

* `unitsOf_escape`, `unitsOf_quote` — an escaped character is read as the character, a string in its
  quotes as the numbers of its characters.
* `joinSurrogates_toNat` — the numbers of characters are read as the characters.
* `Spells` — the lexemes that a text spells, whatever stands behind it.
* `Spells.append`, `spells_blank`, `spells_lexeme`, `spells_quote` — what texts spell.
* `Brackets`, `Spells.between` — parts with commas between them, and brackets around them.
-/

namespace PadGraph

namespace Json

/-! ### Reading a string -/

section Strings

variable (rest : Text)

theorem unitsOf_plain {c : Char} (hquote : c ≠ '"') (hbackslash : c ≠ '\\')
    (hcontrol : ¬ c.toNat < 32) :
    unitsOf (c :: rest) = (unitsOf rest).map (addUnit c.toNat) := by
  rw [unitsOf.eq_5 c rest hquote (fun _ _ _ _ _ h _ => hbackslash h)
    (fun _ _ h _ => hbackslash h)]
  apply if_neg
  intro h
  exact h.elim hcontrol hbackslash

theorem unitsOf_letter {c escaped : Char} (h : unescape? c = some escaped) :
    unitsOf ('\\' :: c :: rest) = (unitsOf rest).map (addUnit escaped.toNat) := by
  have hhex : c ≠ 'u' := by
    intro hc
    rw [hc] at h
    cases h
  rw [unitsOf.eq_4 c rest (fun _ _ _ _ _ hc _ => hhex hc), h]
  rfl

theorem unitsOf_hex {a b c d : Char} {unit : Nat} (h : Text.ofHex? [a, b, c, d] = some unit) :
    unitsOf ('\\' :: 'u' :: a :: b :: c :: d :: rest) = (unitsOf rest).map (addUnit unit) := by
  rw [unitsOf, h]
  rfl

/-- The four digits of a control character. -/
theorem ofHex?_control : ∀ n < 32,
    Text.ofHex? ['0', '0', Nat.digitChar (n / 16), Nat.digitChar (n % 16)] = some n := by
  decide

/-- **An escaped character is read as the character.** -/
theorem unitsOf_escape (c : Char) :
    unitsOf (escape c ++ rest) = (unitsOf rest).map (addUnit c.toNat) := by
  by_cases hquote : c = '"'
  · subst hquote
    exact unitsOf_letter rest rfl
  by_cases hbackslash : c = '\\'
  · subst hbackslash
    exact unitsOf_letter rest rfl
  by_cases hnewline : c = '\n'
  · subst hnewline
    exact unitsOf_letter rest rfl
  by_cases hreturn : c = '\r'
  · subst hreturn
    exact unitsOf_letter rest rfl
  by_cases htab : c = '\t'
  · subst htab
    exact unitsOf_letter rest rfl
  simp only [escape, if_neg hquote, if_neg hbackslash, if_neg hnewline, if_neg hreturn, if_neg htab]
  by_cases hbackspace : c.toNat = 8
  · rw [if_pos hbackspace, hbackspace]
    exact unitsOf_letter rest (show unescape? 'b' = some '\x08' from rfl)
  by_cases hfeed : c.toNat = 12
  · rw [if_neg hbackspace, if_pos hfeed, hfeed]
    exact unitsOf_letter rest (show unescape? 'f' = some '\x0c' from rfl)
  rw [if_neg hbackspace, if_neg hfeed]
  by_cases hcontrol : c.toNat < 32
  · rw [if_pos hcontrol]
    exact unitsOf_hex rest (ofHex?_control c.toNat hcontrol)
  · rw [if_neg hcontrol]
    exact unitsOf_plain rest hquote hbackslash hcontrol

/-- A string is read up to its closing quote, and nothing in it is taken for that. -/
theorem unitsOf_quote (content : Text) :
    unitsOf (content.flatMap escape ++ '"' :: rest) = some (content.map Char.toNat, rest) := by
  induction content with
  | nil => rfl
  | cons c content ih =>
      rw [List.flatMap_cons, List.append_assoc, unitsOf_escape, ih]
      rfl

end Strings

/-- No character is one half of a surrogate pair. -/
theorem not_surrogate (c : Char) :
    isHighSurrogate c.toNat = false ∧ isLowSurrogate c.toNat = false := by
  have hvalid : c.toNat.isValidChar := c.valid
  simp only [Nat.isValidChar] at hvalid
  simp only [isHighSurrogate, isLowSurrogate, Bool.and_eq_false_iff, decide_eq_false_iff_not]
  omega

theorem joinSurrogates_cons (c : Char) (units : List Nat) :
    joinSurrogates (c.toNat :: units) = (joinSurrogates units).map (c :: ·) := by
  obtain ⟨hhigh, hlow⟩ := not_surrogate c
  cases units with
  | nil => simp [joinSurrogates, hhigh, hlow]
  | cons next units => simp [joinSurrogates, hhigh, hlow]

/-- The numbers of characters are read as the characters. -/
theorem joinSurrogates_toNat (content : Text) :
    joinSurrogates (content.map Char.toNat) = some content := by
  induction content with
  | nil => rfl
  | cons c content ih =>
      rw [List.map_cons, joinSurrogates_cons, ih]
      rfl

/-! ### What a text spells -/

/-- A text spells some lexemes when they are cut off first, whatever stands behind the text. -/
def Spells (text : Text) (found : List Lexeme) : Prop :=
  ∀ rest, lexemes (text ++ rest) = (lexemes rest).map (found ++ ·)

/-- A text that spells some lexemes is cut into them. -/
theorem Spells.lexemes_eq {text : Text} {found : List Lexeme} (h : Spells text found) :
    lexemes text = some found := by
  have hall := h []
  rw [List.append_nil, lexemes.eq_1] at hall
  rw [hall, Option.map_some, List.append_nil]

theorem spells_nil : Spells [] [] := by
  intro rest
  show lexemes rest = (lexemes rest).map id
  rw [Option.map_id, id]

theorem Spells.append {front back : Text} {found next : List Lexeme} (hfront : Spells front found)
    (hback : Spells back next) : Spells (front ++ back) (found ++ next) := by
  intro rest
  rw [List.append_assoc, hfront, hback, Option.map_map]
  congr 1
  funext more
  exact (List.append_assoc found next more).symm

/-- Blanks spell nothing. -/
theorem spells_blank {text : Text} (h : ∀ c ∈ text, isBlank c = true) : Spells text [] := by
  induction text with
  | nil => exact spells_nil
  | cons c text ih =>
      obtain ⟨hc, htext⟩ := List.forall_mem_cons.mp h
      intro rest
      rw [List.cons_append, lexemes.eq_2, if_pos hc]
      exact ih htext rest

/-- A text that begins with no blank spells the lexeme that is always read of it. -/
theorem spells_lexeme {c : Char} {text : Text} {found : Lexeme} (hblank : isBlank c = false)
    (h : ∀ rest, lexeme? (c :: (text ++ rest)) = some (found, rest)) :
    Spells (c :: text) [found] := by
  intro rest
  rw [List.cons_append, lexemes.eq_2, if_neg (by simp [hblank])]
  split
  · next hnone =>
    rw [h] at hnone
    cases hnone
  · next read hread =>
    rw [h] at hread
    obtain rfl := Option.some.inj hread
    rfl

/-- A string in its quotes is spelled so. -/
theorem spells_quote (content : Text) : Spells (quote content) [.string (some content)] := by
  apply spells_lexeme rfl
  intro rest
  show (unitsOf (content.flatMap escape ++ ['"'] ++ rest)).map _ = _
  rw [List.append_assoc, List.singleton_append, unitsOf_quote, Option.map_some,
    joinSurrogates_toNat]

/-! ### Parts -/

section Parts

variable {α : Type} {text : α → Text} {found : α → List Lexeme} {parts : List α}

/-- Parts with commas between them, and blanks behind each comma. -/
theorem Spells.intercalate {separator : Text} (hseparator : ∀ c ∈ separator, isBlank c = true)
    (h : ∀ part ∈ parts, Spells (text part) (found part)) :
    Spells ((',' :: separator).intercalate (parts.map text))
      ([.comma].intercalate (parts.map found)) := by
  induction parts with
  | nil => exact spells_nil
  | cons part parts ih =>
      obtain ⟨hpart, hparts⟩ := List.forall_mem_cons.mp h
      cases parts with
      | nil =>
          rw [List.map_singleton, List.map_singleton, List.intercalate_singleton,
            List.intercalate_singleton]
          exact hpart
      | cons next parts =>
          have hcomma : Spells [','] [.comma] := spells_lexeme rfl fun _ => rfl
          have hrest := (hcomma.append (spells_blank hseparator)).append (ih hparts)
          simp only [List.map_cons, List.intercalate_cons_cons, List.append_assoc]
          exact hpart.append hrest

/-- Brackets that are lexemes of their own. -/
structure Brackets (opening closing : Char) (openMark closeMark : Lexeme) : Prop where
  opens : Spells [opening] [openMark]
  closes : Spells [closing] [closeMark]

theorem brackets_array : Brackets '[' ']' .openArray .closeArray :=
  ⟨spells_lexeme rfl fun _ => rfl, spells_lexeme rfl fun _ => rfl⟩

theorem brackets_object : Brackets '\x7b' '\x7d' .openObject .closeObject :=
  ⟨spells_lexeme rfl fun _ => rfl, spells_lexeme rfl fun _ => rfl⟩

/-- Parts with commas between them, in brackets of some kind, and blanks wherever they may stand. -/
theorem Spells.between {opening closing : Char} {openMark closeMark : Lexeme}
    {lead separator trail : Text} (hbrackets : Brackets opening closing openMark closeMark)
    (hlead : ∀ c ∈ lead, isBlank c = true) (hseparator : ∀ c ∈ separator, isBlank c = true)
    (htrail : ∀ c ∈ trail, isBlank c = true)
    (h : ∀ part ∈ parts, Spells (text part) (found part)) :
    Spells (opening :: lead ++ (',' :: separator).intercalate (parts.map text) ++ trail ++ [closing])
      (openMark :: [.comma].intercalate (parts.map found) ++ [closeMark]) := by
  have hopened := hbrackets.opens.append (spells_blank hlead)
  have hinner := hopened.append (Spells.intercalate hseparator h)
  have hspells := (hinner.append (spells_blank htrail)).append hbrackets.closes
  rwa [List.append_nil, List.append_nil] at hspells

end Parts

end Json

end PadGraph
