import PadGraph.Json.Read
import PadGraph.Proofs.Json.Spelling

/-!
# What is written is read

Both written forms of a value are cut into the same lexemes, the ones of the value, and these take the
reader to the value again. Numbers are left out: where one ends depends on what stands behind it.

* `parts_induction` — induction over values.
* `spelling` — the lexemes of a value.
* `Textual`, `spells_compact`, `spells_prettyAt` — the values without numbers; both written forms of
  one spell its lexemes.
* `Yields`, `foldlM_parts`, `yields_spelling` — the lexemes of a value take the reader to the value,
  whatever is open.
* **`parse_compact`**, **`parse_pretty`** — both written forms are read as the value.
-/

namespace PadGraph

namespace Json

theorem sizeOf_field_lt {fields : List (Option Text × Json)} {field : Option Text × Json}
    (h : field ∈ fields) : sizeOf field.2 < sizeOf (object fields) := by
  have hmem := List.sizeOf_lt_of_mem h
  obtain ⟨key, value⟩ := field
  simp only [Prod.mk.sizeOf_spec, object.sizeOf_spec] at hmem ⊢
  omega

/-- Induction over values: a list by its items, an object by the values of its fields. -/
@[elab_as_elim]
theorem parts_induction {motive : Json → Prop} (null : motive .null)
    (boolean : ∀ value, motive (.boolean value)) (number : ∀ literal, motive (.number literal))
    (string : ∀ content, motive (.string content))
    (array : ∀ items, (∀ item ∈ items, motive item) → motive (.array items))
    (object : ∀ fields, (∀ field ∈ fields, motive field.2) → motive (.object fields)) :
    ∀ value, motive value
  | .null => null
  | .boolean value => boolean value
  | .number literal => number literal
  | .string content => string content
  | .array items =>
    array items fun item _ => parts_induction null boolean number string array object item
  | .object fields =>
    object fields fun field _ => parts_induction null boolean number string array object field.2
decreasing_by
  · decreasing_tactic
  · exact sizeOf_field_lt (by assumption)

/-- The lexemes of a value. -/
def spelling : Json → List Lexeme
  | array items => .openArray :: [.comma].intercalate (items.map spelling) ++ [.closeArray]
  | object fields =>
    .openObject ::
        [.comma].intercalate
          (fields.map fun field => .string field.1 :: .colon :: spelling field.2) ++
      [.closeObject]
  | string content => [.string content]
  | null => [.scalar .null]
  | boolean value => [.scalar (.boolean value)]
  | number literal => [.scalar (.number literal)]
decreasing_by
  · decreasing_tactic
  · exact sizeOf_field_lt (by assumption)

/-! ### The lexemes of both written forms -/

/-- A value without numbers, of which every string and every key has content. -/
inductive Textual : Json → Prop where
  | null : Textual null
  | boolean (value : Bool) : Textual (boolean value)
  | text (content : Text) : Textual (text content)
  | array {items : List Json} (h : ∀ item ∈ items, Textual item) : Textual (array items)
  | object {fields : List (Option Text × Json)} (hkeys : ∀ field ∈ fields, field.1.isSome)
      (hvalues : ∀ field ∈ fields, Textual field.2) : Textual (object fields)

theorem compactItems_eq_map (items : List Json) : compactItems items = items.map compact := by
  induction items with
  | nil => rfl
  | cons item items ih => rw [compactItems, ih, List.map_cons]

theorem compactFields_eq_map (fields : List (Option Text × Json)) :
    compactFields fields =
      fields.map fun field => quote (field.1.getD []) ++ ':' :: compact field.2 := by
  induction fields with
  | nil => rfl
  | cons field fields ih => rw [compactFields, ih, List.map_cons]

theorem prettyItems_eq_map (level : Nat) (items : List Json) :
    prettyItems level items = items.map (prettyAt level) := by
  induction items with
  | nil => rfl
  | cons item items ih => rw [prettyItems, ih, List.map_cons]

theorem prettyFields_eq_map (level : Nat) (fields : List (Option Text × Json)) :
    prettyFields level fields =
      fields.map fun field => quote (field.1.getD []) ++ ':' :: ' ' :: prettyAt level field.2 := by
  induction fields with
  | nil => rfl
  | cons field fields ih => rw [prettyFields, ih, List.map_cons]

theorem isBlank_newLine (level : Nat) : ∀ c ∈ newLine level, isBlank c = true := by
  intro c hc
  rw [newLine, List.mem_cons, List.mem_replicate] at hc
  obtain rfl | ⟨-, rfl⟩ := hc
  · rfl
  · rfl

/-- A field: its key, the colon, blanks that may stand there, and its value. -/
theorem Spells.field {key : Option Text} (gap : Text) {text : Text} {found : List Lexeme}
    (hkey : key.isSome) (hgap : ∀ c ∈ gap, isBlank c = true) (h : Spells text found) :
    Spells (quote (key.getD []) ++ ':' :: (gap ++ text)) (.string key :: .colon :: found) := by
  obtain ⟨content, rfl⟩ := Option.isSome_iff_exists.mp hkey
  have hcolon : Spells [':'] [.colon] := spells_lexeme rfl fun _ => rfl
  exact (spells_quote content).append (hcolon.append ((spells_blank hgap).append h))

section Parts

variable {α : Type} {text : α → Text} {found : α → List Lexeme} {parts : List α}
  {opening closing : Char} {openMark closeMark : Lexeme}

/-- Parts in brackets without any blanks. -/
theorem Spells.list (hbrackets : Brackets opening closing openMark closeMark)
    (h : ∀ part ∈ parts, Spells (text part) (found part)) :
    Spells (opening :: [','].intercalate (parts.map text) ++ [closing])
      (openMark :: [.comma].intercalate (parts.map found) ++ [closeMark]) := by
  have hblank : ∀ c ∈ ([] : Text), isBlank c = true := by simp
  have hspells := Spells.between hbrackets hblank hblank hblank h
  rwa [List.append_nil, List.cons_append, List.nil_append] at hspells

/-- Parts in brackets on lines of their own. -/
theorem Spells.block {level : Nat} (hbrackets : Brackets opening closing openMark closeMark)
    (h : ∀ part ∈ parts, Spells (text part) (found part)) :
    Spells (block level opening closing (parts.map text))
      (openMark :: [.comma].intercalate (parts.map found) ++ [closeMark]) := by
  cases parts with
  | nil => exact hbrackets.opens.append hbrackets.closes
  | cons part parts =>
      exact Spells.between hbrackets (isBlank_newLine (level + 1)) (isBlank_newLine (level + 1))
        (isBlank_newLine level) h

end Parts

theorem spells_null : Spells (scalar null) (spelling null) := by
  rw [spelling]
  exact spells_lexeme rfl fun _ => rfl

theorem spells_boolean (value : Bool) :
    Spells (scalar (boolean value)) (spelling (boolean value)) := by
  rw [spelling]
  cases value with
  | false => exact spells_lexeme rfl fun _ => rfl
  | true => exact spells_lexeme rfl fun _ => rfl

theorem spells_text (content : Text) :
    Spells (scalar (.text content)) (spelling (.text content)) := by
  rw [Json.text, spelling]
  exact spells_quote content

theorem spells_compact {value : Json} (h : Textual value) :
    Spells value.compact value.spelling := by
  induction h with
  | null => exact spells_null
  | boolean value => exact spells_boolean value
  | text content => exact spells_text content
  | array _ ih =>
      rw [compact, compactItems_eq_map, spelling]
      exact Spells.list brackets_array ih
  | object hkeys _ ih =>
      rw [compact, compactFields_eq_map, spelling]
      apply Spells.list brackets_object
      intro field hfield
      exact Spells.field [] (hkeys field hfield) (by simp) (ih field hfield)

theorem spells_prettyAt {value : Json} (h : Textual value) (level : Nat) :
    Spells (value.prettyAt level) value.spelling := by
  induction h generalizing level with
  | null => exact spells_null
  | boolean value => exact spells_boolean value
  | text content => exact spells_text content
  | array _ ih =>
      rw [prettyAt, prettyItems_eq_map, spelling]
      apply Spells.block brackets_array
      intro item hitem
      exact ih item hitem (level + 1)
  | object hkeys _ ih =>
      rw [prettyAt, prettyFields_eq_map, spelling]
      apply Spells.block brackets_object
      intro field hfield
      exact Spells.field [' '] (hkeys field hfield) (by simp [isBlank])
        (ih field hfield (level + 1))

/-! ### The reader on the lexemes of a value -/

/-- Lexemes yield a value when they take the reader from where a value must come to where the value
is complete, whatever is open. -/
def Yields (found : List Lexeme) (value : Json) : Prop :=
  ∀ stack, found.foldlM Machine.step (.needValue stack) = some (.complete value stack)

/-- The first item of a list yields the item as well: it does not begin with the end of a list. -/
theorem Yields.first_item {found : List Lexeme} {value : Json} (h : Yields found value)
    (stack : List Frame) :
    found.foldlM Machine.step (.needFirstItem stack) =
      some (.complete value (.array [] :: stack)) := by
  have hitem := h (.array [] :: stack)
  cases found with
  | nil => cases hitem
  | cons lexeme found => cases lexeme <;> first | exact hitem | cases hitem

/-- A field yields its value, with its key open. -/
theorem Yields.field {found : List Lexeme} {value : Json} (h : Yields found value)
    (key : Option Text) (read : List (Option Text × Json)) (stack : List Frame) :
    (.string key :: .colon :: found).foldlM Machine.step (.needKey read stack) =
      some (.complete value (.object read key :: stack)) :=
  h (.object read key :: stack)

/-- So does the first field of an object. -/
theorem Yields.first_field {found : List Lexeme} {value : Json} (h : Yields found value)
    (key : Option Text) (stack : List Frame) :
    (.string key :: .colon :: found).foldlM Machine.step (.needFirstKey stack) =
      some (.complete value (.object [] key :: stack)) :=
  h (.object [] key :: stack)

/-- **Parts with commas between them.** `need` is where a further part must come, `got` where one is
complete, and `done` where the list of them is: the parts are read one by one, and the end takes all
of them. -/
theorem foldlM_parts {α : Type} {found : α → List Lexeme} (close : Lexeme)
    (need : List α → Machine) (got : α → List α → Machine) (done : List α → Machine)
    (hcomma : ∀ part read, (got part read).step .comma = some (need (part :: read)))
    (hclose : ∀ part read, (got part read).step close = some (done (part :: read).reverse))
    {part : α} {parts read : List α} {start : Machine}
    (hfirst : (found part).foldlM Machine.step start = some (got part read))
    (h : ∀ p ∈ parts, ∀ read, (found p).foldlM Machine.step (need read) = some (got p read)) :
    ([.comma].intercalate ((part :: parts).map found) ++ [close]).foldlM Machine.step start =
      some (done (read.reverse ++ part :: parts)) := by
  -- over the parts behind the first one; `start` is where that one is read
  induction parts generalizing part read start with
  | nil =>
      rw [List.map_singleton, List.intercalate_singleton, List.foldlM_append, hfirst]
      show [close].foldlM Machine.step (got part read) = _
      rw [List.foldlM_cons, hclose, List.reverse_cons]
      rfl
  | cons next parts ih =>
      obtain ⟨hnext, hparts⟩ := List.forall_mem_cons.mp h
      have hrest := ih (hnext (part :: read)) hparts
      rw [List.reverse_cons, List.append_assoc, List.singleton_append] at hrest
      rw [List.map_cons, List.map_cons, List.intercalate_cons_cons, List.append_assoc,
        List.append_assoc, List.foldlM_append, hfirst]
      show ([.comma] ++ _).foldlM Machine.step (got part read) = _
      rw [List.singleton_append, List.foldlM_cons, hcomma]
      exact hrest

theorem yields_array {items : List Json} (h : ∀ item ∈ items, Yields item.spelling item) :
    Yields (.openArray :: [.comma].intercalate (items.map spelling) ++ [.closeArray])
      (array items) := by
  intro stack
  cases items with
  | nil => rfl
  | cons item items =>
      obtain ⟨hitem, hitems⟩ := List.forall_mem_cons.mp h
      exact foldlM_parts .closeArray (fun read => .needValue (.array read :: stack))
        (fun item read => .complete item (.array read :: stack))
        (fun items => .complete (array items) stack) (fun _ _ => rfl) (fun _ _ => rfl)
        (hitem.first_item stack) (fun item hmem read => hitems item hmem (.array read :: stack))

theorem yields_object {fields : List (Option Text × Json)}
    (h : ∀ field ∈ fields, Yields field.2.spelling field.2) :
    Yields (.openObject ::
        [.comma].intercalate
          (fields.map fun field => .string field.1 :: .colon :: field.2.spelling) ++
      [.closeObject]) (object fields) := by
  intro stack
  cases fields with
  | nil => rfl
  | cons field fields =>
      obtain ⟨hfield, hfields⟩ := List.forall_mem_cons.mp h
      exact foldlM_parts .closeObject (fun read => .needKey read stack)
        (fun field read => .complete field.2 (.object read field.1 :: stack))
        (fun fields => .complete (object fields) stack) (fun _ _ => rfl) (fun _ _ => rfl)
        (hfield.first_field field.1 stack)
        (fun field hmem read => (hfields field hmem).field field.1 read stack)

/-- **The lexemes of a value yield the value.** -/
theorem yields_spelling (value : Json) : Yields value.spelling value := by
  induction value using parts_induction with
  | null => rw [spelling]; intro stack; rfl
  | boolean value => rw [spelling]; intro stack; rfl
  | number literal => rw [spelling]; intro stack; rfl
  | string content => rw [spelling]; intro stack; rfl
  | array items ih =>
      rw [spelling]
      exact yields_array ih
  | object fields ih =>
      rw [spelling]
      exact yields_object ih

/-! ### Reading what was written -/

/-- A text that is cut into the lexemes of a value is read as the value. -/
theorem parse_of_lexemes {text : Text} {value : Json} (h : lexemes text = some value.spelling) :
    parse text = some value := by
  have hvalue := yields_spelling value []
  simp only [parse, h, hvalue, Option.bind_eq_bind, Option.bind_some]
  rfl

/-- **A value written without blanks is read as the value.** -/
theorem parse_compact {value : Json} (h : Textual value) : parse value.compact = some value :=
  parse_of_lexemes (spells_compact h).lexemes_eq

/-- **A value laid out over lines is read as the value.** -/
theorem parse_pretty {value : Json} (h : Textual value) : parse value.pretty = some value :=
  parse_of_lexemes (spells_prettyAt h 0).lexemes_eq

end Json

end PadGraph
