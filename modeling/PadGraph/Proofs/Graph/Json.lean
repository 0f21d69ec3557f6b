import PadGraph.Graph.Json
import PadGraph.Proofs.Json.RoundTrip

/-!
# Graphs and their JSON

A graph is written as a value without numbers, whose objects have fields with different names. So each
field is found by its name, and the text gives the graph back: an absent value is null, which no value
that is present is written as.

* `mapM_map_eq_some`, `mapM_written` — reading item by item what was written of each.
* `Json.field?_record`, `Json.fieldsNamed?_record` — the fields of an object with different names.
* `Argument.ofJson?_toJson`, `Node.ofJson?_toJson`, `Graph.ofJson?_toJson` — arguments, nodes and
  graphs are read of their values.
* `Graph.textual_toJson` — the value of a graph has no numbers in it.
* **`Graph.ofJsonText?_jsonText`** — every graph is read of its text, however that is laid out.
-/

namespace PadGraph

/-- Reading what was written of each item gives all results when each item gives one. -/
theorem mapM_map_eq_some {α β γ : Type} {read : β → Option γ} {write : α → β} {result : α → γ}
    {items : List α} (h : ∀ item ∈ items, read (write item) = some (result item)) :
    (items.map write).mapM read = some (items.map result) := by
  induction items with
  | nil => rfl
  | cons item items ih =>
      obtain ⟨hitem, hitems⟩ := List.forall_mem_cons.mp h
      rw [List.map_cons, List.mapM_cons, hitem, ih hitems]
      rfl

/-- Items that are read of what was written of them. -/
theorem mapM_written {α β : Type} {read : β → Option α} {write : α → β}
    (h : ∀ item, read (write item) = some item) (items : List α) :
    (items.map write).mapM read = some items := by
  have hall : (items.map write).mapM read = some (items.map id) :=
    mapM_map_eq_some fun item _ => h item
  rwa [List.map_id] at hall

namespace Json

/-! ### Objects with different names -/

section Records

variable {fields : List (String × Json)} {name : String} {value : Json}

/-- The fields of a record as the fields of an object. -/
def named (fields : List (String × Json)) : List (Option Text × Json) :=
  fields.map fun (name, value) => (some name.toList, value)

theorem filter_named_eq_nil (h : name ∉ fields.map Prod.fst) :
    (named fields).filter (fun field => field.1 == some name.toList) = [] := by
  apply List.filter_eq_nil_iff.mpr
  intro found hfound hname
  obtain ⟨field, hfield, rfl⟩ := List.mem_map.mp hfound
  apply h
  have hchars : field.1.toList = name.toList := Option.some.inj (beq_iff_eq.mp hname)
  rw [← String.toList_inj.mp hchars]
  exact List.mem_map_of_mem hfield

theorem filter_named (hnames : (fields.map Prod.fst).Nodup) (h : (name, value) ∈ fields) :
    (named fields).filter (fun field => field.1 == some name.toList) =
      [(some name.toList, value)] := by
  induction fields with
  | nil => cases h
  | cons field fields ih =>
      rw [List.map_cons, List.nodup_cons] at hnames
      obtain ⟨hfirst, hrest⟩ := hnames
      show List.filter _ ((some field.1.toList, field.2) :: named fields) = _
      cases h with
      | head => rw [List.filter_cons_of_pos (by simp), filter_named_eq_nil hfirst]
      | tail _ h =>
          have hne : field.1 ≠ name := by
            intro heq
            rw [heq] at hfirst
            exact hfirst (List.mem_map.mpr ⟨(name, value), h, rfl⟩)
          rw [List.filter_cons_of_neg (by simpa [String.toList_inj] using hne), ih hrest h]

/-- Each field of a record is found by its name. -/
theorem field?_record (hnames : (fields.map Prod.fst).Nodup) (h : (name, value) ∈ fields) :
    field? (named fields) name = some (some value) := by
  rw [field?, filter_named hnames h]

/-- All fields of a record are found by their names. -/
theorem fieldsNamed?_record {names : List String} (hnames : fields.map Prod.fst = names)
    (hdistinct : names.Nodup) :
    (record fields).fieldsNamed? names = some (fields.map fun field => some field.2) := by
  subst hnames
  have hcontent : (named fields).all (·.1.isSome) = true := by
    simp [named]
  show (if (named fields).all (·.1.isSome) then (fields.map Prod.fst).mapM (field? (named fields))
    else none) = _
  rw [if_pos hcontent]
  apply mapM_map_eq_some
  intro field hfield
  exact field?_record hdistinct hfield

end Records

theorem texts?_texts (items : List Text) : (texts items).texts? = some items := by
  show (items.map text).mapM text? = some items
  apply mapM_written
  intro item
  rfl

end Json

/-! ### Values -/

/-- The value of an argument is found in the field that was written of it. -/
theorem Argument.ofJson?_toJson (argument : Argument) :
    Argument.ofJson? argument.toJson = some argument := by
  have hfields : argument.toJson.fieldsNamed? ["key", "value"] = some _ :=
    Json.fieldsNamed?_record rfl (by decide)
  rw [Argument.ofJson?, hfields]
  obtain ⟨key, value⟩ := argument
  cases value with
  | none => rfl
  | some value => rfl

theorem Node.ofJson?_toJson (node : Node) : Node.ofJson? node.toJson = some node := by
  have hfields : node.toJson.fieldsNamed?
      ["source_labels", "name", "arguments", "destination_labels"] = some _ :=
    Json.fieldsNamed?_record rfl (by decide)
  have harguments := mapM_written Argument.ofJson?_toJson node.arguments
  rw [Node.ofJson?, hfields]
  simp only [List.map_cons, List.map_nil, Json.texts?_texts, Json.text, Json.text?, Json.items?,
    harguments, Option.bind_eq_bind, Option.bind_some, Option.pure_def]

theorem Graph.ofJson?_toJson (graph : Graph) : Graph.ofJson? graph.toJson = some graph := by
  show (graph.map fun branch => Json.array (branch.map Node.toJson)).mapM
    (fun branch => branch.items?.bind (·.mapM Node.ofJson?)) = some graph
  apply mapM_written
  intro branch
  exact mapM_written Node.ofJson?_toJson branch

/-! ### Texts -/

theorem Json.textual_record {fields : List (String × Json)}
    (h : ∀ field ∈ fields, Textual field.2) : Textual (record fields) := by
  apply Textual.object
  · intro named hnamed
    obtain ⟨field, -, rfl⟩ := List.mem_map.mp hnamed
    rfl
  · intro named hnamed
    obtain ⟨field, hfield, rfl⟩ := List.mem_map.mp hnamed
    exact h field hfield

theorem Json.textual_map {α : Type} {write : α → Json} (h : ∀ item, Textual (write item))
    (items : List α) : Textual (.array (items.map write)) := by
  apply Textual.array
  intro written hwritten
  obtain ⟨item, -, rfl⟩ := List.mem_map.mp hwritten
  exact h item

theorem Argument.textual_toJson (argument : Argument) : argument.toJson.Textual := by
  obtain ⟨key, value⟩ := argument
  apply Json.textual_record
  simp only [List.forall_mem_cons]
  refine ⟨.text key, ?_, by simp⟩
  cases value with
  | none => exact .null
  | some value => exact .text value

theorem Node.textual_toJson (node : Node) : node.toJson.Textual := by
  have hlabels := Json.textual_map Json.Textual.text
  apply Json.textual_record
  simp only [List.forall_mem_cons]
  exact ⟨hlabels node.sourceLabels, .text node.name,
    Json.textual_map Argument.textual_toJson node.arguments, hlabels node.destinationLabels,
    by simp⟩

/-- The value of a graph has no numbers in it, and all its strings have content. -/
theorem Graph.textual_toJson (graph : Graph) : graph.toJson.Textual :=
  Json.textual_map (Json.textual_map Node.textual_toJson) graph

/-- **Every graph is read of its text**, whether that is laid out over lines or has no blanks. -/
theorem Graph.ofJsonText?_jsonText (graph : Graph) (pretty : Bool) :
    Graph.ofJsonText? (graph.jsonText pretty) = some graph := by
  have hparse : Json.parse (graph.jsonText pretty) = some graph.toJson := by
    cases pretty with
    | false => exact Json.parse_compact graph.textual_toJson
    | true => exact Json.parse_pretty graph.textual_toJson
  rw [Graph.ofJsonText?, hparse]
  exact graph.ofJson?_toJson

end PadGraph
