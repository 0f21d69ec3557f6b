import Mathlib.Data.List.Basic
import PadGraph.Report

/-!
# The lines of a report

A report is a list of lines, and its lines fall into blocks, each of which begins with a line of
another kind than those behind it. So a report tells where its lines end, and its lines tell where
the blocks end, and within the block of a node what each line shows.

* `append_inj_of_head` — where the front of a list ends when something else follows.
* `Report.unlines_injective` — lines without newlines are told from the text that they make.
* `Report.Block`, `Report.flatten_mapIdx_injective` — blocks in a row are told apart, and with them
  the items that they list.
* `Report.optionalLine_injective`, `Report.optionalLine_append_inj` — a line that may be left out,
  alone and before lines of another kind.
-/

namespace PadGraph

/-- Lists in two parts are equal part by part, when a kind of items makes the front and what follows
does not begin with it. -/
theorem append_inj_of_head {α : Type} {p : α → Bool} {front front' rest rest' : List α}
    (hf : ∀ a ∈ front, p a = true) (hf' : ∀ a ∈ front', p a = true)
    (hr : ∀ a ∈ rest.head?, p a = false) (hr' : ∀ a ∈ rest'.head?, p a = false)
    (h : front ++ rest = front' ++ rest') : front = front' ∧ rest = rest' := by
  have htake : ∀ {front rest : List α}, (∀ a ∈ front, p a = true) →
      (∀ a ∈ rest.head?, p a = false) → (front ++ rest).takeWhile p = front := by
    intro front rest hf hr
    rw [List.takeWhile_append_of_pos hf]
    cases rest with
    | nil => simp
    | cons a rest => simp [hr a rfl]
  have hfront : front = front' := by
    rw [← htake hf hr, h, htake hf' hr']
  subst hfront
  exact ⟨rfl, List.append_cancel_left h⟩

namespace Report

/-! ### Lines -/

theorem unlines_cons (line : Text) (lines : List Text) :
    unlines (line :: lines) = line ++ '\n' :: unlines lines := by
  simp [unlines]

/-- Lines without newlines are told from the text that they make. -/
theorem unlines_injective {lines others : List Text} (h : ∀ line ∈ lines, '\n' ∉ line)
    (ho : ∀ line ∈ others, '\n' ∉ line) (heq : unlines lines = unlines others) :
    lines = others := by
  induction lines generalizing others with
  | nil =>
      cases others with
      | nil => rfl
      | cons other others => simp [unlines] at heq
  | cons line lines ih =>
      cases others with
      | nil => simp [unlines] at heq
      | cons other others =>
          obtain ⟨hline, hlines⟩ := List.forall_mem_cons.mp h
          obtain ⟨hother, hothers⟩ := List.forall_mem_cons.mp ho
          have hinside : ∀ {line : Text}, '\n' ∉ line → ∀ c ∈ line, (c != '\n') = true := by
            rintro line hline c hc
            simpa using ne_of_mem_of_not_mem hc hline
          rw [unlines_cons, unlines_cons] at heq
          obtain ⟨rfl, hrest⟩ := append_inj_of_head (p := (· != '\n')) (hinside hline)
            (hinside hother) (by simp) (by simp) heq
          rw [ih hlines hothers (List.cons.inj hrest).2]

/-! ### Blocks -/

/-- Lines of which the first, and only the first, heads a block. -/
def Block (isHead : Text → Bool) (lines : List Text) : Prop :=
  ∃ head tail, lines = head :: tail ∧ isHead head = true ∧ ∀ line ∈ tail, isHead line = false

section Blocks

variable {isHead : Text → Bool}

theorem Block.append_inj {block block' rest rest' : List Text} (hb : Block isHead block)
    (hb' : Block isHead block') (hr : ∀ line ∈ rest.head?, isHead line = true)
    (hr' : ∀ line ∈ rest'.head?, isHead line = true) (h : block ++ rest = block' ++ rest') :
    block = block' ∧ rest = rest' := by
  obtain ⟨head, tail, rfl, -, htail⟩ := hb
  obtain ⟨head', tail', rfl, -, htail'⟩ := hb'
  obtain ⟨rfl, hlines⟩ := List.cons.inj h
  obtain ⟨rfl, rfl⟩ := append_inj_of_head (p := (!isHead ·)) (by simpa using htail)
    (by simpa using htail') (by simpa using hr) (by simpa using hr') hlines
  exact ⟨rfl, rfl⟩

variable {α : Type} {lines : Nat → α → List Text}

/-- What holds of the lines of each item holds of all lines. -/
theorem forall_mem_flatten_mapIdx {P : Text → Prop} {items : List α}
    (h : ∀ i, ∀ a ∈ items, ∀ line ∈ lines i a, P line) :
    ∀ line ∈ (items.mapIdx lines).flatten, P line := by
  intro line hline
  obtain ⟨block, hblock, hline⟩ := List.mem_flatten.mp hline
  obtain ⟨i, hi, rfl⟩ := List.mem_mapIdx.mp hblock
  exact h i _ (List.getElem_mem hi) line hline

theorem head?_flatten_mapIdx (hblock : ∀ i a, Block isHead (lines i a)) (items : List α) :
    ∀ line ∈ (items.mapIdx lines).flatten.head?, isHead line = true := by
  cases items with
  | nil => simp
  | cons a items =>
      obtain ⟨head, tail, hlines, hhead, -⟩ := hblock 0 a
      intro line hline
      rw [List.mapIdx_cons, List.flatten_cons, hlines] at hline
      obtain rfl : head = line := Option.some.inj hline
      exact hhead

/-- Items that are listed in a row, each in a block of its own, are told from the lines. -/
theorem flatten_mapIdx_injective {P : α → Prop} (hblock : ∀ i a, Block isHead (lines i a))
    (hinj : ∀ i a b, P a → P b → lines i a = lines i b → a = b) {items others : List α}
    (hi : ∀ a ∈ items, P a) (ho : ∀ a ∈ others, P a)
    (h : (items.mapIdx lines).flatten = (others.mapIdx lines).flatten) : items = others := by
  induction items generalizing others lines with
  | nil =>
      cases others with
      | nil => rfl
      | cons b others =>
          obtain ⟨head, tail, hlines, -⟩ := hblock 0 b
          simp [List.mapIdx_cons, hlines] at h
  | cons a items ih =>
      cases others with
      | nil =>
          obtain ⟨head, tail, hlines, -⟩ := hblock 0 a
          simp [List.mapIdx_cons, hlines] at h
      | cons b others =>
          obtain ⟨ha, hi⟩ := List.forall_mem_cons.mp hi
          obtain ⟨hb, ho⟩ := List.forall_mem_cons.mp ho
          have hnext : ∀ i a, Block isHead (lines (i + 1) a) := fun i a => hblock (i + 1) a
          rw [List.mapIdx_cons, List.mapIdx_cons, List.flatten_cons, List.flatten_cons] at h
          obtain ⟨hfirst, hrest⟩ := (hblock 0 a).append_inj (hblock 0 b)
            (head?_flatten_mapIdx hnext items) (head?_flatten_mapIdx hnext others) h
          rw [hinj 0 a b ha hb hfirst, ih hnext (fun i => hinj (i + 1)) hi ho hrest]

end Blocks

/-! ### Lines that may be left out -/

section Optional

variable {α : Type} {heading : String} {shown : List α → Text} {items others : List α}

theorem forall_mem_optionalLine {P : Text → Prop} :
    (∀ line ∈ optionalLine heading shown items, P line) ↔
      (items ≠ [] → P (heading.toList ++ shown items)) := by
  cases items <;> simp [optionalLine]

/-- A line that may be left out tells what it lists. -/
theorem optionalLine_injective (hinj : shown items = shown others → items = others)
    (h : optionalLine heading shown items = optionalLine heading shown others) :
    items = others := by
  cases items with
  | nil =>
      cases others with
      | nil => rfl
      | cons b others => simp [optionalLine] at h
  | cons a items =>
      cases others with
      | nil => simp [optionalLine] at h
      | cons b others =>
          have hline := (List.cons.inj h).1
          exact hinj (List.append_cancel_left hline)

/-- Before lines of another kind it does so too, and tells those lines. -/
theorem optionalLine_append_inj {p : Text → Bool} {rest rest' : List Text}
    (hp : ∀ listed, p (heading.toList ++ listed) = true) (hr : ∀ line ∈ rest, p line = false)
    (hr' : ∀ line ∈ rest', p line = false) (hinj : shown items = shown others → items = others)
    (h : optionalLine heading shown items ++ rest = optionalLine heading shown others ++ rest') :
    items = others ∧ rest = rest' := by
  have hline : ∀ items, ∀ line ∈ optionalLine heading shown items, p line = true := fun items =>
    forall_mem_optionalLine.mpr fun _ => hp _
  obtain ⟨hopt, hrest⟩ := append_inj_of_head (hline items) (hline others)
    (fun line hl => hr line (List.mem_of_mem_head? hl))
    (fun line hl => hr' line (List.mem_of_mem_head? hl)) h
  exact ⟨optionalLine_injective hinj hopt, hrest⟩

end Optional

end Report

end PadGraph
