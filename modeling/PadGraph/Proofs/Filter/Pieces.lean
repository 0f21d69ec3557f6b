import PadGraph.Filter
import PadGraph.Proofs.Token.Split
import PadGraph.Proofs.Token.WellFormed

/-!
# Arguments by their pieces

An argument is read in one pass that keeps a key, a value and the piece being read. What comes of it
is said by the non-empty pieces between its equals signs alone: the first is the key, and the last
one behind it the value.

* `Argument.ofPieces?` — the argument with given pieces.
* **`Argument.ofTokens?_eq`** — an argument is read by its pieces.
* `Argument.texts`, `Argument.texts_of_ofPieces?` — the texts of an argument, which are pieces of it.
* `FilterSpec.ofTokens_free`, `FilterSpec.ofTokens_cut` — a filter without an equals sign is a name,
  and one with an equals sign a name and its arguments.
-/

namespace PadGraph

/-- The character between a name and its arguments, and between a key and its value. -/
def assignMark : Char := '='

namespace Argument

/-- The argument with given pieces between its equals signs: the first piece is the key, and the
last one behind it the value. -/
def ofPieces? : List (List Token) → Option Argument
  | [] => none
  | key :: values => some ⟨PadGraph.render key, values.getLast?.map PadGraph.render⟩

namespace Draft

/-- What a non-empty piece does to a draft in which no piece is being read. -/
def put (d : Draft) (piece : List Token) : Draft :=
  match d.key with
  | none => { key := some (PadGraph.render piece), value := d.value }
  | some key => { key := some key, value := some (PadGraph.render piece) }

/-- Tokens without an equals sign are added to the piece being read. -/
theorem foldl_read_free {tokens : List Token} (h : FreeOf [assignMark] tokens) (d : Draft) :
    tokens.foldl read d = { d with piece := (PadGraph.render tokens).reverse ++ d.piece } := by
  induction tokens generalizing d with
  | nil => rfl
  | cons t ts ih =>
      obtain ⟨ht, hts⟩ := freeOf_cons.mp h
      have hread : d.read t = { d with piece := t.text.reverse ++ d.piece } := by
        rw [read, if_neg]
        simpa [assignMark] using ht
      rw [List.foldl_cons, hread, ih hts]
      simp

/-- Ending a piece that has been read puts it into the draft, unless it is empty. -/
theorem close_piece {tokens : List Token} (h : ∀ t ∈ tokens, t.text ≠ []) (d : Draft)
    (hd : d.piece = []) :
    close { d with piece := (PadGraph.render tokens).reverse } =
      if tokens = [] then d else d.put tokens := by
  split
  · next hnil =>
    obtain ⟨key, value, piece⟩ := d
    subst hd hnil
    rfl
  · next hne =>
    have hrender : (PadGraph.render tokens).reverse ≠ [] := by
      simpa [render_eq_nil h] using hne
    obtain ⟨c, rest, hc⟩ := List.exists_cons_of_ne_nil hrender
    have hrest : rest.reverse ++ [c] = PadGraph.render tokens := by
      rw [← List.reverse_cons, ← hc, List.reverse_reverse]
    cases hk : d.key <;> simp [close, put, hc, hk, hrest]

theorem put_piece (d : Draft) (tokens : List Token) : (d.put tokens).piece = [] := by
  cases hk : d.key <;> simp [put, hk]

/-- **One pass is one step for each piece.** -/
theorem close_foldl_read {tokens : List Token} (h : ∀ t ∈ tokens, t.text ≠ []) (d : Draft)
    (hd : d.piece = []) :
    (tokens.foldl read d).close = (split assignMark tokens).foldl put d := by
  induction tokens using split_induction assignMark generalizing d with
  | piece tokens hfree =>
      rw [foldl_read_free hfree, hd, List.append_nil, close_piece h d hd]
      split
      · next hnil => simp [hnil]
      · next hne => simp [hfree.split_eq hne]
  | cut front back hfree ih =>
      have hfront : ∀ t ∈ front, t.text ≠ [] := fun t ht => h t (by simp [ht])
      have hback : ∀ t ∈ back, t.text ≠ [] := fun t ht => h t (by simp [ht])
      have hmark : ∀ d : Draft, d.read (.plain assignMark) = d.close := fun d => by
        simp [read, Token.isPlain, assignMark]
      rw [List.foldl_append, List.foldl_cons, hmark, foldl_read_free hfree, hd, List.append_nil,
        close_piece hfront d hd]
      split
      · next hnil => rw [hnil, List.nil_append, split_separator_cons, ih hback d hd]
      · next hne =>
        rw [split_piece_cons hne hfree, List.foldl_cons, ih hback _ (put_piece d front)]

theorem foldl_put (key : Text) (value : Option Text) (pieces : List (List Token)) :
    pieces.foldl put { key := some key, value } =
      { key := some key, value := (pieces.getLast?.map PadGraph.render).or value } := by
  induction pieces generalizing value with
  | nil => simp
  | cons piece pieces ih =>
      rw [List.foldl_cons, show put { key := some key, value } piece =
        { key := some key, value := some (PadGraph.render piece) } from rfl, ih]
      cases pieces with
      | nil => simp
      | cons next pieces => simp [List.getLast?_cons]

end Draft

/-- **An argument is read by its pieces.** -/
theorem ofTokens?_eq {tokens : List Token} (h : ∀ t ∈ tokens, t.text ≠ []) :
    ofTokens? tokens = ofPieces? (split assignMark tokens) := by
  rw [ofTokens?, Draft.close_foldl_read h {} rfl]
  cases split assignMark tokens with
  | nil => rfl
  | cons key values =>
      rw [List.foldl_cons, show Draft.put {} key = { key := some (PadGraph.render key) } from rfl,
        Draft.foldl_put]
      simp [ofPieces?]

def texts (argument : Argument) : List Text := argument.key :: argument.value.toList

/-- The texts of an argument are the written forms of some of its pieces, in their order. -/
theorem texts_of_ofPieces? {pieces : List (List Token)} {argument : Argument}
    (h : ofPieces? pieces = some argument) :
    ∃ kept : List (List Token), kept.Sublist pieces ∧ argument.texts = kept.map PadGraph.render := by
  cases pieces with
  | nil => simp [ofPieces?] at h
  | cons key values =>
      obtain rfl : _ = argument := by simpa [ofPieces?] using h
      refine ⟨key :: values.getLast?.toList, List.Sublist.cons_cons key ?_, ?_⟩
      · rcases List.eq_nil_or_concat' values with rfl | ⟨front, value, rfl⟩ <;> simp
      · cases values.getLast? <;> rfl

/-- An argument whose texts are the written forms of given pieces is the argument of these. -/
theorem ofPieces?_texts {pieces : List (List Token)} {argument : Argument}
    (h : argument.texts = pieces.map PadGraph.render) : ofPieces? pieces = some argument := by
  obtain ⟨key, value⟩ := argument
  cases pieces with
  | nil => simp [texts] at h
  | cons piece pieces =>
      obtain ⟨rfl, hvalue⟩ := List.cons.inj h
      cases value with
      | none =>
          obtain rfl : pieces = [] := by simpa using hvalue.symm
          rfl
      | some value =>
          cases pieces with
          | nil => simp at hvalue
          | cons last rest =>
              obtain ⟨rfl, hrest⟩ := List.cons.inj hvalue
              obtain rfl : rest = [] := by simpa using hrest.symm
              rfl

end Argument

namespace FilterSpec

theorem ofTokens_free {tokens : List Token} (h : FreeOf [assignMark] tokens) :
    ofTokens tokens = ⟨render tokens, []⟩ := by
  have hall : ∀ t ∈ tokens, (!t.isPlain '=') = true := fun t ht => by
    simpa [assignMark] using h t ht
  rw [← List.append_nil tokens, ofTokens, List.takeWhile_append_of_pos hall,
    List.dropWhile_append_of_pos hall]
  simp [PadGraph.arguments]

/-- The first equals sign of a filter ends its name, and behind it stand its arguments. -/
theorem ofTokens_cut {name : List Token} (h : FreeOf [assignMark] name) (behind : List Token) :
    ofTokens (name ++ .plain assignMark :: behind) =
      ⟨render name, (PadGraph.arguments behind).filterMap Argument.ofTokens?⟩ := by
  have hall : ∀ t ∈ name, (!t.isPlain '=') = true := fun t ht => by
    simpa [assignMark] using h t ht
  rw [ofTokens, List.takeWhile_append_of_pos hall, List.dropWhile_append_of_pos hall]
  simp [Token.isPlain, assignMark]

end FilterSpec

end PadGraph
