import Mathlib.Logic.Basic
import PadGraph.Text

/-!
# Patterns and their longest match

A regular pattern over characters, what it matches, and the longest front of a text that it matches.
The latter is found by reading the text: what is left of a pattern behind a character is a pattern
again, its derivative.

* `Pattern`, `Pattern.Matches` — patterns and the texts that they match.
* `Pattern.nullable`, `Pattern.derive` — whether the empty text is matched, and what is left behind
  a character.
* `Pattern.longest?` — the longest front of a text that is matched, and what stands behind it.
* `matches_nil_iff`, `matches_derive_iff` — what the two say of the matched texts.
* **`longest?_eq_some_iff`**, **`longest?_eq_none_iff`** — the front that is found is matched and no
  matched front is longer, and there is none only when no front is matched.
-/

namespace PadGraph

/-- Regular patterns over characters. -/
inductive Pattern where
  /-- Matches nothing, not even the empty text. -/
  | never
  /-- Matches the empty text. -/
  | empty
  /-- Matches one character out of a class. -/
  | one (among : Char → Bool)
  | seq (first second : Pattern)
  | either (left right : Pattern)
  /-- Any number of matches in a row, also none. -/
  | many (pattern : Pattern)

namespace Pattern

/-- One given character. -/
def char (c : Char) : Pattern := one (· == c)

/-- The texts that a pattern matches. -/
inductive Matches : Pattern → Text → Prop
  | empty : Matches empty []
  | one {among : Char → Bool} {c : Char} : among c = true → Matches (one among) [c]
  | seq {p q : Pattern} {front back : Text} :
      Matches p front → Matches q back → Matches (seq p q) (front ++ back)
  | left {p q : Pattern} {text : Text} : Matches p text → Matches (either p q) text
  | right {p q : Pattern} {text : Text} : Matches q text → Matches (either p q) text
  | none {p : Pattern} : Matches (many p) []
  | more {p : Pattern} {front back : Text} :
      Matches p front → Matches (many p) back → Matches (many p) (front ++ back)

section Matching

variable {p q : Pattern} {text : Text}

theorem not_matches_never : ¬ Matches never text := by
  intro h
  cases h

theorem matches_empty_iff : Matches empty text ↔ text = [] := by
  constructor
  · intro h
    cases h
    rfl
  · rintro rfl
    exact .empty

theorem matches_one_iff {among : Char → Bool} :
    Matches (one among) text ↔ ∃ c, among c = true ∧ text = [c] := by
  constructor
  · intro h
    cases h with
    | one hc => exact ⟨_, hc, rfl⟩
  · rintro ⟨c, hc, rfl⟩
    exact .one hc

theorem matches_char_iff {c : Char} : Matches (char c) text ↔ text = [c] := by
  simp [char, matches_one_iff]

theorem matches_seq_iff :
    Matches (seq p q) text ↔ ∃ front back, p.Matches front ∧ q.Matches back ∧ text = front ++ back := by
  constructor
  · intro h
    cases h with
    | seq hp hq => exact ⟨_, _, hp, hq, rfl⟩
  · rintro ⟨front, back, hp, hq, rfl⟩
    exact .seq hp hq

theorem matches_either_iff : Matches (either p q) text ↔ p.Matches text ∨ q.Matches text := by
  constructor
  · intro h
    cases h with
    | left hp => exact .inl hp
    | right hq => exact .inr hq
  · rintro (hp | hq)
    · exact .left hp
    · exact .right hq

/-- A match in a row that begins with `c` has a first match that does. -/
theorem exists_of_matches_many_cons {c : Char} (h : Matches (many p) (c :: text)) :
    ∃ front back, p.Matches (c :: front) ∧ Matches (many p) back ∧ text = front ++ back := by
  -- empty matches may come first, so this is by induction on the row
  generalize hrow : many p = row at h
  generalize hall : c :: text = all at h
  induction h with
  | none => cases hall
  | @more r front back hfirst hrest _ ih =>
      obtain rfl : p = r := Pattern.many.inj hrow
      cases front with
      | nil => exact ih hrow hall
      | cons d front =>
          obtain ⟨rfl, rfl⟩ := List.cons.inj hall
          exact ⟨front, back, hfirst, hrest, rfl⟩
  | empty => cases hrow
  | one => cases hrow
  | seq => cases hrow
  | left => cases hrow
  | right => cases hrow

end Matching

/-! ### Reading a text along a pattern -/

/-- Whether the empty text is matched. -/
def nullable : Pattern → Bool
  | never => false
  | empty => true
  | one _ => false
  | seq p q => p.nullable && q.nullable
  | either p q => p.nullable || q.nullable
  | many _ => true

/-- What is left of a pattern behind the character `c`. -/
def derive (c : Char) : Pattern → Pattern
  | never => never
  | empty => never
  | one among => if among c then empty else never
  | seq p q => if p.nullable then either (seq (p.derive c) q) (q.derive c) else seq (p.derive c) q
  | either p q => either (p.derive c) (q.derive c)
  | many p => seq (p.derive c) (many p)

theorem matches_nil_iff (p : Pattern) : p.Matches [] ↔ p.nullable = true := by
  induction p with
  | never => simp [nullable, not_matches_never]
  | empty => simp [nullable, matches_empty_iff]
  | one among => simp [nullable, matches_one_iff]
  | seq p q hp hq =>
      rw [matches_seq_iff, nullable, Bool.and_eq_true, ← hp, ← hq]
      constructor
      · rintro ⟨front, back, hfront, hback, hnil⟩
        obtain ⟨rfl, rfl⟩ := List.append_eq_nil_iff.mp hnil.symm
        exact ⟨hfront, hback⟩
      · rintro ⟨hfront, hback⟩
        exact ⟨[], [], hfront, hback, rfl⟩
  | either p q hp hq => rw [matches_either_iff, nullable, Bool.or_eq_true, hp, hq]
  | many p _ => exact iff_of_true .none rfl

/-- **A derivative matches what may stand behind the character.** -/
theorem matches_derive_iff (p : Pattern) (c : Char) (text : Text) :
    (p.derive c).Matches text ↔ p.Matches (c :: text) := by
  induction p generalizing text with
  | never => simp [derive, not_matches_never]
  | empty => simp [derive, not_matches_never, matches_empty_iff]
  | one among =>
      have hone : (one among).Matches (c :: text) ↔ among c = true ∧ text = [] := by
        rw [matches_one_iff]
        constructor
        · rintro ⟨d, hd, hall⟩
          obtain ⟨rfl, rfl⟩ := List.cons.inj hall
          exact ⟨hd, rfl⟩
        · rintro ⟨hc, rfl⟩
          exact ⟨c, hc, rfl⟩
      rw [hone, derive]
      split
      · next hc => simp [matches_empty_iff, hc]
      · next hc => simp [not_matches_never, hc]
  | seq p q hp hq =>
      have hfront : (seq (p.derive c) q).Matches text ↔
          ∃ front back, p.Matches (c :: front) ∧ q.Matches back ∧ text = front ++ back := by
        simp only [matches_seq_iff, hp]
      -- the character belongs to the first pattern, unless that one matches the empty text
      have hsplit : (seq p q).Matches (c :: text) ↔
          (seq (p.derive c) q).Matches text ∨ p.nullable = true ∧ q.Matches (c :: text) := by
        rw [hfront, matches_seq_iff, ← matches_nil_iff]
        constructor
        · rintro ⟨front, back, hfirst, hsecond, hall⟩
          cases front with
          | nil => exact .inr ⟨hfirst, by rwa [hall]⟩
          | cons d front =>
              obtain ⟨rfl, rfl⟩ := List.cons.inj hall
              exact .inl ⟨front, back, hfirst, hsecond, rfl⟩
        · rintro (⟨front, back, hfirst, hsecond, rfl⟩ | ⟨hnil, hsecond⟩)
          · exact ⟨c :: front, back, hfirst, hsecond, rfl⟩
          · exact ⟨[], c :: text, hnil, hsecond, rfl⟩
      rw [hsplit, derive]
      split
      · next hnull => simp [matches_either_iff, hq, hnull]
      · next hnull => simp [hnull]
  | either p q hp hq => rw [derive, matches_either_iff, matches_either_iff, hp, hq]
  | many p hp =>
      rw [derive, matches_seq_iff]
      constructor
      · rintro ⟨front, back, hfirst, hrest, rfl⟩
        exact .more ((hp front).mp hfirst) hrest
      · intro h
        obtain ⟨front, back, hfirst, hrest, rfl⟩ := exists_of_matches_many_cons h
        exact ⟨front, back, (hp front).mpr hfirst, hrest, rfl⟩

/-- The longest front of a text that a pattern matches, and what stands behind it. -/
def longest? (p : Pattern) : Text → Option (Text × Text)
  | [] => if p.nullable then some ([], []) else none
  | c :: text =>
    match (p.derive c).longest? text with
    | some (front, back) => some (c :: front, back)
    | none => if p.nullable then some ([], c :: text) else none

/-- A front of a text that a pattern matches, none being longer. -/
structure Longest (p : Pattern) (text front back : Text) : Prop where
  split : text = front ++ back
  matched : p.Matches front
  longest : ∀ front' back', text = front' ++ back' → p.Matches front' →
    front'.length ≤ front.length

/-- What is found is a longest match, and nothing is found only when no front is matched. -/
theorem longest?_sound (p : Pattern) (text : Text) :
    match p.longest? text with
    | some (front, back) => Longest p text front back
    | none => ∀ front back, text = front ++ back → ¬ p.Matches front := by
  induction text generalizing p with
  | nil =>
      have hfront : ∀ front back : Text, [] = front ++ back → front = [] := by
        intro front back h
        exact (List.append_eq_nil_iff.mp h.symm).1
      rw [longest?]
      by_cases hnull : p.nullable = true
      · rw [if_pos hnull]
        refine ⟨rfl, p.matches_nil_iff.mpr hnull, fun front back h _ => ?_⟩
        simp [hfront front back h]
      · rw [if_neg hnull]
        intro front back h hm
        rw [hfront front back h] at hm
        exact hnull (p.matches_nil_iff.mp hm)
  | cons c text ih =>
      have hrest := ih (p.derive c)
      rw [longest?]
      cases hd : (p.derive c).longest? text with
      | some found =>
          obtain ⟨front, back⟩ := found
          rw [hd] at hrest
          obtain ⟨rfl, hmatched, hlongest⟩ := hrest
          refine ⟨rfl, (p.matches_derive_iff c front).mp hmatched, fun front' back' h hm => ?_⟩
          cases front' with
          | nil => simp
          | cons d front' =>
              obtain ⟨rfl, htext⟩ := List.cons.inj h
              have hle := hlongest front' back' htext ((p.matches_derive_iff c front').mpr hm)
              simpa using hle
      | none =>
          rw [hd] at hrest
          -- only the empty front is left
          have hnil : ∀ front back, c :: text = front ++ back → p.Matches front → front = [] := by
            intro front back h hm
            cases front with
            | nil => rfl
            | cons d front =>
                obtain ⟨rfl, htext⟩ := List.cons.inj h
                exact absurd ((p.matches_derive_iff c front).mpr hm) (hrest front back htext)
          by_cases hnull : p.nullable = true
          · rw [if_pos hnull]
            refine ⟨rfl, p.matches_nil_iff.mpr hnull, fun front back h hm => ?_⟩
            simp [hnil front back h hm]
          · rw [if_neg hnull]
            intro front back h hm
            rw [hnil front back h hm] at hm
            exact hnull (p.matches_nil_iff.mp hm)

theorem Longest.unique {p : Pattern} {text front back front' back' : Text}
    (h : Longest p text front back) (h' : Longest p text front' back') :
    front = front' ∧ back = back' := by
  have hle := h.longest front' back' h'.split h'.matched
  have hge := h'.longest front back h.split h.matched
  have hall : front ++ back = front' ++ back' := h.split.symm.trans h'.split
  exact List.append_inj hall (by omega)

theorem longest?_eq_some_iff {p : Pattern} {text front back : Text} :
    p.longest? text = some (front, back) ↔ Longest p text front back := by
  have hsound := p.longest?_sound text
  constructor
  · intro h
    rw [h] at hsound
    exact hsound
  · intro h
    cases hl : p.longest? text with
    | none =>
        rw [hl] at hsound
        exact absurd h.matched (hsound front back h.split)
    | some found =>
        obtain ⟨front', back'⟩ := found
        rw [hl] at hsound
        have hfound : Longest p text front' back' := hsound
        obtain ⟨rfl, rfl⟩ := h.unique hfound
        rfl

theorem longest?_eq_none_iff {p : Pattern} {text : Text} :
    p.longest? text = none ↔ ∀ front back, text = front ++ back → ¬ p.Matches front := by
  have hsound := p.longest?_sound text
  constructor
  · intro h
    rw [h] at hsound
    exact hsound
  · intro h
    cases hl : p.longest? text with
    | none => rfl
    | some found =>
        obtain ⟨front, back⟩ := found
        rw [hl] at hsound
        have hfound : Longest p text front back := hsound
        exact absurd hfound.matched (h front back hfound.split)

end Pattern

end PadGraph
