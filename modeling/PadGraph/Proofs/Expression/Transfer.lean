import Mathlib.Logic.Relation
import PadGraph.Proofs.Expression.Read

/-!
# Bounded reads

A source hands over its bytes in pieces, of which only the greatest length can be asked for. A
bounded read asks again and again, until the bound is reached or nothing is left. However the source
cuts its pieces, the same bytes are read and the same are left, and what comes of them is decided by
the source alone: it has too many bytes, or it is no text, or it is the text that was read.

* `Transfer`, `Transfer.Step`, `Transfer.Ended` — a bounded read under way.
* `Transfer.Accounts.step`, `Transfer.Accounts.run` — no byte is lost or counted twice.
* `Transfer.ended_iff` — where every run ends.
* **`readLimited_exact`** — what a bounded read takes of its source, and what comes of it.
-/

namespace PadGraph

/-- A bounded read under way. -/
structure Transfer where
  received : List UInt8
  /-- How many more bytes may be asked for. -/
  budget : Nat
  /-- What the source has not handed over yet. -/
  left : List UInt8

namespace Transfer

/-- One request: the source hands over at least one byte, and no more than may be asked for. -/
inductive Step : Transfer → Transfer → Prop where
  | receive (t : Transfer) (count : Nat) (hpos : 0 < count) (hbudget : count ≤ t.budget)
    (hleft : count ≤ t.left.length) :
    Step t ⟨t.received ++ t.left.take count, t.budget - count, t.left.drop count⟩

/-- Nothing more may be asked for, or nothing is left. -/
def Ended (t : Transfer) : Prop := t.budget = 0 ∨ t.left = []

/-- What has been received and what is left are the source, and the bytes that were received are no
longer in the budget. -/
structure Accounts (bound : Nat) (source : List UInt8) (t : Transfer) : Prop where
  source_eq : t.received ++ t.left = source
  bound_eq : t.received.length + t.budget = bound

variable {bound : Nat} {source : List UInt8} {t t' : Transfer}

theorem Accounts.step (h : Accounts bound source t) (hstep : Step t t') :
    Accounts bound source t' := by
  obtain ⟨hsource, hbound⟩ := h
  cases hstep with
  | receive count hpos hbudget hleft =>
      constructor
      · rw [List.append_assoc, List.take_append_drop]
        exact hsource
      · show (t.received ++ t.left.take count).length + (t.budget - count) = bound
        rw [List.length_append, List.length_take]
        omega

theorem Accounts.run (h : Accounts bound source t) (hrun : Relation.ReflTransGen Step t t') :
    Accounts bound source t' := by
  induction hrun with
  | refl => exact h
  | tail _ hstep ih => exact ih.step hstep

/-- A read that has ended has taken as much of the source as the bound allows. -/
theorem Accounts.eq_of_ended (h : Accounts bound source t) (hended : t.Ended) :
    t = ⟨source.take bound, bound - source.length, source.drop bound⟩ := by
  obtain ⟨received, budget, left⟩ := t
  obtain ⟨rfl, rfl⟩ := h
  rcases hended with hbudget | hleft
  · obtain rfl : budget = 0 := hbudget
    simp
  · obtain rfl : left = [] := hleft
    simp [List.take_of_length_le]

/-- Every run ends in the same place, and there is one. -/
theorem ended_iff :
    (Relation.ReflTransGen Step ⟨[], bound, source⟩ t ∧ t.Ended) ↔
      t = ⟨source.take bound, bound - source.length, source.drop bound⟩ := by
  have hstart : Accounts bound source ⟨[], bound, source⟩ := ⟨rfl, Nat.zero_add bound⟩
  constructor
  · rintro ⟨hrun, hended⟩
    exact (hstart.run hrun).eq_of_ended hended
  · rintro rfl
    by_cases hended : Ended ⟨[], bound, source⟩
    · rw [← hstart.eq_of_ended hended]
      exact ⟨.refl, hended⟩
    · -- the source may hand over at once all that the bound allows
      obtain ⟨hbound, hsource⟩ := not_or.mp hended
      have hlength : 0 < source.length := List.length_pos_iff.mpr hsource
      have hpos : 0 < min bound source.length := by
        have hbound : bound ≠ 0 := hbound
        omega
      have hstep := Step.receive ⟨[], bound, source⟩ (min bound source.length) hpos
        (Nat.min_le_left _ _) (Nat.min_le_right _ _)
      have hafter := hstart.step hstep
      have hafterEnded : Ended ⟨[] ++ source.take (min bound source.length),
          bound - min bound source.length, source.drop (min bound source.length)⟩ := by
        rcases Nat.le_total bound source.length with hle | hle
        · exact .inl (by simp [hle])
        · exact .inr (by simp [hle])
      rw [← hafter.eq_of_ended hafterEnded]
      exact ⟨.single hstep, hafterEnded⟩

end Transfer

/-- **Bounded reads are exact.** Let a source have no more bytes than 64 bits can count.

However it hands them over, what is read of it are its first bytes, one more than the limit allows
if there are so many and 64 bits can tell that number; the others are left. A text comes of it
exactly when its bytes are those of the text and keep to the limit. When there are more, it is
refused for that reason, whatever the bytes are; and when they keep to the limit and are no text, it
is refused for the first fault in them. -/
theorem readLimited_exact (limits : Limits) (source : List UInt8)
    (hlength : source.length < UInt64.size) :
    (∃ read, source = read ++ (readLimited limits source).unread ∧
      read.length = min source.length (min (limits.maxInputLen.toNat + 1) (2 ^ 64 - 1)) ∧
      ∀ t, (Relation.ReflTransGen Transfer.Step ⟨[], limits.readBound, source⟩ t ∧ t.Ended) ↔
        t = ⟨read, limits.readBound - source.length, (readLimited limits source).unread⟩) ∧
    (∀ text, (readLimited limits source).outcome = .ok text ↔
      source.length ≤ limits.maxInputLen.toNat ∧ Utf8.encode text = source) ∧
    ((readLimited limits source).outcome = .error ⟨.overLimit limits, []⟩ ↔
      limits.maxInputLen.toNat < source.length) ∧
    ((∃ fault, Utf8.decode source = .error fault ∧
        (readLimited limits source).outcome = .error ⟨.notUtf8, [.utf8 fault]⟩) ↔
      source.length ≤ limits.maxInputLen.toNat ∧ ∀ text, Utf8.encode text ≠ source) := by
  refine ⟨?_, ?_⟩
  · refine ⟨source.take limits.readBound, (List.take_append_drop _ _).symm, ?_, ?_⟩
    · rw [List.length_take, Nat.min_comm]
      rfl
    · intro t
      exact Transfer.ended_iff
  · rcases Nat.lt_or_ge limits.allowed source.length with hlt | hle
    · have hover := readLimited_of_lt hlt hlength
      have hnot : ¬ source.length ≤ limits.maxInputLen.toNat := Nat.not_le.mpr hlt
      have hlt : limits.maxInputLen.toNat < source.length := hlt
      simp [hover, hnot, hlt]
    · have hfits := readLimited_of_le hle
      have hle : source.length ≤ limits.maxInputLen.toNat := hle
      cases hdecode : Utf8.decode source with
      | ok text =>
          rw [hdecode] at hfits
          simp [hfits, hle, ← Utf8.decode_eq_ok_iff, hdecode, Except.mapError]
      | error fault =>
          have hbytes : ∀ text, Utf8.encode text ≠ source := by
            intro text htext
            rw [Utf8.decode_eq_ok_iff.mpr htext] at hdecode
            cases hdecode
          rw [hdecode] at hfits
          simp [hfits, hle, hbytes, Except.mapError]

/-- A source of one character that the bound cuts and the limit does not allow, an empty one when
nothing is allowed, and one that is no text under the greatest limit. -/
theorem readLimited_exact_boundary :
    (readLimited ⟨1⟩ [0xE2, 0x82, 0xAC]).unread = [0xAC] ∧
    (readLimited ⟨1⟩ [0xE2, 0x82, 0xAC]).outcome = .error ⟨.overLimit ⟨1⟩, []⟩ ∧
    (readLimited ⟨3⟩ [0xE2, 0x82, 0xAC]).outcome = .ok ['€'] ∧
    (readLimited ⟨0⟩ []).outcome = .ok [] ∧
    ∃ fault, (readLimited ⟨0xFFFFFFFFFFFFFFFF⟩ [0xE2, 0x82]).outcome =
      .error ⟨.notUtf8, [.utf8 fault]⟩ := by
  have hlength : [0xE2, 0x82, 0xAC].length < UInt64.size := by decide
  obtain ⟨-, -, hover, -⟩ := readLimited_exact ⟨1⟩ [0xE2, 0x82, 0xAC] hlength
  obtain ⟨-, hfits, -, -⟩ := readLimited_exact ⟨3⟩ [0xE2, 0x82, 0xAC] hlength
  obtain ⟨-, hnothing, -, -⟩ := readLimited_exact ⟨0⟩ [] (by decide)
  obtain ⟨-, -, -, hcut⟩ := readLimited_exact ⟨0xFFFFFFFFFFFFFFFF⟩ [0xE2, 0x82] (by decide)
  have hcutBytes : ∀ text, Utf8.encode text ≠ [0xE2, 0x82] := by
    intro text htext
    have hdecode : Utf8.decode [0xE2, 0x82] = .error (.incomplete 0) := by decide
    rw [Utf8.decode_eq_ok_iff.mpr htext] at hdecode
    cases hdecode
  obtain ⟨fault, -, hfault⟩ := hcut.mpr ⟨by decide, hcutBytes⟩
  refine ⟨by decide, hover.mpr (by decide), (hfits _).mpr ⟨by decide, by decide⟩, ?_, fault, hfault⟩
  exact (hnothing _).mpr ⟨by decide, rfl⟩

end PadGraph
