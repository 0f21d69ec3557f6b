import PadGraph.Expression.Read
import PadGraph.Proofs.Text.Utf8

/-!
# Limits

A limit is looked at twice, by different means: a source of bytes is read no further than it takes to
tell that there are too many, and a text is measured as a whole. Both come to the same.

* `checkLength_of_le`, `checkLength_of_lt`, `parseExpression_of_le`, `parseExpression_of_lt` — texts
  that are measured.
* `parseExpression_eq_ok_iff` — the texts of which a graph is read.
* `Limits.allowed_le_readBound`, `Limits.allowed_lt_readBound` — how far a source is read.
* `readLimited_of_le`, `readLimited_of_lt` — what is read of a source that keeps to the limit, and of
  one that does not.
* `byteLength_le_of_readLimited` — a text that was read keeps to the limit.
-/

namespace PadGraph

/-- The greatest number of bytes that limits allow. -/
def Limits.allowed (limits : Limits) : Nat := limits.maxInputLen.toNat

theorem Limits.allowed_lt (limits : Limits) : limits.allowed < UInt64.size :=
  limits.maxInputLen.toNat_lt_size

/-! ### Texts -/

section Texts

variable {limits : Limits} {text : Text}

theorem checkLength_of_le (h : Utf8.byteLength text ≤ limits.allowed) :
    checkLength limits text = .ok () := by
  rw [checkLength]
  exact if_neg (Nat.not_lt.mpr h)

theorem checkLength_of_lt (h : limits.allowed < Utf8.byteLength text) :
    checkLength limits text = .error ⟨.tooLong (Utf8.byteLength text) limits, []⟩ := by
  rw [checkLength]
  exact if_pos h

/-- A text that keeps to the limit is read as a graph, or the error is passed on as the cause. -/
theorem parseExpression_of_le (h : Utf8.byteLength text ≤ limits.allowed) :
    parseExpression limits text =
      (parse text).mapError fun error => ⟨.invalidGraph, [.chain error]⟩ := by
  rw [parseExpression, checkLength_of_le h]
  cases parse text <;> rfl

theorem parseExpression_of_lt (h : limits.allowed < Utf8.byteLength text) :
    parseExpression limits text = .error ⟨.tooLong (Utf8.byteLength text) limits, []⟩ := by
  rw [parseExpression, checkLength_of_lt h]
  rfl

/-- A graph is read of a text that keeps to the limit, and of no other. -/
theorem parseExpression_eq_ok_iff {graph : Graph} :
    parseExpression limits text = .ok graph ↔
      Utf8.byteLength text ≤ limits.allowed ∧ parse text = .ok graph := by
  by_cases hle : Utf8.byteLength text ≤ limits.allowed
  · rw [parseExpression_of_le hle]
    cases parse text with
    | ok read => simp [Except.mapError, hle]
    | error error => simp [Except.mapError]
  · rw [parseExpression_of_lt (Nat.lt_of_not_le hle)]
    simp [hle]

theorem byteLength_le_of_parseExpression {graph : Graph}
    (h : parseExpression limits text = .ok graph) : Utf8.byteLength text ≤ limits.allowed :=
  (parseExpression_eq_ok_iff.mp h).1

end Texts

/-! ### Sources -/

namespace Limits

variable (limits : Limits)

theorem readBound_eq : limits.readBound = min (limits.allowed + 1) (UInt64.size - 1) := rfl

theorem allowed_le_readBound : limits.allowed ≤ limits.readBound := by
  have hlt := limits.allowed_lt
  rw [readBound_eq]
  omega

/-- A source with too many bytes, but no more than 64 bits can count, is read past the limit. -/
theorem allowed_lt_readBound {length : Nat} (h : limits.allowed < length)
    (hlength : length < UInt64.size) : limits.allowed < limits.readBound := by
  rw [readBound_eq]
  omega

end Limits

section Sources

variable {limits : Limits} {source : List UInt8}

/-- A source that keeps to the limit is read to its end. -/
theorem readLimited_of_le (h : source.length ≤ limits.allowed) :
    (readLimited limits source).outcome =
      (Utf8.decode source).mapError fun fault => ⟨.notUtf8, [.utf8 fault]⟩ := by
  have htake : source.take limits.readBound = source :=
    List.take_of_length_le (Nat.le_trans h limits.allowed_le_readBound)
  have hlength : ¬ limits.maxInputLen.toNat < source.length := Nat.not_lt.mpr h
  simp only [readLimited, htake, if_neg hlength]
  cases Utf8.decode source <;> rfl

/-- A source with too many bytes is refused, whatever they are. -/
theorem readLimited_of_lt (h : limits.allowed < source.length)
    (hlength : source.length < UInt64.size) :
    (readLimited limits source).outcome = .error ⟨.overLimit limits, []⟩ := by
  have hbound := limits.allowed_lt_readBound h hlength
  have htake : limits.maxInputLen.toNat < (source.take limits.readBound).length := by
    rw [List.length_take]
    exact Nat.lt_min.mpr ⟨hbound, h⟩
  simp only [readLimited, if_pos htake]

/-- A text that was read keeps to the limit, whatever its source. -/
theorem byteLength_le_of_readLimited {text : Text}
    (h : (readLimited limits source).outcome = .ok text) :
    Utf8.byteLength text ≤ limits.allowed := by
  simp only [readLimited] at h
  split at h
  · cases h
  · next hlength =>
    split at h
    · next text' hdecode =>
      obtain rfl := Except.ok.inj h
      rw [← Utf8.length_encode, Utf8.decode_eq_ok_iff.mp hdecode]
      exact Nat.le_of_not_lt hlength
    · cases h

end Sources

end PadGraph
