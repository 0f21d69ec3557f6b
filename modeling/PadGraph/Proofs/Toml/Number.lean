import Mathlib.Algebra.Group.Nat.Defs
import Mathlib.Logic.Basic
import PadGraph.Proofs.Text.Decimal
import PadGraph.Toml.Statement

/-!
# Decimal numbers are read

A value that begins with a digit may be a date, a time, a floating-point number or an integer, in
decimal digits or others. A number in decimal digits at the end of a line is read as an integer,
since it has none of the marks of the others, and no zero in front.

* `Toml.DigitsLine`, `Toml.DigitsLine.dateTime_eq_none` — digits up to the end of a line are no date
  and no time.
* `Toml.wholeDigits_decimal`, `Toml.float_decimal` — all digits of a number are read, and it is no
  floating-point number.
* `Toml.ofDigits_decimal`, `Toml.signed?_of_lt` — its digits give the number, and 64 bits hold it.
* **`Toml.value_decimal`** — the integer that is read of a number in decimal digits.
-/

namespace PadGraph

namespace Toml

/-! ### No date and no time -/

/-- Digits up to the end of a line, and what stands behind it. -/
def DigitsLine (text : Text) : Prop :=
  ∃ digits rest, (∀ c ∈ digits, c.isDigit = true) ∧ text = digits ++ '\n' :: rest

namespace DigitsLine

variable {text : Text}

/-- A mark does not stand at the front of digits. -/
theorem behind?_eq_none (h : DigitsLine text) {mark : Char} (hd : mark.isDigit = false)
    (hn : mark ≠ '\n') : behind? mark text = none := by
  obtain ⟨digits, rest, hdigits, rfl⟩ := h
  cases digits with
  | nil => simp [behind?, hn.symm]
  | cons c digits =>
      have hne : c ≠ mark := ne_of_isDigit (hdigits c (by simp)) hd
      simp [behind?, hne]

/-- The first of some digits is taken, and the others are read behind it. -/
theorem exists_fixedDigits_cons (count : Nat) (c : Char) (behind : Text) :
    ∃ f : Nat → Nat, fixedDigits (count + 1) (c :: behind) =
      if c.isDigit then (fixedDigits count behind).map fun read => (f read.1, read.2) else none :=
  ⟨fun value => (c.toNat - '0'.toNat) * Nat.pow 10 count + value, rfl⟩

/-- Behind a number of digits there are digits again. -/
theorem of_fixedDigits (h : DigitsLine text) {count value : Nat} {rest : Text}
    (hread : fixedDigits count text = some (value, rest)) : DigitsLine rest := by
  induction count generalizing text value with
  | zero =>
      obtain rfl : text = rest := congrArg Prod.snd (Option.some.inj hread)
      exact h
  | succ count ih =>
      obtain ⟨digits, behind, hdigits, rfl⟩ := h
      cases digits with
      | nil =>
          obtain ⟨f, hcons⟩ := exists_fixedDigits_cons count '\n' behind
          rw [List.nil_append, hcons, if_neg (by decide)] at hread
          cases hread
      | cons c digits =>
          obtain ⟨hc, hdigits⟩ := List.forall_mem_cons.mp hdigits
          obtain ⟨f, hcons⟩ := exists_fixedDigits_cons count c (digits ++ '\n' :: behind)
          rw [List.cons_append, hcons, if_pos hc] at hread
          obtain ⟨⟨number, remainder⟩, hnumber, heq⟩ := Option.map_eq_some_iff.mp hread
          obtain rfl : remainder = rest := congrArg Prod.snd heq
          exact ih ⟨digits, behind, hdigits, rfl⟩ hnumber

theorem of_twoDigits (h : DigitsLine text) {least greatest value : Nat} {rest : Text}
    (hread : twoDigits least greatest text = some (value, rest)) : DigitsLine rest := by
  obtain ⟨⟨number, remainder⟩, hnumber, hbounds⟩ := Option.bind_eq_some_iff.mp hread
  obtain ⟨-, heq⟩ := Option.ite_none_right_eq_some.mp hbounds
  obtain rfl : remainder = rest := congrArg Prod.snd (Option.some.inj heq)
  exact h.of_fixedDigits hnumber

/-- Digits are no date and no time, for want of a hyphen or a colon. -/
theorem dateTime_eq_none (h : DigitsLine text) : dateTime text = none := by
  have hdate : date text = none := by
    refine Option.bind_eq_none_iff.mpr ?_
    rintro ⟨year, rest⟩ hyear
    have hmark : behind? '-' rest = none :=
      (h.of_fixedDigits hyear).behind?_eq_none (by decide) (by decide)
    simp [hmark]
  have htime : time text = none := by
    refine Option.bind_eq_none_iff.mpr ?_
    rintro ⟨hour, rest⟩ hhour
    have hmark : behind? ':' rest = none :=
      (h.of_twoDigits hhour).behind?_eq_none (by decide) (by decide)
    simp [hmark]
  rw [dateTime, hdate]
  exact htime

end DigitsLine

/-! ### All digits are read -/

theorem moreDigits_append {digits : Text} (h : ∀ c ∈ digits, c.isDigit = true) (rest : Text) :
    moreDigits Char.isDigit (digits ++ '\n' :: rest) = (digits, '\n' :: rest) := by
  induction digits with
  | nil =>
      rw [List.nil_append, moreDigits.eq_def]
      simp [Char.isDigit]
  | cons c digits ih =>
      obtain ⟨hc, hdigits⟩ := List.forall_mem_cons.mp h
      rw [List.cons_append, moreDigits.eq_def]
      simp [hc, ih hdigits]

theorem wholeDigits_decimal (n : Nat) (rest : Text) :
    wholeDigits (Text.decimal n ++ '\n' :: rest) = some (Text.decimal n, '\n' :: rest) := by
  obtain ⟨c, digits, hdecimal, hc, hdigits, hfirst⟩ := Text.exists_decimal_cons n
  rcases eq_or_ne n 0 with rfl | hne
  · rfl
  · rw [hdecimal, List.cons_append, wholeDigits]
    · rw [Toml.digits, if_pos hc, moreDigits_append hdigits]
    · intro _ heq
      exact hfirst hne (List.cons.inj heq).1

/-! ### Integers -/

theorem sign_decimal (n : Nat) (rest : Text) :
    sign (Text.decimal n ++ rest) = (false, Text.decimal n ++ rest) := by
  obtain ⟨c, digits, hdecimal, hc, -⟩ := Text.exists_decimal_cons n
  rw [hdecimal, List.cons_append, sign]
  · intro _ heq
    exact ne_of_isDigit hc (by decide) (List.cons.inj heq).1
  · intro _ heq
    exact ne_of_isDigit hc (by decide) (List.cons.inj heq).1

/-- A number without a point and an exponent is no floating-point number. -/
theorem float_decimal (n : Nat) (rest : Text) :
    float (Text.decimal n ++ '\n' :: rest) = none := by
  have hfinite : finiteFloat (Text.decimal n ++ '\n' :: rest) = none := by
    have hmark : fractionOrExponent ('\n' :: rest) = none := rfl
    simp [finiteFloat, sign_decimal, wholeDigits_decimal, hmark]
  have hspecial : specialFloat (Text.decimal n ++ '\n' :: rest) = none := by
    obtain ⟨c, digits, hdecimal, hc, -⟩ := Text.exists_decimal_cons n
    have hi : c ≠ 'i' := ne_of_isDigit hc (by decide)
    have hn : c ≠ 'n' := ne_of_isDigit hc (by decide)
    rw [specialFloat, sign_decimal, hdecimal]
    simp [behindAll?, behind?, hi, hn]
  rw [float, hfinite]
  exact hspecial

theorem hexDigit?_of_isDigit {c : Char} (h : c.isDigit = true) :
    Text.hexDigit? c = some (c.toNat - '0'.toNat) := by
  have hbounds : '0' ≤ c ∧ c ≤ '9' := Char.isDigit_iff_toNat.mp h
  rw [Text.hexDigit?, if_pos hbounds]

/-- A number is written by its decimal digits. -/
theorem ofDigits_decimal (n : Nat) : ofDigits 10 (Text.decimal n) = n := by
  have hsame : ∀ {digits : Text}, (∀ c ∈ digits, c.isDigit = true) → ∀ value,
      digits.foldl (fun value c => value * 10 + (Text.hexDigit? c).getD 0) value =
        Nat.ofDigitChars 10 digits value := by
    intro digits h value
    induction digits generalizing value with
    | nil => rfl
    | cons c digits ih =>
        obtain ⟨hc, hdigits⟩ := List.forall_mem_cons.mp h
        rw [List.foldl_cons, Nat.ofDigitChars_cons, ih hdigits, hexDigit?_of_isDigit hc,
          Nat.mul_comm]
        rfl
  rw [ofDigits, hsame fun c hc => Text.isDigit_of_mem_decimal hc]
  exact Nat.ofDigitChars_ten_toDigits

theorem signed?_of_lt {n : Nat} (h : n < 2 ^ 63) : signed? false n = some (Int64.ofNat n) := by
  rw [signed?, if_neg (by decide), if_pos (show n < 1 <<< 63 from h)]

theorem decimal_decimal {n : Nat} (h : n < 2 ^ 63) (rest : Text) :
    decimal (Text.decimal n ++ '\n' :: rest) = some (Int64.ofNat n, '\n' :: rest) := by
  simp [decimal, sign_decimal, wholeDigits_decimal, ofDigits_decimal, signed?_of_lt h]

/-- No mark of another base stands at the front of a number. -/
theorem integer_decimal {n : Nat} (h : n < 2 ^ 63) (rest : Text) :
    integer (Text.decimal n ++ '\n' :: rest) = some (Int64.ofNat n, '\n' :: rest) := by
  rw [← decimal_decimal h rest]
  rcases eq_or_ne n 0 with rfl | hne
  · rfl
  · obtain ⟨c, digits, hdecimal, -, -, hfirst⟩ := Text.exists_decimal_cons n
    rw [hdecimal, List.cons_append, integer]
    all_goals
      intro _ heq
      exact hfirst hne (List.cons.inj heq).1

/-- **A number in decimal digits is read as an integer**, if 64 bits with a sign hold it. -/
theorem value_decimal {n : Nat} (h : n < 2 ^ 63) (rest : Text) :
    value (Text.decimal n ++ '\n' :: rest) = some (.integer (Int64.ofNat n), '\n' :: rest) := by
  obtain ⟨c, digits, hdecimal, hc, hdigits, -⟩ := Text.exists_decimal_cons n
  have hline : DigitsLine (c :: (digits ++ '\n' :: rest)) :=
    ⟨c :: digits, rest, List.forall_mem_cons.mpr ⟨hc, hdigits⟩, rfl⟩
  have hfloat := float_decimal n rest
  have hinteger := integer_decimal h rest
  rw [hdecimal, List.cons_append] at hfloat hinteger ⊢
  have hne : ∀ mark : Char, mark.isDigit = false → c ≠ mark := fun _ => ne_of_isDigit hc
  rw [value, valueWithin.eq_def]
  dsimp only
  rw [if_neg (by simp [hne]), if_neg (hne _ (by decide)), if_neg (hne _ (by decide)),
    if_neg (by simp [hne]), number, hline.dateTime_eq_none, hfloat, hinteger]
  rfl

end Toml

end PadGraph
