import PadGraph.Text

/-!
# Decimal numbers

* `Text.isDigit_of_mem_decimal`, `Text.decimal_ne_nil` — a number is written in decimal digits, one
  at least.
* `Text.head?_decimal`, `Text.exists_decimal_cons` — only zero is written with a zero in front.
-/

namespace PadGraph

theorem ne_of_isDigit {c mark : Char} (hc : c.isDigit = true) (hm : mark.isDigit = false) :
    c ≠ mark := by
  rintro rfl
  simp [hc] at hm

namespace Text

theorem isDigit_of_mem_decimal {n : Nat} {c : Char} (h : c ∈ decimal n) : c.isDigit = true :=
  Nat.isDigit_of_mem_toDigits (by decide) (by decide) h

theorem notMem_decimal {mark : Char} (h : mark.isDigit = false) (n : Nat) : mark ∉ decimal n :=
  fun hmem => ne_of_isDigit (isDigit_of_mem_decimal hmem) h rfl

theorem decimal_ne_nil (n : Nat) : decimal n ≠ [] := Nat.toDigits_ne_nil

theorem head?_decimal {n : Nat} (h : n ≠ 0) : (decimal n).head? ≠ some '0' := by
  induction n using Nat.strongRecOn with
  | ind n ih =>
      rw [decimal, Nat.toDigits_eq_if (by decide)]
      split
      · simpa [Nat.digitChar_eq_zero] using h
      · next hle =>
        -- the front of a longer number is a number again
        have hfront := ih (n / 10) (by omega) (by omega)
        obtain ⟨c, rest, hdigits⟩ := List.exists_cons_of_ne_nil (decimal_ne_nil (n / 10))
        rw [decimal] at hdigits hfront
        rw [hdigits] at hfront ⊢
        exact hfront

/-- A number is a digit, which is a zero only for the number zero, and digits behind it. -/
theorem exists_decimal_cons (n : Nat) :
    ∃ c digits, decimal n = c :: digits ∧ c.isDigit = true ∧
      (∀ d ∈ digits, d.isDigit = true) ∧ (n ≠ 0 → c ≠ '0') := by
  obtain ⟨c, digits, hdecimal⟩ := List.exists_cons_of_ne_nil (decimal_ne_nil n)
  have hdigit : ∀ d ∈ c :: digits, d.isDigit = true := fun d hd =>
    isDigit_of_mem_decimal (hdecimal ▸ hd)
  obtain ⟨hc, hdigits⟩ := List.forall_mem_cons.mp hdigit
  refine ⟨c, digits, hdecimal, hc, hdigits, fun hne hzero => ?_⟩
  exact head?_decimal hne (by simp [hdecimal, hzero])

end Text

end PadGraph
