/-
# Whole numbers in decimal

A whole number is written in decimal digits without leading zeros, a negative one behind a minus
sign.

* `integerText_head`: the text begins with a minus sign or a digit.
-/

namespace LoadingIndicator.Decimal

/-- The text of a whole number. -/
def integerText : Int → List Char
  | .ofNat n => Nat.toDigits 10 n
  | .negSucc n => '-' :: Nat.toDigits 10 (n + 1)

theorem isDigit_digitChar {n : Nat} (h : n < 10) : n.digitChar.isDigit = true := by
  have hall : ∀ m : Fin 10, (m : Nat).digitChar.isDigit = true := by decide
  exact hall ⟨n, h⟩

theorem toDigits_ten (n : Nat) :
    Nat.toDigits 10 n ≠ [] ∧ ∀ c ∈ Nat.toDigits 10 n, c.isDigit = true := by
  induction n using Nat.strongRecOn with
  | ind n ih =>
    by_cases hn : n < 10
    · rw [Nat.toDigits_of_lt_base hn]
      refine ⟨by simp, fun c hc => ?_⟩
      rw [List.mem_singleton] at hc
      subst hc
      exact isDigit_digitChar hn
    · obtain ⟨_, hdigits⟩ := ih (n / 10) (by omega)
      rw [Nat.toDigits_of_base_le (by decide) (by omega)]
      refine ⟨by simp, fun c hc => ?_⟩
      rw [List.mem_append, List.mem_singleton] at hc
      rcases hc with hc | rfl
      · exact hdigits c hc
      · exact isDigit_digitChar (Nat.mod_lt n (by decide))

theorem toDigits_head (n : Nat) : ∃ c cs, Nat.toDigits 10 n = c :: cs ∧ c.isDigit = true := by
  obtain ⟨hne, hdigits⟩ := toDigits_ten n
  obtain ⟨c, cs, h⟩ := List.exists_cons_of_ne_nil hne
  exact ⟨c, cs, h, hdigits c (by rw [h]; simp)⟩

/-- **The text of a whole number begins with a minus sign or a digit.** -/
theorem integerText_head (n : Int) :
    ∃ c cs, integerText n = c :: cs ∧ (c = '-' ∨ c.isDigit = true) := by
  cases n with
  | ofNat n =>
    obtain ⟨c, cs, h, hc⟩ := toDigits_head n
    exact ⟨c, cs, h, Or.inr hc⟩
  | negSucc n => exact ⟨'-', _, rfl, Or.inl rfl⟩

end LoadingIndicator.Decimal
