/-
# Hexadecimal digits

Reading one hexadecimal digit and groups of them.  Digits are written with `Nat.toDigits 16`
of the core library, in lower case and without leading zeros; they are read in either case.

* `hexValue?_digitChar`, `hexPair?_digitChar`: digits that were written are read back.
-/

namespace LoadingIndicator.Text

/-! ## 1. Reading -/

/-- The value of a hexadecimal digit of either case. -/
def hexValue? (c : Char) : Option Nat :=
  if 0x30 ≤ c.toNat ∧ c.toNat ≤ 0x39 then some (c.toNat - 0x30)
  else if 0x61 ≤ c.toNat ∧ c.toNat ≤ 0x66 then some (c.toNat - 0x61 + 10)
  else if 0x41 ≤ c.toNat ∧ c.toNat ≤ 0x46 then some (c.toNat - 0x41 + 10)
  else none

def hexPair? (c d : Char) : Option Nat := do
  let hi ← hexValue? c
  let lo ← hexValue? d
  pure (16 * hi + lo)

def hexQuad? (a b c d : Char) : Option Nat := do
  let hi ← hexPair? a b
  let lo ← hexPair? c d
  pure (256 * hi + lo)

/-! ## 2. Bounds, and reading back -/

theorem hexValue?_lt {c : Char} {n : Nat} (h : hexValue? c = some n) : n < 16 := by
  unfold hexValue? at h
  split at h
  · cases h; omega
  · split at h
    · cases h; omega
    · split at h
      · cases h; omega
      · cases h

theorem hexPair?_lt {c d : Char} {n : Nat} (h : hexPair? c d = some n) : n < 256 := by
  unfold hexPair? at h
  rcases hc : hexValue? c with _ | hi
  · simp [hc] at h
  · rcases hd : hexValue? d with _ | lo
    · simp [hc, hd] at h
    · have := hexValue?_lt hc
      have := hexValue?_lt hd
      simp only [hc, hd, Option.bind_eq_bind, Option.bind_some, Option.pure_def,
        Option.some.injEq] at h
      omega

theorem hexQuad?_lt {a b c d : Char} {n : Nat} (h : hexQuad? a b c d = some n) :
    n < 65536 := by
  unfold hexQuad? at h
  rcases hab : hexPair? a b with _ | hi
  · simp [hab] at h
  · rcases hcd : hexPair? c d with _ | lo
    · simp [hab, hcd] at h
    · have := hexPair?_lt hab
      have := hexPair?_lt hcd
      simp only [hab, hcd, Option.bind_eq_bind, Option.bind_some, Option.pure_def,
        Option.some.injEq] at h
      omega

theorem ascii_of_hexValue? {c : Char} {n : Nat} (h : hexValue? c = some n) : c.toNat < 0x80 := by
  unfold hexValue? at h
  split at h
  · omega
  · split at h
    · omega
    · split at h
      · omega
      · cases h

/-- What stands for a number with three others is a digit. -/
theorem exists_of_hexQuad? {a b c d : Char} {n : Nat} (h : hexQuad? a b c d = some n) :
    ∀ e ∈ [a, b, c, d], ∃ m, hexValue? e = some m := by
  obtain ⟨high, hhigh, hrest⟩ := Option.bind_eq_some_iff.mp h
  obtain ⟨low, hlow, -⟩ := Option.bind_eq_some_iff.mp hrest
  obtain ⟨i, ha, hrest⟩ := Option.bind_eq_some_iff.mp hhigh
  obtain ⟨j, hb, -⟩ := Option.bind_eq_some_iff.mp hrest
  obtain ⟨k, hc, hrest⟩ := Option.bind_eq_some_iff.mp hlow
  obtain ⟨l, hd, -⟩ := Option.bind_eq_some_iff.mp hrest
  intro e he
  simp only [List.mem_cons, List.not_mem_nil, or_false] at he
  rcases he with rfl | rfl | rfl | rfl
  · exact ⟨i, ha⟩
  · exact ⟨j, hb⟩
  · exact ⟨k, hc⟩
  · exact ⟨l, hd⟩

/-- **A written digit is read back.** -/
theorem hexValue?_digitChar {n : Nat} (h : n < 16) : hexValue? n.digitChar = some n := by
  have hall : ∀ m : Fin 16, hexValue? (m : Nat).digitChar = some (m : Nat) := by decide
  exact hall ⟨n, h⟩

theorem hexPair?_digitChar {n : Nat} (h : n < 256) :
    hexPair? (n / 16).digitChar (n % 16).digitChar = some n := by
  have hlow : n % 16 < 16 := Nat.mod_lt n (by decide)
  rw [hexPair?, hexValue?_digitChar (by omega), hexValue?_digitChar hlow]
  exact congrArg some (Nat.div_add_mod n 16)

theorem hexQuad?_zeros (c d : Char) : hexQuad? '0' '0' c d = hexPair? c d := by
  have hzeros : hexPair? '0' '0' = some 0 := by decide
  rw [hexQuad?, hzeros]
  cases hexPair? c d with
  | none => rfl
  | some n => exact congrArg some (Nat.zero_add n)

end LoadingIndicator.Text
