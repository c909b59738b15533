/-
# Sets of code points as ascending intervals

Unicode gives a property of characters as closed intervals of code points in ascending order.
This file holds that form and the one question asked of it, `Ranges.holds`.

* `Ranges.holds_iff`: on an ascending table the early stop of the search loses nothing, so
  `holds` is membership in one of the intervals.
-/

namespace LoadingIndicator.Text

/-- A set of code points as closed intervals `(first, last)`. -/
abbrev Ranges := List (Nat × Nat)

namespace Ranges

/-! ## 1. The search -/

/-- Whether `n` lies in one of the intervals.  The search stops at the first interval that
begins after `n`, so a low code point is decided at the front of a long table. -/
def holds : Ranges → Nat → Bool
  | [], _ => false
  | (first, last) :: rest, n => if n < first then false else decide (n ≤ last) || holds rest n

/-- Whether the intervals stand in ascending order, each beginning after `bound` and after the
one before it. -/
def ascendingAfter : Nat → Ranges → Bool
  | _, [] => true
  | bound, (first, last) :: rest =>
    decide (bound < first) && decide (first ≤ last) && ascendingAfter last rest

/-- Whether the intervals stand in ascending order and are apart. -/
def ascending : Ranges → Bool
  | [] => true
  | (first, last) :: rest => decide (first ≤ last) && ascendingAfter last rest

/-! ## 2. What the search finds -/

/-- Past an ascending table's bound, every interval begins after the bound. -/
theorem lt_of_ascendingAfter : ∀ {rs : Ranges} {bound : Nat}, ascendingAfter bound rs = true →
    ∀ r ∈ rs, bound < r.1
  | [], _, _, r, hr => by cases hr
  | (first, last) :: rest, bound, h, r, hr => by
    simp only [ascendingAfter, Bool.and_eq_true, decide_eq_true_eq] at h
    obtain ⟨⟨hb, hfl⟩, hrest⟩ := h
    rcases List.mem_cons.mp hr with rfl | hr'
    · exact hb
    · have := lt_of_ascendingAfter hrest r hr'
      omega

theorem ascending_of_ascendingAfter {rs : Ranges} {bound : Nat}
    (h : ascendingAfter bound rs = true) : ascending rs = true := by
  cases rs with
  | nil => rfl
  | cons r rest =>
    simp only [ascendingAfter, Bool.and_eq_true, decide_eq_true_eq] at h
    simp [ascending, h.1.2, h.2]

/-- **The early stop loses nothing**: on an ascending table, `holds` is membership in one of
the intervals. -/
theorem holds_iff : ∀ {rs : Ranges}, ascending rs = true → ∀ n : Nat,
    holds rs n = true ↔ ∃ r ∈ rs, r.1 ≤ n ∧ n ≤ r.2
  | [], _, n => by simp [holds]
  | (first, last) :: rest, h, n => by
    simp only [ascending, Bool.and_eq_true, decide_eq_true_eq] at h
    obtain ⟨hfl, hrest⟩ := h
    have ih := holds_iff (ascending_of_ascendingAfter hrest) n
    simp only [holds, List.mem_cons, exists_eq_or_imp]
    by_cases hlt : n < first
    · rw [if_pos hlt]
      constructor
      · intro hf; cases hf
      · rintro (⟨hle, _⟩ | ⟨r, hr, hle, _⟩)
        · omega
        · have := lt_of_ascendingAfter hrest r hr
          omega
    · rw [if_neg hlt, Bool.or_eq_true, decide_eq_true_eq, ih]
      constructor
      · rintro (hle | hr)
        · exact Or.inl ⟨by omega, hle⟩
        · exact Or.inr hr
      · rintro (⟨_, hle⟩ | hr)
        · exact Or.inl hle
        · exact Or.inr hr

end Ranges

/-! ## 3. Code points -/

theorem toNat_charOfNat {n : Nat} (h : n.isValidChar) : (Char.ofNat n).toNat = n := by
  rw [Char.ofNat, dif_pos h]
  rfl

/-- What holds of the first 128 code points holds of every character of ASCII. -/
theorem forall_ascii {P : Char → Prop} (h : ∀ k : Fin 128, P (Char.ofNat k)) {c : Char}
    (hc : c.toNat < 0x80) : P c := by
  have hchar := h ⟨c.toNat, hc⟩
  simp only [Char.ofNat_toNat] at hchar
  exact hchar

end LoadingIndicator.Text
