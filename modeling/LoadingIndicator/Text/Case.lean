/-
# Lower case

The lower case of a text by Unicode's full mapping, without regard to a language.  Each letter
is mapped by itself, with two exceptions: U+0130 becomes two characters, and a capital sigma
takes its final form at the end of a word.

Main statements:

* `lowerChar_of_upper`, `lowerChar_of_printable`: what happens within ASCII;
* `lowerChars_eq_iff`: the lower case is a given text of ASCII without a `k` exactly of the texts
  that differ from it at most in the case of ASCII's letters.
-/
import LoadingIndicator.Text.Case.Table

namespace LoadingIndicator.Text

/-! ## 1. One character -/

/-- The lower case of a character that stands alone. -/
def lowerChar (c : Char) : List Char :=
  if c = '\u0130' then ['i', '\u0307']
  else
    match lowerRuns.findSome? (·.image? c.toNat) with
    | some n => [Char.ofNat n]
    | none => [c]

/-- A character with upper, lower or title case. -/
def isCased (c : Char) : Bool := casedRanges.holds c.toNat

/-- A character that does not interrupt a word of cased letters. -/
def isCaseIgnorable (c : Char) : Bool := caseIgnorableRanges.holds c.toNat

/-! ## 2. A text -/

/-- Whether the first character that counts is a cased letter. -/
def meetsLetter (cs : List Char) : Bool :=
  match cs.dropWhile isCaseIgnorable with
  | [] => false
  | c :: _ => isCased c

/-- The lower case of a capital sigma between the characters `before`, nearest first, and
`after`: final where a letter comes before and none after. -/
def lowerSigma (before after : List Char) : Char :=
  if meetsLetter before && !meetsLetter after then 'ς' else 'σ'

/-- The lower case of the rest of a text, after the characters `before`, nearest first. -/
def lowerFrom (before : List Char) : List Char → List Char
  | [] => []
  | c :: after =>
    (if c = 'Σ' then [lowerSigma before after] else lowerChar c) ++ lowerFrom (c :: before) after

def lowerChars (cs : List Char) : List Char := lowerFrom [] cs

def lower (s : String) : String := String.ofList (lowerChars s.toList)

@[simp] theorem toList_lower (s : String) : (lower s).toList = lowerChars s.toList := by
  simp [lower]

/-! ## 3. Within ASCII -/

/-- The table opens with the letters of ASCII, and goes on at U+00C0. -/
theorem lowerRuns_eq : ∃ rest, lowerRuns = ⟨0x41, 0x5a, 1, 32⟩ :: rest ∧
    ∀ r ∈ rest, 0x80 ≤ r.first := by
  refine ⟨_, rfl, ?_⟩
  decide +kernel

theorem LowerRun.image?_eq_none {r : LowerRun} {n : Nat} (h : n < r.first) :
    r.image? n = none := by
  rw [LowerRun.image?, if_neg]
  omega

theorem lowerChar_of_upper {c : Char} (hlow : 0x41 ≤ c.toNat) (hhigh : c.toNat ≤ 0x5a) :
    lowerChar c = [Char.ofNat (c.toNat + 32)] := by
  obtain ⟨rest, hrest, -⟩ := lowerRuns_eq
  have hne : c ≠ '\u0130' := by
    rintro rfl
    exact absurd hhigh (by decide)
  have happ : LowerRun.image? ⟨0x41, 0x5a, 1, 32⟩ c.toNat = some (c.toNat + 32) := by
    rw [LowerRun.image?_eq_some_iff]
    refine ⟨⟨hlow, hhigh, Nat.mod_one _⟩, ?_⟩
    exact Int.toNat_natCast (c.toNat + 32)
  rw [lowerChar, if_neg hne, hrest, List.findSome?_cons, happ]

theorem lowerChar_of_printable {c : Char} (hlow : c.toNat < 0x80)
    (hcase : ¬ (0x41 ≤ c.toNat ∧ c.toNat ≤ 0x5a)) : lowerChar c = [c] := by
  obtain ⟨rest, hrest, hbeyond⟩ := lowerRuns_eq
  have hne : c ≠ '\u0130' := by
    rintro rfl
    exact absurd hlow (by decide)
  have hfirst : LowerRun.image? ⟨0x41, 0x5a, 1, 32⟩ c.toNat = none := by
    rw [LowerRun.image?, if_neg]
    rintro ⟨h1, h2, -⟩
    exact hcase ⟨h1, h2⟩
  have hnone : rest.findSome? (·.image? c.toNat) = none := by
    rw [List.findSome?_eq_none_iff]
    intro r hr
    have := hbeyond r hr
    exact LowerRun.image?_eq_none (by omega)
  rw [lowerChar, if_neg hne, hrest, List.findSome?_cons, hfirst, hnone]

/-! ## 4. What becomes a text of ASCII -/

/-- Whether a run's letters become characters beyond ASCII. -/
def LowerRun.staysBeyond (r : LowerRun) : Bool :=
  decide (0x80 ≤ (r.first : Int) + r.distance) &&
    (decide ((r.last : Int) + r.distance < 0xd800) ||
      decide (0xdfff < (r.first : Int) + r.distance) &&
        decide ((r.last : Int) + r.distance < 0x110000))

/-- Behind the letters of ASCII, all stay beyond it but the Kelvin sign, which becomes `k`. -/
theorem staysBeyond_of_mem_tail : ∀ r ∈ lowerRuns.tail,
    r.staysBeyond = true ∨ r = ⟨0x212a, 0x212a, 1, -8383⟩ := by
  decide +kernel

theorem LowerRun.image?_beyond {r : LowerRun} (h : r.staysBeyond = true) {n m : Nat}
    (hm : r.image? n = some m) : 0x80 ≤ (Char.ofNat m).toNat := by
  obtain ⟨⟨hfirst, hlast, -⟩, himage⟩ := image?_eq_some_iff.mp hm
  simp only [staysBeyond, Bool.and_eq_true, Bool.or_eq_true, decide_eq_true_eq] at h
  obtain ⟨hlow, hvalid⟩ := h
  have hm : 0x80 ≤ m := by omega
  have hscalar : m.isValidChar := by
    rcases hvalid with hbelow | ⟨habove, hmax⟩
    · exact Or.inl (by omega)
    · exact Or.inr ⟨by omega, by omega⟩
  rw [toNat_charOfNat hscalar]
  exact hm

/-- **A character beyond ASCII does not become ASCII**, but for the Kelvin sign: among the
characters of its lower case is one beyond ASCII, or a `k`. -/
theorem exists_beyond_of_lowerChar {c : Char} (h : 0x80 ≤ c.toNat) :
    ∃ d ∈ lowerChar c, 0x80 ≤ d.toNat ∨ d = 'k' := by
  unfold lowerChar
  split
  · exact ⟨'\u0307', by simp, Or.inl (by decide)⟩
  · split
    · rename_i n hn
      refine ⟨Char.ofNat n, List.mem_singleton_self _, ?_⟩
      obtain ⟨r, hr, himage⟩ := List.exists_of_findSome?_eq_some hn
      obtain ⟨rest, hrest, -⟩ := lowerRuns_eq
      rw [hrest] at hr
      rcases List.mem_cons.mp hr with rfl | hr
      · obtain ⟨⟨-, hlast, -⟩, -⟩ := LowerRun.image?_eq_some_iff.mp himage
        simp only at hlast
        omega
      · have htail : r ∈ lowerRuns.tail := by rw [hrest]; exact hr
        rcases staysBeyond_of_mem_tail r htail with hbeyond | rfl
        · exact Or.inl (LowerRun.image?_beyond hbeyond himage)
        · -- the Kelvin sign stands alone in its run
          obtain ⟨⟨hfirst, hlast, -⟩, hkelvin⟩ := LowerRun.image?_eq_some_iff.mp himage
          simp only at hfirst hlast hkelvin
          have hk : n = 0x6b := by omega
          rw [hk]
          exact Or.inr rfl
    · exact ⟨c, List.mem_singleton_self _, Or.inl h⟩

theorem toLower_of_not_upper {c : Char} (h : ¬ (0x41 ≤ c.toNat ∧ c.toNat ≤ 0x5a)) :
    c.toLower = c := by
  unfold Char.toLower
  rw [dif_neg]
  rintro ⟨hlow, hhigh⟩
  exact h ⟨hlow, hhigh⟩

theorem lowerChar_of_ascii {c : Char} (h : c.toNat < 0x80) : lowerChar c = [c.toLower] := by
  by_cases hcase : 0x41 ≤ c.toNat ∧ c.toNat ≤ 0x5a
  · have hupper : c.toLower = Char.ofNat (c.toNat + 32) := by
      have hall : ∀ n : Fin 26, (Char.ofNat (n + 0x41)).toLower =
          Char.ofNat ((n : Nat) + 0x41 + 32) := by decide +kernel
      have hc := hall ⟨c.toNat - 0x41, by omega⟩
      simp only [Nat.sub_add_cancel hcase.1, Char.ofNat_toNat] at hc
      exact hc
    rw [lowerChar_of_upper hcase.1 hcase.2, hupper]
  · rw [lowerChar_of_printable h hcase, toLower_of_not_upper hcase]

/-- A text of ASCII becomes, letter by letter, its own lower case, wherever it stands. -/
theorem lowerFrom_of_ascii (before : List Char) {cs : List Char} (h : ∀ c ∈ cs, c.toNat < 0x80) :
    lowerFrom before cs = cs.map Char.toLower := by
  induction cs generalizing before with
  | nil => rfl
  | cons c cs ih =>
    have hc : c.toNat < 0x80 := h c (by simp)
    have hsigma : c ≠ 'Σ' := by
      rintro rfl
      exact absurd hc (by decide)
    rw [lowerFrom, if_neg hsigma, lowerChar_of_ascii hc, ih _ (fun d hd => h d (by simp [hd]))]
    rfl

/-- A text whose lower case is of ASCII and without a `k` is itself of ASCII. -/
theorem ascii_of_lowerFrom {before cs : List Char}
    (h : ∀ d ∈ lowerFrom before cs, d.toNat < 0x80 ∧ d ≠ 'k') : ∀ c ∈ cs, c.toNat < 0x80 := by
  induction cs generalizing before with
  | nil => intro c hc; cases hc
  | cons c cs ih =>
    rw [lowerFrom] at h
    intro e he
    rcases List.mem_cons.mp he with rfl | he
    · by_cases hsigma : e = 'Σ'
      · -- a sigma in either of its forms is beyond ASCII
        rw [if_pos hsigma, lowerSigma] at h
        split at h
        · exact absurd (h 'ς' (by simp)).1 (by decide)
        · exact absurd (h 'σ' (by simp)).1 (by decide)
      · rw [if_neg hsigma] at h
        apply Classical.byContradiction
        intro hbeyond
        obtain ⟨d, hd, hout⟩ := exists_beyond_of_lowerChar (Nat.le_of_not_lt hbeyond)
        obtain ⟨hascii, hk⟩ := h d (List.mem_append_left _ hd)
        rcases hout with hout | hout
        · omega
        · exact hk hout
    · exact ih (fun d hd => h d (List.mem_append_right _ hd)) e he

theorem ascii_of_toLower {c : Char} (h : c.toLower.toNat < 0x80) : c.toNat < 0x80 := by
  unfold Char.toLower at h
  split at h
  · rename_i hcase
    have hhigh : c.toNat ≤ 0x5a := hcase.2
    omega
  · exact h

/-- **The lower case is a given text of ASCII without a `k`** exactly of the texts that differ
from it at most in the case of ASCII's letters. -/
theorem lowerChars_eq_iff {name : List Char} (h : ∀ d ∈ name, d.toNat < 0x80 ∧ d ≠ 'k')
    (cs : List Char) : lowerChars cs = name ↔ cs.map Char.toLower = name := by
  constructor
  · intro hlower
    have hlow : ∀ d ∈ lowerFrom [] cs, d.toNat < 0x80 ∧ d ≠ 'k' := by
      intro d hd
      exact h d (hlower ▸ hd)
    rw [← lowerFrom_of_ascii [] (ascii_of_lowerFrom hlow)]
    exact hlower
  · rintro rfl
    refine lowerFrom_of_ascii [] ?_
    intro c hc
    exact ascii_of_toLower (h c.toLower (List.mem_map_of_mem hc)).1

end LoadingIndicator.Text
