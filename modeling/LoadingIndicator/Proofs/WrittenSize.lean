/-
# What a person may write for a size

Reading trims a text and lower-cases it by all of Unicode before it looks for a name.  Yet what
is accepted is a small language: blanks, one of the two names of a size in letters of either
case, and blanks again.  `Names` is that language, and it says nothing of trimming or of
Unicode's lower case.

Two things must be seen.  Lower-casing makes the letters of the names out of those letters and
their capitals alone: the only characters beyond ASCII with a letter of ASCII in their lower
case are U+212A, whose letter `k` is in no name, and U+0130, which brings a mark along.  And a
name has no blanks, so what trimming leaves is all of it.

Main statement:

* `parse_iff_names`: a text is read as a size exactly when it names that size, and every other
  text is refused with itself.
-/
import LoadingIndicator.Size.Parse

namespace LoadingIndicator.Size

open Text (Bare Blank isBlank trim)

/-! ## 1. The language -/

/-- Whether two texts differ at most in the case of ASCII's letters, the only characters that
`Char.toLower` changes. -/
def SameButCase (s t : String) : Prop := s.toList.map Char.toLower = t.toList.map Char.toLower

/-- Whether a text is one of the two names of a size, in letters of either case. -/
def IsNameOf (s : String) (z : Size) : Prop := SameButCase s z.name ∨ SameButCase s z.longName

/-- Whether a text names a size: blanks, one of its names, blanks. -/
def Names (s : String) (z : Size) : Prop :=
  ∃ before name after : String,
    s = before ++ name ++ after ∧ Blank before ∧ Blank after ∧ IsNameOf name z

/-! ## 2. The letters of the names -/

/-- Whether a character is a small letter of ASCII other than `k`. -/
def isLetter (d : Char) : Bool := decide (0x61 ≤ d.toNat ∧ d.toNat ≤ 0x7a) && d != 'k'

/-- Whether a text is made of such letters. -/
def Lettered (s : String) : Prop := s.toList.all isLetter = true

theorem lettered_name (z : Size) : Lettered z.name := by
  unfold Lettered
  cases z <;> decide

theorem lettered_longName (z : Size) : Lettered z.longName := by
  unfold Lettered
  cases z <;> decide

theorem Lettered.letter {s : String} (h : Lettered s) {d : Char} (hd : d ∈ s.toList) :
    (0x61 ≤ d.toNat ∧ d.toNat ≤ 0x7a) ∧ d ≠ 'k' := by
  have hletter := List.all_eq_true.mp h d hd
  simp only [isLetter, Bool.and_eq_true, decide_eq_true_eq, bne_iff_ne] at hletter
  exact hletter

theorem map_toLower_of_lettered {s : String} (h : Lettered s) :
    s.toList.map Char.toLower = s.toList := by
  have hsame : ∀ d ∈ s.toList, d.toLower = id d := by
    intro d hd
    obtain ⟨⟨hlow, -⟩, -⟩ := h.letter hd
    exact Text.toLower_of_not_upper (by omega)
  rw [List.map_congr_left hsame, List.map_id]

theorem isBlank_of_toLower {c : Char} (h : 0x61 ≤ c.toLower.toNat) (hascii : c.toNat < 0x80) :
    isBlank c = false := by
  have hall : ∀ k : Fin 128, 0x61 ≤ (Char.ofNat k).toLower.toNat →
      isBlank (Char.ofNat k) = false := by decide +kernel
  exact Text.forall_ascii (P := fun c => 0x61 ≤ c.toLower.toNat → isBlank c = false) hall hascii h

/-- A text of letters in either case holds no blank and nothing beyond ASCII. -/
theorem plain_of_sameButCase {s name : String} (h : SameButCase s name) (hname : Lettered name) :
    ∀ c ∈ s.toList, c.toNat < 0x80 ∧ isBlank c = false := by
  intro c hc
  have hlower : c.toLower ∈ name.toList := by
    rw [← map_toLower_of_lettered hname, ← h]
    exact List.mem_map_of_mem hc
  obtain ⟨⟨hlow, hhigh⟩, -⟩ := hname.letter hlower
  have hascii : c.toNat < 0x80 := Text.ascii_of_toLower (by omega)
  exact ⟨hascii, isBlank_of_toLower hlow hascii⟩

theorem plain_of_isNameOf {s : String} {z : Size} (h : IsNameOf s z) :
    ∀ c ∈ s.toList, c.toNat < 0x80 ∧ isBlank c = false := by
  rcases h with h | h
  · exact plain_of_sameButCase h (lettered_name z)
  · exact plain_of_sameButCase h (lettered_longName z)

/-! ## 3. Trimming and lower-casing find the names -/

theorem bare_of_forall {cs : List Char} (h : ∀ c ∈ cs, isBlank c = false) : Bare cs := by
  constructor
  · intro c hc
    exact h c (List.mem_of_mem_head? hc)
  · intro c hc
    exact h c (List.mem_of_getLast? hc)

/-- **What trimming leaves decides**: a text names a size exactly when, trimmed, it is a name. -/
theorem names_iff_trim {s : String} {z : Size} : Names s z ↔ IsNameOf (trim s) z := by
  constructor
  · rintro ⟨before, name, after, rfl, hbefore, hafter, hname⟩
    have hbare : Bare name.toList := by
      refine bare_of_forall ?_
      intro c hc
      exact (plain_of_isNameOf hname c hc).2
    have htrim : trim (before ++ name ++ after) = name := by
      rw [trim, String.toList_append, String.toList_append,
        Text.trimChars_of_framed hbefore hafter hbare, String.ofList_toList]
    rw [htrim]
    exact hname
  · intro hname
    obtain ⟨w₁, w₂, hw₁, hw₂, hs⟩ := Text.exists_trimChars s.toList
    refine ⟨String.ofList w₁, trim s, String.ofList w₂, ?_, ?_, ?_, hname⟩
    · apply String.toList_injective
      rw [String.toList_append, String.toList_append, String.toList_ofList, String.toList_ofList,
        Text.toList_trim]
      exact hs
    · rw [Blank, String.toList_ofList]
      exact hw₁
    · rw [Blank, String.toList_ofList]
      exact hw₂

/-- The lower case of a text is a given text of letters exactly when the two differ at most in
the case of ASCII's letters. -/
theorem lower_eq_iff {s name : String} (hname : Lettered name) :
    Text.lower s = name ↔ SameButCase s name := by
  have hletters : ∀ d ∈ name.toList, d.toNat < 0x80 ∧ d ≠ 'k' := by
    intro d hd
    obtain ⟨⟨-, hhigh⟩, hk⟩ := hname.letter hd
    exact ⟨by omega, hk⟩
  rw [SameButCase, map_toLower_of_lettered hname, ← String.toList_inj, Text.toList_lower]
  exact Text.lowerChars_eq_iff hletters s.toList

/-- **Lower-casing by all of Unicode finds the names in letters of ASCII alone.** -/
theorem lower_eq_name_iff {s : String} {z : Size} :
    (Text.lower s = z.name ∨ Text.lower s = z.longName) ↔ IsNameOf s z := by
  rw [IsNameOf, lower_eq_iff (lettered_name z), lower_eq_iff (lettered_longName z)]

/-! ## 4. Reading accepts the language -/

/-- A text is read as a size exactly when it names that size. -/
theorem parse_eq_ok_iff_names {s : String} {z : Size} : parse s = .ok z ↔ Names s z := by
  rw [parse_eq_ok_iff, ofEitherName?_eq_some_iff, lower_eq_name_iff, names_iff_trim]

theorem ascii_of_parse {s : String} {z : Size} (h : parse s = .ok z) {c : Char}
    (hc : c ∈ s.toList) (hblank : isBlank c = false) : c.toNat < 0x80 := by
  obtain ⟨before, name, after, rfl, hbefore, hafter, hname⟩ := parse_eq_ok_iff_names.mp h
  rw [String.toList_append, String.toList_append, List.mem_append, List.mem_append] at hc
  rcases hc with (hc | hc) | hc
  · rw [hbefore c hc] at hblank
    cases hblank
  · exact (plain_of_isNameOf hname c hc).1
  · rw [hafter c hc] at hblank
    cases hblank

/-- **Reading accepts the language and nothing else.**  A text is read as a size exactly when it
names that size, and every other text is refused with itself, neither trimmed nor lower-cased.
In particular no character beyond ASCII takes part in a name: not U+0130, U+212A or U+017F,
which are related to letters of ASCII, nor U+200B or U+FEFF, which look like blanks. -/
theorem parse_iff_names (s : String) :
    (∀ z, parse s = .ok z ↔ Names s z) ∧
      ((∀ z, ¬ Names s z) → parse s = .error ⟨s⟩) ∧
      (∀ z, parse s = .ok z → ∀ c ∈ s.toList, isBlank c = false → c.toNat < 0x80) ∧
      ∀ c ∈ ['\u0130', '\u212a', '\u017f', '\u200b', '\ufeff'], c ∈ s.toList →
        parse s = .error ⟨s⟩ := by
  refine ⟨fun z => parse_eq_ok_iff_names, ?_, fun z h c => ascii_of_parse h, ?_⟩
  · intro h
    refine parse_eq_error ?_
    intro z hz
    exact h z (parse_eq_ok_iff_names.mp hz)
  · intro c hforeign hc
    have hbeyond : isBlank c = false ∧ 0x80 ≤ c.toNat := by
      simp only [List.mem_cons, List.not_mem_nil, or_false] at hforeign
      rcases hforeign with rfl | rfl | rfl | rfl | rfl <;> decide
    refine parse_eq_error ?_
    intro z hz
    have hascii := ascii_of_parse hz hc hbeyond.1
    omega

/-- At the ends every white space counts, and in the name only the letters themselves do. -/
theorem parse_iff_names_padded :
    parse "\u3000LaRGe\u0085\n" = .ok .large ∧ (∀ z, ¬ Names "\u017fm" z) ∧
      parse "\u017fm" = .error ⟨"\u017fm"⟩ := by
  obtain ⟨hlarge, -⟩ := parse_iff_names "\u3000LaRGe\u0085\n"
  obtain ⟨hnamed, hother, -, hforeign⟩ := parse_iff_names "\u017fm"
  have hnames : Names "\u3000LaRGe\u0085\n" .large := by
    refine ⟨"\u3000", "LaRGe", "\u0085\n", rfl, ?_, ?_, Or.inr ?_⟩
    · exact List.all_eq_true.mp (by decide +kernel)
    · exact List.all_eq_true.mp (by decide +kernel)
    · unfold SameButCase
      decide +kernel
  have hnone : ∀ z, ¬ Names "\u017fm" z := by
    intro z h
    have hread := (hnamed z).mpr h
    rw [hforeign '\u017f' (by simp) (by decide +kernel)] at hread
    cases hread
  exact ⟨(hlarge .large).mpr hnames, hnone, hother hnone⟩

end LoadingIndicator.Size
