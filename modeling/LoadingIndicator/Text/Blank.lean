/-
# Blank characters

A character is blank when it has Unicode's property White_Space.  This file trims a text at
both ends and splits a text into its words by that property.

Main statements:

* `trimChars_eq_nil_iff`: nothing is left of a text exactly when it is blank throughout;
* `exists_trimChars`, `trimChars_of_framed`: trimming takes blanks away and nothing else, and
  takes all that stand around a text that neither begins nor ends with one;
* `wordsFrom_eq`: the words are what the core library splits off at blanks, less what is empty;
* `words_append_space`, `words_trim`: the words of texts that are joined or trimmed.
-/
import LoadingIndicator.Text.Ranges

namespace LoadingIndicator.Text

/-! ## 1. The property -/

/-- The code points with the property White_Space.  U+001C to U+001F, U+180E, U+200B and
U+FEFF are not among them. -/
def blankRanges : Ranges :=
  [(0x9, 0xd), (0x20, 0x20), (0x85, 0x85), (0xa0, 0xa0), (0x1680, 0x1680), (0x2000, 0x200a),
    (0x2028, 0x2029), (0x202f, 0x202f), (0x205f, 0x205f), (0x3000, 0x3000)]

/-- A character that trimming removes and that stands between words. -/
def isBlank (c : Char) : Bool := blankRanges.holds c.toNat

example : blankRanges.ascending = true := by decide

/-! ## 2. Trimming -/

/-- A text without its blanks in front. -/
def trimFront (cs : List Char) : List Char := cs.dropWhile isBlank

/-- A text without its blanks at the end. -/
def trimBack (cs : List Char) : List Char := (trimFront cs.reverse).reverse

/-- A text from its first to its last character that is not blank. -/
def trimChars (cs : List Char) : List Char := trimBack (trimFront cs)

/-- `trimChars` on strings. -/
def trim (s : String) : String := String.ofList (trimChars s.toList)

@[simp] theorem toList_trim (s : String) : (trim s).toList = trimChars s.toList := by
  simp [trim]

theorem trimFront_eq_nil_iff (cs : List Char) :
    trimFront cs = [] ↔ ∀ c ∈ cs, isBlank c = true := by
  induction cs with
  | nil => simp [trimFront]
  | cons c cs ih =>
    rw [trimFront] at ih ⊢
    by_cases hc : isBlank c = true
    · rw [List.dropWhile_cons_of_pos hc, ih]
      simp [hc]
    · rw [List.dropWhile_cons_of_neg hc]
      simp [hc]

/-- **Nothing is left of a text exactly when it is blank throughout.** -/
theorem trimChars_eq_nil_iff (cs : List Char) :
    trimChars cs = [] ↔ ∀ c ∈ cs, isBlank c = true := by
  rw [← trimFront_eq_nil_iff]
  constructor
  · intro h
    have hall : ∀ c ∈ trimFront cs, isBlank c = true := by
      have h' : trimFront (trimFront cs).reverse = [] := by
        simpa [trimChars, trimBack] using h
      intro c hc
      exact (trimFront_eq_nil_iff _).mp h' c (List.mem_reverse.mpr hc)
    rcases hf : trimFront cs with _ | ⟨d, ds⟩
    · rfl
    · have hd : isBlank d = true := hall d (by simp [hf])
      have hne := List.head?_dropWhile_not isBlank cs
      unfold trimFront at hf
      rw [hf] at hne
      simp [hd] at hne
  · intro h
    rw [trimChars, h]
    rfl

/-! ## 3. What trimming takes away -/

/-- Whether a text is blank throughout. -/
def Blank (s : String) : Prop := ∀ c ∈ s.toList, isBlank c = true

/-- Whether a text neither begins nor ends with a blank. -/
def Bare (cs : List Char) : Prop :=
  (∀ c ∈ cs.head?, isBlank c = false) ∧ ∀ c ∈ cs.getLast?, isBlank c = false

instance (s : String) : Decidable (Blank s) :=
  decidable_of_iff (s.toList.all isBlank = true) List.all_eq_true

theorem bare_iff (cs : List Char) :
    (cs.head?.all (! isBlank ·) && cs.getLast?.all (! isBlank ·)) = true ↔ Bare cs := by
  simp [Bare, Option.all_eq_true]

instance (cs : List Char) : Decidable (Bare cs) := decidable_of_iff _ (bare_iff cs)

/-- In front, only blanks are taken away. -/
theorem exists_trimFront (cs : List Char) :
    ∃ w, (∀ c ∈ w, isBlank c = true) ∧ cs = w ++ trimFront cs := by
  refine ⟨cs.takeWhile isBlank, ?_, List.takeWhile_append_dropWhile.symm⟩
  exact List.all_eq_true.mp List.all_takeWhile

theorem exists_trimBack (cs : List Char) :
    ∃ w, (∀ c ∈ w, isBlank c = true) ∧ cs = trimBack cs ++ w := by
  obtain ⟨w, hw, hcs⟩ := exists_trimFront cs.reverse
  refine ⟨w.reverse, ?_, ?_⟩
  · intro c hc
    exact hw c (List.mem_reverse.mp hc)
  · have h := congrArg List.reverse hcs
    rw [List.reverse_reverse, List.reverse_append] at h
    exact h

/-- **Trimming takes only blanks away.** -/
theorem exists_trimChars (cs : List Char) :
    ∃ w₁ w₂, (∀ c ∈ w₁, isBlank c = true) ∧ (∀ c ∈ w₂, isBlank c = true) ∧
      cs = w₁ ++ trimChars cs ++ w₂ := by
  obtain ⟨w₁, hw₁, hfront⟩ := exists_trimFront cs
  obtain ⟨w₂, hw₂, hback⟩ := exists_trimBack (trimFront cs)
  refine ⟨w₁, w₂, hw₁, hw₂, ?_⟩
  rw [List.append_assoc]
  calc cs = w₁ ++ trimFront cs := hfront
    _ = w₁ ++ (trimChars cs ++ w₂) := congrArg (w₁ ++ ·) hback

theorem trimFront_of_head {cs : List Char} (h : ∀ c ∈ cs.head?, isBlank c = false) :
    trimFront cs = cs := by
  cases cs with
  | nil => rfl
  | cons c cs =>
    have hc : isBlank c = false := h c rfl
    exact List.dropWhile_cons_of_neg (by rw [hc]; exact Bool.false_ne_true)

theorem trimBack_of_last {cs : List Char} (h : ∀ c ∈ cs.getLast?, isBlank c = false) :
    trimBack cs = cs := by
  have hhead : ∀ c ∈ cs.reverse.head?, isBlank c = false := by
    rw [List.head?_reverse]
    exact h
  rw [trimBack, trimFront_of_head hhead, List.reverse_reverse]

theorem trimFront_append {w : List Char} (hw : ∀ c ∈ w, isBlank c = true) (cs : List Char) :
    trimFront (w ++ cs) = trimFront cs := List.dropWhile_append_of_pos hw

theorem trimBack_append {w : List Char} (hw : ∀ c ∈ w, isBlank c = true) (cs : List Char) :
    trimBack (cs ++ w) = trimBack cs := by
  have hrev : ∀ c ∈ w.reverse, isBlank c = true := fun c hc => hw c (List.mem_reverse.mp hc)
  rw [trimBack, List.reverse_append, trimFront_append hrev, trimBack]

/-- **Blanks around a text that has none at its ends are taken away**, and nothing else. -/
theorem trimChars_of_framed {w₁ cs w₂ : List Char} (hw₁ : ∀ c ∈ w₁, isBlank c = true)
    (hw₂ : ∀ c ∈ w₂, isBlank c = true) (h : Bare cs) : trimChars (w₁ ++ cs ++ w₂) = cs := by
  cases cs with
  | nil =>
    rw [List.append_nil, trimChars_eq_nil_iff]
    intro c hc
    rcases List.mem_append.mp hc with hc | hc
    · exact hw₁ c hc
    · exact hw₂ c hc
  | cons c cs =>
    have hhead : ∀ d ∈ (c :: cs ++ w₂).head?, isBlank d = false := h.1
    rw [trimChars, List.append_assoc, trimFront_append hw₁, trimFront_of_head hhead,
      trimBack_append hw₂, trimBack_of_last h.2]

theorem head?_trimFront (cs : List Char) : ∀ c ∈ (trimFront cs).head?, isBlank c = false := by
  intro c hc
  have hhead := List.head?_dropWhile_not isBlank cs
  rw [trimFront] at hc
  rw [Option.mem_def.mp hc] at hhead
  simpa using hhead

theorem getLast?_trimBack (cs : List Char) : ∀ c ∈ (trimBack cs).getLast?, isBlank c = false := by
  rw [trimBack, List.getLast?_reverse]
  exact head?_trimFront cs.reverse

/-- **A trimmed text neither begins nor ends with a blank.** -/
theorem bare_trimChars (cs : List Char) : Bare (trimChars cs) := by
  refine ⟨?_, getLast?_trimBack (trimFront cs)⟩
  intro c hc
  obtain ⟨w, -, hback⟩ := exists_trimBack (trimFront cs)
  have hkept : (trimBack (trimFront cs)).head? = some c := hc
  refine head?_trimFront cs c ?_
  rw [hback, List.head?_append, hkept]
  rfl

/-- Texts that are bare and not empty stay so when they are joined, whatever stands between. -/
theorem Bare.join {xs ys : List Char} (hxs : Bare xs) (hys : Bare ys) (hx : xs ≠ []) (hy : ys ≠ [])
    (between : List Char) : Bare (xs ++ between ++ ys) := by
  constructor
  · have hhead := List.head?_eq_some_head hx
    rw [List.append_assoc, List.head?_append, hhead, Option.some_or, ← hhead]
    exact hxs.1
  · have hlast := List.getLast?_eq_some_getLast hy
    rw [List.getLast?_append, hlast, Option.some_or, ← hlast]
    exact hys.2

/-- **Blanks around a text do not matter.** -/
theorem trimChars_framed {w₁ w₂ : List Char} (hw₁ : ∀ c ∈ w₁, isBlank c = true)
    (hw₂ : ∀ c ∈ w₂, isBlank c = true) (cs : List Char) :
    trimChars (w₁ ++ cs ++ w₂) = trimChars cs := by
  obtain ⟨v₁, v₂, hv₁, hv₂, hcs⟩ := exists_trimChars cs
  have hfront : ∀ c ∈ w₁ ++ v₁, isBlank c = true := List.forall_mem_append.mpr ⟨hw₁, hv₁⟩
  have hback : ∀ c ∈ v₂ ++ w₂, isBlank c = true := List.forall_mem_append.mpr ⟨hv₂, hw₂⟩
  have hsplit : w₁ ++ cs ++ w₂ = (w₁ ++ v₁) ++ trimChars cs ++ (v₂ ++ w₂) := by
    rw [hcs, trimChars_of_framed hv₁ hv₂ (bare_trimChars cs)]
    simp only [List.append_assoc]
  rw [hsplit, trimChars_of_framed hfront hback (bare_trimChars cs)]

/-- Trimming a text takes only blanks away. -/
theorem exists_trim (s : String) :
    ∃ before after : String, Blank before ∧ Blank after ∧ s = before ++ trim s ++ after := by
  obtain ⟨w₁, w₂, hw₁, hw₂, hs⟩ := exists_trimChars s.toList
  refine ⟨String.ofList w₁, String.ofList w₂, ?_, ?_, ?_⟩
  · rw [Blank, String.toList_ofList]
    exact hw₁
  · rw [Blank, String.toList_ofList]
    exact hw₂
  · rw [trim, ← String.ofList_append, ← String.ofList_append, ← hs, String.ofList_toList]

theorem trim_of_bare {s : String} (h : Bare s.toList) : trim s = s := by
  have hnone : ∀ c ∈ ([] : List Char), isBlank c = true := fun c hc => by cases hc
  have htrim := trimChars_of_framed hnone hnone h
  rw [List.nil_append, List.append_nil] at htrim
  rw [trim, htrim, String.ofList_toList]

theorem trim_eq_empty_iff {s : String} : trim s = "" ↔ Blank s := by
  rw [Blank, ← trimChars_eq_nil_iff, ← toList_trim, String.toList_eq_nil_iff]

/-! ## 4. Words -/

/-- The words of a text that continues the word `word`, whose characters stand last first. -/
def wordsFrom (word : List Char) : List Char → List (List Char)
  | [] => if word.isEmpty then [] else [word.reverse]
  | c :: cs =>
    if isBlank c then
      if word.isEmpty then wordsFrom [] cs else word.reverse :: wordsFrom [] cs
    else wordsFrom (c :: word) cs

/-- The words of a text: its longest parts without a blank, in order. -/
def words (s : String) : List String := (wordsFrom [] s.toList).map String.ofList

/-- **The words are what the blanks separate**, as the core library splits a list, less what is
empty. -/
theorem wordsFrom_eq (word cs : List Char) :
    wordsFrom word cs = (cs.splitOnPPrepend isBlank word).filter (! ·.isEmpty) := by
  induction cs generalizing word with
  | nil =>
    cases word with
    | nil => rfl
    | cons d ds => simp [wordsFrom]
  | cons c cs ih =>
    cases hc : isBlank c with
    | true =>
      rw [List.splitOnPPrepend_cons_pos hc, wordsFrom, if_pos hc, ih,
        List.splitOnPPrepend_nil_right]
      cases word with
      | nil => rfl
      | cons d ds => simp
    | false =>
      rw [List.splitOnPPrepend_cons_neg hc, wordsFrom, hc, if_neg Bool.false_ne_true, ih]

/-- A blank ends a word: the words on its two sides are apart. -/
theorem wordsFrom_append_cons {c : Char} (hc : isBlank c = true) (xs ys : List Char) :
    wordsFrom [] (xs ++ c :: ys) = wordsFrom [] xs ++ wordsFrom [] ys := by
  simp only [wordsFrom_eq, List.splitOnPPrepend_nil_right]
  rw [List.splitOnP_append_cons xs ys hc, List.filter_append]

theorem wordsFrom_append_of_blank {w : List Char} (hw : ∀ c ∈ w, isBlank c = true)
    (cs : List Char) : wordsFrom [] (w ++ cs) = wordsFrom [] cs := by
  induction w with
  | nil => rfl
  | cons c w ih =>
    have hrest := ih fun d hd => hw d (List.mem_cons_of_mem c hd)
    have hblank := wordsFrom_append_cons (hw c List.mem_cons_self) [] (w ++ cs)
    rw [List.nil_append] at hblank
    rw [List.cons_append, hblank, hrest]
    rfl

theorem wordsFrom_framed {w₁ w₂ : List Char} (hw₁ : ∀ c ∈ w₁, isBlank c = true)
    (hw₂ : ∀ c ∈ w₂, isBlank c = true) (cs : List Char) :
    wordsFrom [] (w₁ ++ cs ++ w₂) = wordsFrom [] cs := by
  rw [List.append_assoc, wordsFrom_append_of_blank hw₁]
  cases w₂ with
  | nil => rw [List.append_nil]
  | cons c w =>
    have hrest := wordsFrom_append_of_blank (fun d hd => hw₂ d (List.mem_cons_of_mem c hd)) []
    rw [List.append_nil] at hrest
    rw [wordsFrom_append_cons (hw₂ c List.mem_cons_self), hrest, wordsFrom, List.isEmpty_nil,
      if_pos rfl, List.append_nil]

/-- **A space separates the words of two texts.** -/
theorem words_append_space (s t : String) : words (s ++ " " ++ t) = words s ++ words t := by
  have hspace : (s ++ " " ++ t).toList = s.toList ++ ' ' :: t.toList := by
    rw [String.toList_append, String.toList_append, List.append_assoc]
    rfl
  rw [words, hspace, wordsFrom_append_cons (by decide), List.map_append, words, words]

/-- **Trimming keeps the words.** -/
theorem words_trim (s : String) : words (trim s) = words s := by
  obtain ⟨w₁, w₂, hw₁, hw₂, hs⟩ := exists_trimChars s.toList
  have hwords := wordsFrom_framed hw₁ hw₂ (trimChars s.toList)
  rw [← hs] at hwords
  rw [words, words, toList_trim, hwords]

end LoadingIndicator.Text
