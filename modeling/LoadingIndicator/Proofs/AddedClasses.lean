/-
# Added classes are added and nothing else

A container has three words of its own, and its user may add a text.  Adding is joining: the text
is trimmed and put behind a space, and what the container then has is split into words again where
it is drawn.  The two traversals do not know of each other, so that words could be lost at the
joint, or grown together there, or a blank text could leave a trace.

Main statement:

* `added_class_kept`: the words of the container, the ends of its classes, and the classes
  themselves for every text that is added.
-/
import LoadingIndicator.Style

namespace LoadingIndicator.Style

open Text (Bare Blank trim words)

/-! ## 1. Blank additions -/

theorem blank_getD_iff {added : Option String} :
    Blank (added.getD "") ↔ added = none ∨ ∃ c, added = some c ∧ Blank c := by
  cases added with
  | none =>
    refine ⟨fun _ => Or.inl rfl, fun _ => ?_⟩
    intro c hc
    cases hc
  | some c => simp

/-! ## 2. What is added -/

/-- **The words of a container are its own three and then those of the added text.** -/
theorem words_of_added (s : Style) :
    words s.containerClass =
      ["flex", "justify-center", "items-center"] ++ s.className.elim [] words := by
  rw [words_containerClass, containerBase_spec.1]
  cases s.className with
  | none => rfl
  | some c => rfl

/-- **Added classes are purely additive.**  Whatever text is added, the container has its own three
words and then the words of the text, in order and as often as they stand there.  Neither end of its
classes is blank.  They are its own alone exactly if nothing is added or only blanks; and otherwise
the text stands behind them and a space, from its first to its last character that is not blank,
unchanged within. -/
theorem added_class_kept (s : Style) :
    words s.containerClass =
        ["flex", "justify-center", "items-center"] ++ s.className.elim [] words ∧
      Bare s.containerClass.toList ∧
      (s.containerClass = containerBase ↔
        s.className = none ∨ ∃ c, s.className = some c ∧ Blank c) ∧
      ∀ c, s.className = some c → ¬ Blank c → ∃ before kept after : String,
        c = before ++ kept ++ after ∧ Blank before ∧ Blank after ∧ kept ≠ "" ∧ Bare kept.toList ∧
          s.containerClass = containerBase ++ " " ++ kept := by
  refine ⟨words_of_added s, bare_containerClass s, ?_, ?_⟩
  · rw [containerClass_eq_base_iff, blank_getD_iff]
  · intro c hc hblank
    obtain ⟨before, after, hbefore, hafter, hsplit⟩ := Text.exists_trim c
    have hkept : trim c ≠ "" := fun hempty => hblank (Text.trim_eq_empty_iff.mp hempty)
    have hbare : Bare (trim c).toList := by
      rw [Text.toList_trim]
      exact Text.bare_trimChars c.toList
    refine ⟨before, trim c, after, hsplit, hbefore, hafter, hkept, hbare, ?_⟩
    rw [containerClass, hc, Option.getD_some, joinClass_of_ne_empty hkept]

/-- A text with wide blanks around it, a line break within, and a word that the container has. -/
theorem added_class_kept_inner :
    let s : Style := ⟨.small, some "\u3000p-4\n flex\u00a0"⟩
    words s.containerClass = ["flex", "justify-center", "items-center", "p-4", "flex"] ∧
      (∃ before kept after : String,
        "\u3000p-4\n flex\u00a0" = before ++ kept ++ after ∧ Blank before ∧ Blank after ∧
          kept ≠ "" ∧ Bare kept.toList ∧ s.containerClass = containerBase ++ " " ++ kept) := by
  intro s
  obtain ⟨hwords, -, -, hkept⟩ := added_class_kept s
  have hblank : ¬ Blank "\u3000p-4\n flex\u00a0" := by decide
  constructor
  · rw [hwords]
    decide +kernel
  · exact hkept _ rfl hblank

end LoadingIndicator.Style
