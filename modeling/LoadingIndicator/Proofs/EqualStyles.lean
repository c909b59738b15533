/-
# What tells styles apart

Three views of a style are compared: its term, the classes of the container and those of the
indicator.  The term tells everything.  The added classes stand in it in quotes, so that no text
that somebody adds can pass for the end of the term, for another size, or for there being none.  The
container's classes tell the added text up to the blanks around it, which trimming takes away, and
cannot tell a blank text from none.  The indicator's classes tell the size.

Main statement:

* `equal_views`: when two styles have the same view, for each of the three.
-/
import LoadingIndicator.Style.Edit

namespace LoadingIndicator.Style

open Text (Blank trim)

/-! ## 1. Texts that differ in blanks -/

/-- Whether a text is another one with blanks around it. -/
def Pads (kept s : String) : Prop :=
  ∃ before after : String, Blank before ∧ Blank after ∧ s = before ++ kept ++ after

theorem trim_of_pads {kept s : String} (h : Pads kept s) : trim s = trim kept := by
  obtain ⟨before, after, hbefore, hafter, rfl⟩ := h
  rw [trim, String.toList_append, String.toList_append, Text.trimChars_framed hbefore hafter, trim]

/-- **Texts are the same when trimmed exactly if they are one text with blanks around it.** -/
theorem trim_eq_trim_iff {s t : String} : trim s = trim t ↔ ∃ kept, Pads kept s ∧ Pads kept t := by
  constructor
  · intro h
    refine ⟨trim s, Text.exists_trim s, ?_⟩
    rw [h]
    exact Text.exists_trim t
  · rintro ⟨kept, hs, ht⟩
    rw [trim_of_pads hs, trim_of_pads ht]

/-- Whether added classes differ at most in the blanks around them, or in being blank or none. -/
def SameAdded : Option String → Option String → Prop
  | none, none => True
  | none, some d => Blank d
  | some c, none => Blank c
  | some c, some d => ∃ kept, Pads kept c ∧ Pads kept d

/-- Such classes are the same when trimmed, if none count as the empty text. -/
theorem sameAdded_iff {c d : Option String} :
    SameAdded c d ↔ trim (c.getD "") = trim (d.getD "") := by
  have hnone : trim "" = "" := rfl
  cases c with
  | none =>
    cases d with
    | none => exact ⟨fun _ => rfl, fun _ => trivial⟩
    | some d =>
      rw [SameAdded, Option.getD_none, Option.getD_some, hnone, eq_comm, Text.trim_eq_empty_iff]
  | some c =>
    cases d with
    | none => rw [SameAdded, Option.getD_none, Option.getD_some, hnone, Text.trim_eq_empty_iff]
    | some d => rw [SameAdded, Option.getD_some, Option.getD_some, trim_eq_trim_iff]

/-! ## 2. Three views -/

theorem exists_run (s : Style) : ∃ edits, standard.run edits = s :=
  ⟨[.setSize s.size, .setClass s.className], rfl⟩

/-- **Both class texts are the same exactly if the size is and the added classes differ at most in
blanks.** -/
theorem classes_eq_iff {a b : Style} :
    a.containerClass = b.containerClass ∧ a.indicatorClass = b.indicatorClass ↔
      a.size = b.size ∧ SameAdded a.className b.className := by
  rw [containerClass_eq_iff, indicatorClass_eq_iff, sameAdded_iff, And.comm]

/-- **When two styles have the same views.**  For any two styles, and so for the ends of any two
runs: they are equal exactly if their terms are.  Their containers have the same classes exactly if
the added texts are the same when trimmed, whatever the sizes, and none count as the empty text.  So
equal styles have the same class texts; and styles with the same class texts have one size, and the
same added text but for the blanks around it, or a blank one and none. -/
theorem equal_views (a b : Style) :
    ((∃ xs, standard.run xs = a) ∧ ∃ ys, standard.run ys = b) ∧
      (a = b ↔ a.term = b.term) ∧
      (a.containerClass = b.containerClass ↔
        trim (a.className.getD "") = trim (b.className.getD "")) ∧
      (a = b → a.containerClass = b.containerClass ∧ a.indicatorClass = b.indicatorClass) ∧
      (a.containerClass = b.containerClass ∧ a.indicatorClass = b.indicatorClass ↔
        a.size = b.size ∧ SameAdded a.className b.className) := by
  refine ⟨⟨exists_run a, exists_run b⟩, term_inj.symm, containerClass_eq_iff, ?_, classes_eq_iff⟩
  rintro rfl
  exact ⟨rfl, rfl⟩

/-- A text that would end the term of another style, the word for none, the container's own classes,
and a blank. -/
theorem equal_views_forged :
    let plain : Style := ⟨.medium, none⟩
    let reached : Style :=
      standard.run [.withClass "p", .setClass (some "\") \x7d"), .setSize .medium]
    reached.term = (Style.mk .medium (some "\") \x7d")).term ∧
      reached.containerClass = (Style.mk .medium (some "\") \x7d")).containerClass ∧
      (Style.mk .medium (some "None")).term ≠ plain.term ∧
      (Style.mk .medium (some containerBase)).containerClass ≠ plain.containerClass ∧
      (Style.mk .medium (some " \u3000")).containerClass = plain.containerClass := by
  intro plain reached
  obtain ⟨-, hterm, -, hclasses, -⟩ := equal_views reached (Style.mk .medium (some "\") \x7d"))
  obtain ⟨-, hword, -⟩ := equal_views (Style.mk .medium (some "None")) plain
  obtain ⟨-, -, hown, -⟩ := equal_views (Style.mk .medium (some containerBase)) plain
  obtain ⟨-, -, hblank, -⟩ := equal_views (Style.mk .medium (some " \u3000")) plain
  refine ⟨hterm.mp rfl, (hclasses rfl).1, ?_, ?_, hblank.mpr ?_⟩
  · rw [ne_eq, ← hword]
    decide
  · rw [ne_eq, hown]
    decide +kernel
  · decide +kernel

end LoadingIndicator.Style
