/-
# Size and classes do not interfere

A style has two parts, and the edits of one must not be felt in the other, in whatever order they
come and however often one of them is refused.  Stated for two runs: leave out of a run all edits
of one part, and what is seen of the other part after its own edits stays as it was.

One edit is an exception by its nature.  It puts the indicator's classes, which tell the size,
among the added ones, so runs with it say nothing about the classes; about the size they still do.
A reset touches both parts and belongs to the edits of each.

Main statement:

* `size_and_class_apart`: what is seen of either part in every run, and that runs which mingle the
  same edits of both in different ways end in the same style.
-/
import LoadingIndicator.Style.Edit

namespace LoadingIndicator.Style

/-! ## 1. Two views of a style -/

/-- What is seen of the size: the size and the indicator's classes. -/
def sizeView (s : Style) : Size × String := (s.size, s.indicatorClass)

/-- What is seen of the added classes: they themselves and the container's classes. -/
def classView (s : Style) : Option String × String := (s.className, s.containerClass)

theorem sizeView_eq_iff {s t : Style} : sizeView s = sizeView t ↔ s.size = t.size := by
  constructor
  · intro h
    exact congrArg Prod.fst h
  · intro h
    rw [sizeView, sizeView, indicatorClass_eq_iff.mpr h, h]

theorem classView_eq_iff {s t : Style} : classView s = classView t ↔ s.className = t.className := by
  constructor
  · intro h
    exact congrArg Prod.fst h
  · intro h
    have hcontainer : s.containerClass = t.containerClass := by
      rw [containerClass_eq_iff, h]
    rw [classView, classView, hcontainer, h]

/-! ## 2. Each part decides its view -/

/-- The edits that set the size decide it in every run. -/
theorem decides_size (edits : List Edit) : Decides (Edit.sets .size) sizeView edits where
  step e _ s t h := by
    rw [sizeView_eq_iff] at h ⊢
    exact size_edit_congr h e
  skip e _ hkept s := by
    rw [sizeView_eq_iff]
    exact size_edit_of_className (Edit.part_of_not_sets_size hkept) s

/-- The edits that set the added classes decide them in every run that does not take the
indicator's classes in. -/
theorem decides_class {edits : List Edit} (hfold : Edit.foldIndicator ∉ edits) :
    Decides (Edit.sets .className) classView edits where
  step e he s t h := by
    have hother : e ≠ .foldIndicator := by
      rintro rfl
      exact hfold he
    rw [classView_eq_iff] at h ⊢
    exact className_edit_congr h hother
  skip e _ hkept s := by
    rw [classView_eq_iff]
    exact className_edit_of_size (Edit.part_of_not_sets_className hkept) s

/-! ## 3. Mingled runs -/

/-- Without a reset, the edits that set a part are those that set it alone. -/
theorem filter_sets {edits : List Edit} (hreset : Edit.reset ∉ edits) (p : Part) :
    edits.filter (Edit.sets p) = edits.filter fun e => e.part == p := by
  refine List.filter_congr ?_
  intro e he
  have hpart : e.part ≠ .whole := by
    intro hwhole
    rw [Edit.eq_reset_of_part hwhole] at he
    exact hreset he
  rw [Edit.sets, beq_eq_false_iff_ne.mpr hpart, Bool.or_false]

/-- **However the same edits of both parts are mingled, the style at the end is the same.** -/
theorem run_eq_of_filter {xs ys : List Edit} (hx : Edit.reset ∉ xs ∧ Edit.foldIndicator ∉ xs)
    (hy : Edit.reset ∉ ys ∧ Edit.foldIndicator ∉ ys)
    (hsize : (xs.filter fun e => e.part == .size) = ys.filter fun e => e.part == .size)
    (hclass : (xs.filter fun e => e.part == .className) =
      ys.filter fun e => e.part == .className) (s : Style) : s.run xs = s.run ys := by
  have hsizes : (s.run xs).size = (s.run ys).size := by
    rw [← sizeView_eq_iff, (decides_size xs).run_filter rfl, (decides_size ys).run_filter rfl,
      filter_sets hx.1, filter_sets hy.1, hsize]
  have hclasses : (s.run xs).className = (s.run ys).className := by
    rw [← classView_eq_iff, (decides_class hx.2).run_filter rfl,
      (decides_class hy.2).run_filter rfl, filter_sets hx.1, filter_sets hy.1, hclass]
  calc s.run xs = ⟨(s.run xs).size, (s.run xs).className⟩ := rfl
    _ = ⟨(s.run ys).size, (s.run ys).className⟩ := by rw [hsizes, hclasses]
    _ = s.run ys := rfl

/-- **Size and classes do not interfere.**  What is seen of the size after the edits that set it is
the same in the run without all other edits.  What is seen of the added classes after the edits
that set them is so too, unless the run takes the indicator's classes in.  So two runs with the
same edits of each part, without such an edit and without a reset, end in the same style, however
they mingle the two and whether or not a size among them is refused. -/
theorem size_and_class_apart (s : Style) :
    (∀ edits : List Edit,
      ((statesAfter (Edit.sets .size) s edits).map fun seen =>
          (seen.style.size, seen.style.indicatorClass)) =
        (statesAfter (Edit.sets .size) s (edits.filter (Edit.sets .size))).map fun seen =>
          (seen.style.size, seen.style.indicatorClass)) ∧
      (∀ edits : List Edit, Edit.foldIndicator ∉ edits →
        ((statesAfter (Edit.sets .className) s edits).map fun seen =>
            (seen.style.className, seen.style.containerClass)) =
          (statesAfter (Edit.sets .className) s (edits.filter (Edit.sets .className))).map
            fun seen => (seen.style.className, seen.style.containerClass)) ∧
      ∀ xs ys : List Edit, Edit.reset ∉ xs ∧ Edit.foldIndicator ∉ xs →
        Edit.reset ∉ ys ∧ Edit.foldIndicator ∉ ys →
        (xs.filter fun e => e.part == .size) = (ys.filter fun e => e.part == .size) →
        (xs.filter fun e => e.part == .className) = (ys.filter fun e => e.part == .className) →
        s.run xs = s.run ys := by
  refine ⟨?_, ?_, ?_⟩
  · intro edits
    exact (decides_size edits).statesAfter_filter rfl
  · intro edits hfold
    exact (decides_class hfold).statesAfter_filter rfl
  · intro xs ys hx hy hsize hclass
    exact run_eq_of_filter hx hy hsize hclass s

/-- A refused size and a container folded into itself make no difference to the other part. -/
theorem size_and_class_apart_refused :
    let sizes : List Edit := [.withSize .large, .parseSize "xl", .attributeSize (some "sm")]
    let classes : List Edit := [.withClass " p-4 ", .foldContainer]
    let mingled : List Edit := [.withClass " p-4 ", .withSize .large, .parseSize "xl",
      .foldContainer, .attributeSize (some "sm")]
    standard.run mingled = standard.run (sizes ++ classes) ∧
      ((statesAfter (Edit.sets .className) standard mingled).map fun seen =>
          (seen.style.className, seen.style.containerClass)) =
        [(some " p-4 ", "flex justify-center items-center p-4"),
          (some "flex justify-center items-center p-4",
            "flex justify-center items-center flex justify-center items-center p-4")] := by
  intro sizes classes mingled
  obtain ⟨-, hclasses, hmingled⟩ := size_and_class_apart standard
  constructor
  · exact hmingled mingled (sizes ++ classes) (by decide) (by decide) (by decide) (by decide)
  · rw [hclasses mingled (by decide)]
    decide +kernel

end LoadingIndicator.Style
