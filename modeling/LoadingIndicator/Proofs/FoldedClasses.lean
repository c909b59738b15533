/-
# Class texts that are put back

A style's own class texts may be put back as its added classes, the container's or the indicator's,
again and again and with sizes set in between.  What the container has in the end can be written
down.  The container's own classes stand in front once for each time that its text was put back,
and once more; behind them stands what was added first, or what the indicator had when its text was
put back last.

That this is exact, with one space at each joint, rests on one invariant.  The text that is put
back is bare, whatever was added, so that trimming it before it is joined again takes nothing away.

Main statement:

* `folded_classes`: both forms, the words that are added, and what no longer shows.
-/
import LoadingIndicator.Proofs.Separation

namespace LoadingIndicator.Style

open Text (Bare words)

/-! ## 1. One step -/

/-- A container's own classes and a space, `n` times. -/
def bases (n : Nat) : String := String.join (List.replicate n (containerBase ++ " "))

theorem bases_succ (n : Nat) : bases (n + 1) = bases n ++ (containerBase ++ " ") := by
  rw [bases, bases, List.replicate_succ', String.join_append, String.join_cons, String.join_nil,
    String.append_empty]

/-- **The container's classes that are put back stand behind its own**, as they are. -/
theorem containerClass_foldContainer (s : Style) :
    (s.edit .foldContainer).containerClass = containerBase ++ " " ++ s.containerClass :=
  containerClass_withClass_of_bare (bare_containerClass s) (containerClass_ne_empty s) s

/-- **So do the indicator's**, and what was added before is gone. -/
theorem containerClass_foldIndicator (s : Style) :
    (s.edit .foldIndicator).containerClass = containerBase ++ " " ++ s.indicatorClass :=
  containerClass_withClass_of_bare (bare_indicatorClass s).1 (bare_indicatorClass s).2 s

theorem containerClass_edit_of_size {e : Edit} (h : e.part = .size) (s : Style) :
    (s.edit e).containerClass = s.containerClass := by
  rw [containerClass_eq_iff, className_edit_of_size h]

theorem words_foldContainer (s : Style) :
    words (s.edit .foldContainer).containerClass =
      ["flex", "justify-center", "items-center"] ++ words s.containerClass := by
  rw [containerClass_foldContainer, Text.words_append_space, containerBase_spec.1]

theorem mem_words_foldContainer (s : Style) (w : String) :
    w ∈ words (s.edit .foldContainer).containerClass ↔ w ∈ words s.containerClass := by
  rw [words_foldContainer, words_containerClass, containerBase_spec.1]
  simp only [List.mem_append]
  constructor
  · rintro (hown | hall)
    · exact Or.inl hown
    · exact hall
  · intro hall
    exact Or.inr hall

/-! ## 2. Runs -/

/-- Whether an edit brings no classes from outside and takes none away: it sets the size, or puts
one of the style's own class texts back. -/
def Internal (e : Edit) : Prop := e.part = .size ∨ e = .foldContainer ∨ e = .foldIndicator

/-- **A run in which only the container's classes are put back**: its own stand in front once for
each time. -/
theorem containerClass_run {edits : List Edit} (hinternal : ∀ e ∈ edits, Internal e)
    (hfold : Edit.foldIndicator ∉ edits) (s : Style) :
    (s.run edits).containerClass = bases (edits.count .foldContainer) ++ s.containerClass := by
  induction edits generalizing s with
  | nil => exact (String.empty_append).symm
  | cons e edits ih =>
    have hrest := ih (fun d hd => hinternal d (List.mem_cons_of_mem e hd))
      (fun hmem => hfold (List.mem_cons_of_mem e hmem)) (s.edit e)
    rw [run_cons, hrest]
    rcases hinternal e List.mem_cons_self with hsize | rfl | rfl
    · have hother : e ≠ .foldContainer := by
        rintro rfl
        cases hsize
      rw [containerClass_edit_of_size hsize, List.count_cons_of_ne hother]
    · rw [containerClass_foldContainer, List.count_cons_self, bases_succ]
      simp only [String.append_assoc]
    · exact absurd List.mem_cons_self hfold

theorem exists_last {e : Edit} {edits : List Edit} (h : e ∈ edits) :
    ∃ before after, edits = before ++ e :: after ∧ e ∉ after := by
  obtain ⟨xs, ys, hsplit, hnot⟩ := List.eq_append_cons_of_mem (List.mem_reverse.mpr h)
  refine ⟨ys.reverse, xs.reverse, ?_, fun hmem => hnot (List.mem_reverse.mp hmem)⟩
  have hback := congrArg List.reverse hsplit
  rw [List.reverse_reverse, List.reverse_append, List.reverse_cons, List.append_assoc] at hback
  exact hback

/-- **A run in which the indicator's classes are put back**: the last such time and what comes after
it decide, whatever the style was before. -/
theorem containerClass_run_last {edits : List Edit} (hinternal : ∀ e ∈ edits, Internal e)
    (hmem : Edit.foldIndicator ∈ edits) :
    ∃ before after, edits = before ++ .foldIndicator :: after ∧ Edit.foldIndicator ∉ after ∧
      ∀ s : Style, (s.run edits).containerClass =
        bases (after.count .foldContainer + 1) ++ (s.run before).indicatorClass := by
  obtain ⟨before, after, rfl, hlast⟩ := exists_last hmem
  have hafter : ∀ e ∈ after, Internal e := by
    intro e he
    exact hinternal e (List.mem_append_right before (List.mem_cons_of_mem _ he))
  refine ⟨before, after, rfl, hlast, ?_⟩
  intro s
  rw [run_append, run_cons, containerClass_run hafter hlast, containerClass_foldIndicator,
    bases_succ]
  simp only [String.append_assoc]

/-- The indicator's classes are those of the size that the run has set last, whatever is put back in
between. -/
theorem indicatorClass_run {edits : List Edit} (hinternal : ∀ e ∈ edits, Internal e) (s : Style) :
    (s.run edits).indicatorClass =
      (s.run (edits.filter fun e => e.part == .size)).indicatorClass := by
  -- without a reset, what sets the size sets nothing else
  have hreset : Edit.reset ∉ edits := by
    intro hmem
    rcases hinternal _ hmem with hsize | hfold | hfold
    · cases hsize
    · cases hfold
    · cases hfold
  have hview : sizeView (s.run edits) = sizeView (s.run (edits.filter (Edit.sets .size))) :=
    (decides_size edits).run_filter rfl
  rw [filter_sets hreset] at hview
  exact congrArg Prod.snd hview

theorem indicatorClass_run_congr {s t : Style} (h : s.size = t.size) (edits : List Edit) :
    (s.run edits).indicatorClass = (t.run edits).indicatorClass := by
  have hs : sizeView (s.run edits) = sizeView (t.run (edits.filter (Edit.sets .size))) :=
    (decides_size edits).run_filter (sizeView_eq_iff.mpr h)
  have ht : sizeView (t.run edits) = sizeView (t.run (edits.filter (Edit.sets .size))) :=
    (decides_size edits).run_filter rfl
  exact congrArg Prod.snd (hs.trans ht.symm)

/-! ## 3. The closed forms -/

/-- **Class texts that are put back have a closed form.**  When the container's text is put back `n`
times, its own classes stand in front of what it had, `n` times and each time with one space.  When
a run sets sizes and puts back either text, and the indicator's at least once, what the container
has is told by the size at the last such time and by how often its own text is put back after it;
nothing shows of what was added before the run.  The indicator's classes are those of the size that
was set last.  Each putting back of the container's text adds its own three words and no new ones,
and no text that is put back begins or ends with a blank, so that the joints hold one space each. -/
theorem folded_classes :
    (∀ (s : Style) (n : Nat),
      (s.run (List.replicate n .foldContainer)).containerClass = bases n ++ s.containerClass ∧
        (s.run (List.replicate n .foldContainer)).indicatorClass = s.indicatorClass) ∧
      (∀ (s : Style) (edits : List Edit), (∀ e ∈ edits, Internal e) → Edit.foldIndicator ∈ edits →
        ∃ before after, edits = before ++ .foldIndicator :: after ∧ Edit.foldIndicator ∉ after ∧
          (s.run edits).containerClass =
            bases (after.count .foldContainer + 1) ++ (s.run before).indicatorClass ∧
          (s.run edits).indicatorClass =
            (s.run (edits.filter fun e => e.part == .size)).indicatorClass) ∧
      (∀ (s t : Style) (edits : List Edit), (∀ e ∈ edits, Internal e) →
        Edit.foldIndicator ∈ edits → s.size = t.size →
          (s.run edits).containerClass = (t.run edits).containerClass) ∧
      ∀ s : Style,
        (words (s.edit .foldContainer).containerClass =
            ["flex", "justify-center", "items-center"] ++ words s.containerClass ∧
          ∀ w, w ∈ words (s.edit .foldContainer).containerClass ↔ w ∈ words s.containerClass) ∧
        Bare s.containerClass.toList ∧ Bare s.indicatorClass.toList := by
  refine ⟨?_, ?_, ?_, ?_⟩
  · intro s n
    have hinternal : ∀ e ∈ List.replicate n Edit.foldContainer, Internal e := by
      intro e he
      exact Or.inr (Or.inl (List.eq_of_mem_replicate he))
    have hfold : Edit.foldIndicator ∉ List.replicate n Edit.foldContainer := by
      intro hmem
      cases List.eq_of_mem_replicate hmem
    have hsizes : (List.replicate n Edit.foldContainer).filter (fun e => e.part == .size) = [] :=
      List.filter_replicate_of_neg (by decide)
    constructor
    · rw [containerClass_run hinternal hfold, List.count_replicate_self]
    · rw [indicatorClass_run hinternal, hsizes, run_nil]
  · intro s edits hinternal hmem
    obtain ⟨before, after, hsplit, hlast, hform⟩ := containerClass_run_last hinternal hmem
    exact ⟨before, after, hsplit, hlast, hform s, indicatorClass_run hinternal s⟩
  · intro s t edits hinternal hmem hsize
    obtain ⟨before, after, -, -, hform⟩ := containerClass_run_last hinternal hmem
    rw [hform s, hform t, indicatorClass_run_congr hsize]
  · intro s
    exact ⟨⟨words_foldContainer s, mem_words_foldContainer s⟩, bare_containerClass s,
      (bare_indicatorClass s).1⟩

/-- A padded class, put back twice; and a run that loses it, through a size that is refused and one
that is set after the indicator's text was put back. -/
theorem folded_classes_padded :
    let s : Style := ⟨.small, some " p-4 "⟩
    let edits : List Edit := [.foldContainer, .setSize .large, .foldIndicator, .parseSize "xl",
      .foldContainer, .attributeSize (some "sm")]
    (s.run (List.replicate 2 .foldContainer)).containerClass = bases 2 ++ s.containerClass ∧
      (∃ before after, edits = before ++ .foldIndicator :: after ∧ Edit.foldIndicator ∉ after ∧
        (s.run edits).containerClass =
          bases (after.count .foldContainer + 1) ++ (s.run before).indicatorClass ∧
        (s.run edits).indicatorClass =
          (s.run (edits.filter fun e => e.part == .size)).indicatorClass) ∧
      (s.run edits).containerClass = ((Style.mk .small none).run edits).containerClass := by
  intro s edits
  obtain ⟨hcontainer, hindicator, hforgets, -⟩ := folded_classes
  have hinternal : ∀ e ∈ edits, Internal e := by
    intro e he
    simp only [edits, List.mem_cons, List.not_mem_nil, or_false] at he
    rcases he with rfl | rfl | rfl | rfl | rfl | rfl
    · exact Or.inr (Or.inl rfl)
    · exact Or.inl rfl
    · exact Or.inr (Or.inr rfl)
    · exact Or.inl rfl
    · exact Or.inr (Or.inl rfl)
    · exact Or.inl rfl
  have hmem : Edit.foldIndicator ∈ edits := by decide
  exact ⟨(hcontainer s 2).1, hindicator s edits hinternal hmem,
    hforgets s (Style.mk .small none) edits hinternal hmem rfl⟩

end LoadingIndicator.Style
