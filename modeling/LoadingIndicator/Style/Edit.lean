/-
# Editing a style

A style is built by edits, one after another.  Some set the size or the added classes, some read
the size from a text, some put the style's own class texts back as added classes, and one starts
afresh.  A size that is read strictly and refused leaves the style as it was, and the refusal is
handed back; one that is read leniently and refused becomes the standard size and is logged.

Main statements:

* `states_append`: the states of a run cut in two are those of its parts, the second of which
  starts where the first ends;
* `statesAfter_eq_states_filter`: edits that change nothing can be left out of a run;
* `Decides.statesAfter_filter`, `Decides.run_filter`: what the edits that are left out of a run
  neither change nor carry is the same with them and without.
-/
import LoadingIndicator.Size.Parse
import LoadingIndicator.Style

namespace LoadingIndicator

/-! ## 1. Edits -/

/-- One change to a style. -/
inductive Edit
  | withSize (z : Size)
  | withClass (c : String)
  | parseSize (text : String)
  | attributeSize (value : Option String)
  | setSize (z : Size)
  | setClass (c : Option String)
  | clearClass
  | foldContainer
  | foldIndicator
  | reset
  deriving DecidableEq

namespace Style

/-- The style after an edit. -/
def edit (s : Style) : Edit → Style
  | .withSize z => s.withSize z
  | .withClass c => s.withClass c
  | .parseSize text =>
    match Size.parse text with
    | .ok z => s.withSize z
    | .error _ => s
  | .attributeSize value => s.withSize (Size.ofAttribute value).1
  | .setSize z => { s with size := z }
  | .setClass c => { s with className := c }
  | .clearClass => { s with className := none }
  | .foldContainer => s.withClass s.containerClass
  | .foldIndicator => s.withClass s.indicatorClass
  | .reset => standard

/-- The style after a run of edits. -/
def run (s : Style) (edits : List Edit) : Style := edits.foldl edit s

end Style

namespace Edit

/-- The refusal that an edit hands back. -/
def refusal? : Edit → Option UnknownSize
  | .parseSize text =>
    match Size.parse text with
    | .ok _ => none
    | .error e => some e
  | _ => none

/-- The lines that an edit logs. -/
def logs : Edit → List Log.Line
  | .attributeSize value => (Size.ofAttribute value).2
  | _ => []

end Edit

/-! ## 2. Runs -/

namespace Style

/-- What can be seen after an edit: the style, the refusal handed back and the lines logged. -/
structure State where
  style : Style
  refusal : Option UnknownSize := none
  logs : List Log.Line := []
  deriving DecidableEq

/-- What can be seen after each of a run of edits. -/
def states (s : Style) : List Edit → List State
  | [] => []
  | e :: edits => ⟨s.edit e, e.refusal?, e.logs⟩ :: states (s.edit e) edits

/-- What can be seen of a run of edits on the standard style, from its start on. -/
def history (edits : List Edit) : List State := { style := standard } :: states standard edits

@[simp] theorem run_nil (s : Style) : s.run [] = s := rfl

@[simp] theorem run_cons (s : Style) (e : Edit) (edits : List Edit) :
    s.run (e :: edits) = (s.edit e).run edits := rfl

/-- A run of edits can be cut anywhere. -/
theorem run_append (s : Style) (xs ys : List Edit) : s.run (xs ++ ys) = (s.run xs).run ys :=
  List.foldl_append

/-- **The states of a run cut in two are those of its parts**: the second part starts with the
style in which the first ends. -/
theorem states_append (s : Style) (xs ys : List Edit) :
    states s (xs ++ ys) = states s xs ++ states (s.run xs) ys := by
  induction xs generalizing s with
  | nil => rfl
  | cons e xs ih => simp [states, ih]

end Style

/-! ## 3. What an edit sets -/

/-- The parts of a style that can be set: the size, the added classes, or both at once. -/
inductive Part
  | size
  | className
  | whole
  deriving DecidableEq

/-- What an edit sets. -/
def Edit.part : Edit → Part
  | .withSize _ => .size
  | .withClass _ => .className
  | .parseSize _ => .size
  | .attributeSize _ => .size
  | .setSize _ => .size
  | .setClass _ => .className
  | .clearClass => .className
  | .foldContainer => .className
  | .foldIndicator => .className
  | .reset => .whole

def Edit.sets (p : Part) (e : Edit) : Bool := e.part == p || e.part == .whole

theorem Edit.eq_reset_of_part {e : Edit} (h : e.part = .whole) : e = .reset := by
  cases e with
  | reset => rfl
  | _ => cases h

theorem Edit.part_of_not_sets_size {e : Edit} (h : ¬ e.sets .size = true) :
    e.part = .className := by
  unfold sets at h
  cases hp : e.part with
  | className => rfl
  | _ => simp [hp] at h

theorem Edit.part_of_not_sets_className {e : Edit} (h : ¬ e.sets .className = true) :
    e.part = .size := by
  unfold sets at h
  cases hp : e.part with
  | size => rfl
  | _ => simp [hp] at h

theorem Edit.refusal?_of_ok {text : String} {z : Size} (h : Size.parse text = .ok z) :
    (Edit.parseSize text).refusal? = none := by
  unfold refusal?
  simp only [h]

theorem Edit.refusal?_of_error {text : String} {e : UnknownSize} (h : Size.parse text = .error e) :
    (Edit.parseSize text).refusal? = some e := by
  unfold refusal?
  simp only [h]

namespace Style

theorem edit_parseSize_of_ok {text : String} {z : Size} (h : Size.parse text = .ok z) (s : Style) :
    s.edit (.parseSize text) = s.withSize z := by
  unfold edit
  simp only [h]

theorem edit_parseSize_of_error {text : String} {e : UnknownSize}
    (h : Size.parse text = .error e) (s : Style) : s.edit (.parseSize text) = s := by
  unfold edit
  simp only [h]

theorem edit_attributeSize (value : Option String) (s : Style) :
    s.edit (.attributeSize value) = s.withSize (Size.ofAttribute value).1 := rfl

/-- Edits of the added classes leave the size as it is. -/
theorem size_edit_of_className {e : Edit} (h : e.part = .className) (s : Style) :
    (s.edit e).size = s.size := by
  cases e with
  | withClass c => rfl
  | setClass c => rfl
  | clearClass => rfl
  | foldContainer => rfl
  | foldIndicator => rfl
  | _ => cases h

/-- Edits of the size leave the added classes as they are, also one that is refused. -/
theorem className_edit_of_size {e : Edit} (h : e.part = .size) (s : Style) :
    (s.edit e).className = s.className := by
  cases e with
  | withSize z => rfl
  | attributeSize value => rfl
  | setSize z => rfl
  | parseSize text =>
    cases hread : Size.parse text with
    | ok z =>
      rw [edit_parseSize_of_ok hread]
      rfl
    | error e => rw [edit_parseSize_of_error hread]
  | _ => cases h

theorem size_edit_congr {s t : Style} (h : s.size = t.size) (e : Edit) :
    (s.edit e).size = (t.edit e).size := by
  cases e with
  | withSize z => rfl
  | attributeSize value => rfl
  | setSize z => rfl
  | reset => rfl
  | parseSize text =>
    cases hread : Size.parse text with
    | ok z =>
      rw [edit_parseSize_of_ok hread, edit_parseSize_of_ok hread]
      rfl
    | error e =>
      rw [edit_parseSize_of_error hread, edit_parseSize_of_error hread]
      exact h
  | _ => exact h

/-- The added classes after an edit are told by the edit and those before it, unless it puts the
indicator's classes there, which depend on the size. -/
theorem className_edit_congr {s t : Style} (h : s.className = t.className) {e : Edit}
    (he : e ≠ .foldIndicator) : (s.edit e).className = (t.edit e).className := by
  cases e with
  | withClass c => rfl
  | setClass c => rfl
  | clearClass => rfl
  | reset => rfl
  | foldContainer =>
    have hcontainer : s.containerClass = t.containerClass := by
      rw [containerClass_eq_iff, h]
    exact congrArg some hcontainer
  | foldIndicator => exact absurd rfl he
  -- what is left sets the size alone
  | withSize | attributeSize | setSize | parseSize =>
    rw [className_edit_of_size rfl s, className_edit_of_size rfl t]
    exact h

/-! ## 4. Runs with edits left out -/

/-- What can be seen after those edits of a run that are chosen, in order. -/
def statesAfter (chosen : Edit → Bool) (s : Style) (edits : List Edit) : List State :=
  ((edits.zip (states s edits)).filter fun seen => chosen seen.1).map Prod.snd

theorem statesAfter_cons_of_pos {chosen : Edit → Bool} {e : Edit} (h : chosen e = true) (s : Style)
    (edits : List Edit) :
    statesAfter chosen s (e :: edits) =
      ⟨s.edit e, e.refusal?, e.logs⟩ :: statesAfter chosen (s.edit e) edits := by
  simp [statesAfter, states, h]

theorem statesAfter_cons_of_neg {chosen : Edit → Bool} {e : Edit} (h : ¬ chosen e = true)
    (s : Style) (edits : List Edit) :
    statesAfter chosen s (e :: edits) = statesAfter chosen (s.edit e) edits := by
  simp [statesAfter, states, h]

/-- **Edits that change nothing leave no trace**: what can be seen after the others is the same in
the run without them. -/
theorem statesAfter_eq_states_filter {kept : Edit → Bool} {edits : List Edit}
    (hskip : ∀ e ∈ edits, ¬ kept e = true → ∀ s : Style, s.edit e = s) (s : Style) :
    statesAfter kept s edits = states s (edits.filter kept) := by
  induction edits generalizing s with
  | nil => rfl
  | cons e edits ih =>
    have hrest := ih fun d hd => hskip d (List.mem_cons_of_mem e hd)
    by_cases hkept : kept e = true
    · rw [List.filter_cons_of_pos hkept, statesAfter_cons_of_pos hkept, states, hrest]
    · rw [List.filter_cons_of_neg hkept, statesAfter_cons_of_neg hkept,
        hskip e List.mem_cons_self hkept, hrest]

/-- Whether in a run of edits those that are kept decide a view of the style: the others leave it
as it is, and no edit brings into it what is not in view. -/
structure Decides {α : Type} (kept : Edit → Bool) (view : Style → α) (edits : List Edit) :
    Prop where
  step : ∀ e ∈ edits, ∀ s t : Style, view s = view t → view (s.edit e) = view (t.edit e)
  skip : ∀ e ∈ edits, ¬ kept e = true → ∀ s : Style, view (s.edit e) = view s

namespace Decides

variable {α : Type} {kept : Edit → Bool} {view : Style → α} {e : Edit} {edits : List Edit}

theorem tail (h : Decides kept view (e :: edits)) : Decides kept view edits where
  step d hd := h.step d (List.mem_cons_of_mem e hd)
  skip d hd := h.skip d (List.mem_cons_of_mem e hd)

/-- **The view after the kept edits is the same in the run without the others.** -/
theorem statesAfter_filter (h : Decides kept view edits) {s t : Style} (hview : view s = view t) :
    (statesAfter kept s edits).map (fun seen => view seen.style) =
      (statesAfter kept t (edits.filter kept)).map fun seen => view seen.style := by
  induction edits generalizing s t with
  | nil => rfl
  | cons e edits ih =>
    by_cases hkept : kept e = true
    · have hnext := h.step e List.mem_cons_self s t hview
      rw [List.filter_cons_of_pos hkept, statesAfter_cons_of_pos hkept,
        statesAfter_cons_of_pos hkept, List.map_cons, List.map_cons, hnext, ih h.tail hnext]
    · have hskip : view (s.edit e) = view t :=
        (h.skip e List.mem_cons_self hkept s).trans hview
      rw [List.filter_cons_of_neg hkept, statesAfter_cons_of_neg hkept, ih h.tail hskip]

/-- **The view at the end of a run is the same in the run without the others.** -/
theorem run_filter (h : Decides kept view edits) {s t : Style} (hview : view s = view t) :
    view (s.run edits) = view (t.run (edits.filter kept)) := by
  induction edits generalizing s t with
  | nil => exact hview
  | cons e edits ih =>
    by_cases hkept : kept e = true
    · rw [List.filter_cons_of_pos hkept, run_cons, run_cons]
      exact ih h.tail (h.step e List.mem_cons_self s t hview)
    · have hskip : view (s.edit e) = view t :=
        (h.skip e List.mem_cons_self hkept s).trans hview
      rw [List.filter_cons_of_neg hkept, run_cons]
      exact ih h.tail hskip

end Decides

end Style

end LoadingIndicator
