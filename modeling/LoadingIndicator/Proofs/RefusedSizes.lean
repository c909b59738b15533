/-
# Sizes that are refused in a run

Two edits read a size from a text, and they part where the text names none.  Read strictly, the text
is handed back and the style stays as it was.  Read leniently, it is reported in the log and the
standard size is taken, whatever the size was before.  Over a run this means that an edit of the
first kind leaves no trace, while one of the second kind chooses a size like any other edit.

So the size at the end of a run is told by the edits alone: it is the one that was chosen last.  The
log is told by the edits too, since nothing but a lenient refusal writes to it.

Main statement:

* `refused_sizes_in_runs`: what refused sizes do to the states, the size and the log of a run, and
  that for a text that is read both ways of reading are one.
-/
import Mathlib.Data.List.Basic
import LoadingIndicator.Style.Edit

namespace LoadingIndicator

/-! ## 1. What an edit does with a size -/

namespace Size

/-- Whether a text is refused. -/
def refuses (text : String) : Bool := (parse text).toOption.isNone

theorem refuses_of_ok {text : String} {z : Size} (h : parse text = .ok z) :
    refuses text = false := by
  rw [refuses, h]
  rfl

theorem refuses_of_error {text : String} {e : UnknownSize} (h : parse text = .error e) :
    refuses text = true := by
  rw [refuses, h]
  rfl

/-- **A text is refused exactly if it names no size.** -/
theorem refuses_iff {text : String} : refuses text = true ↔ ∀ z, parse text ≠ .ok z := by
  constructor
  · intro h z hz
    rw [refuses_of_ok hz] at h
    cases h
  · intro h
    exact refuses_of_error (parse_eq_error h)

end Size

namespace Edit

/-- Whether an edit is handed back. -/
def refused (e : Edit) : Bool := e.refusal?.isSome

/-- The size that an edit chooses, whatever the style is.  A lenient reading always chooses one. -/
def choice? : Edit → Option Size
  | .withSize z => some z
  | .setSize z => some z
  | .parseSize text => (Size.parse text).toOption
  | .attributeSize value =>
    some ((value.bind fun text => (Size.parse text).toOption).getD .standard)
  | .reset => some .standard
  | _ => none

/-- The text that an edit reports. -/
def reported? : Edit → Option String
  | .attributeSize value => value.filter Size.refuses
  | _ => none

/-- **What is handed back** is a strict reading of a text that names no size. -/
theorem refused_iff {e : Edit} :
    e.refused = true ↔ ∃ text, e = .parseSize text ∧ ∀ z, Size.parse text ≠ .ok z := by
  constructor
  · intro h
    cases e with
    | parseSize text =>
      refine ⟨text, rfl, ?_⟩
      intro z hz
      rw [refused, refusal?_of_ok hz] at h
      cases h
    | _ => cases h
  · rintro ⟨text, rfl, hread⟩
    rw [refused, refusal?_of_error (Size.parse_eq_error hread)]
    rfl

/-- **What is reported** is a lenient reading of a text that names no size. -/
theorem reported?_eq_some_iff {e : Edit} {text : String} :
    e.reported? = some text ↔
      e = .attributeSize (some text) ∧ ∀ z, Size.parse text ≠ .ok z := by
  cases e with
  | attributeSize value =>
    rw [reported?, Option.filter_eq_some_iff, Size.refuses_iff, attributeSize.injEq]
  | _ => exact iff_of_false (fun h => nomatch h) (fun h => nomatch h.1)

/-- **An edit logs the text that it reports**, and nothing else. -/
theorem logs_eq (e : Edit) :
    e.logs = (e.reported?.map fun text => UnknownSize.warning ⟨text⟩).toList := by
  cases e with
  | attributeSize value =>
    cases value with
    | none => rfl
    | some text =>
      cases hread : Size.parse text with
      | ok z =>
        rw [logs, Size.ofAttribute_of_ok hread, reported?,
          Option.filter_some_neg (Size.refuses_of_ok hread)]
        rfl
      | error d =>
        rw [logs, Size.ofAttribute_of_error hread, reported?,
          Option.filter_some_pos (Size.refuses_of_error hread), ← Size.value_of_parse hread]
        rfl
  | _ => rfl

end Edit

namespace Style

/-- **The size after an edit** is the one that it chooses, and else the one before. -/
theorem size_edit (s : Style) (e : Edit) : (s.edit e).size = e.choice?.getD s.size := by
  cases e with
  | parseSize text =>
    cases hread : Size.parse text with
    | ok z =>
      rw [edit_parseSize_of_ok hread, Edit.choice?, hread]
      rfl
    | error d =>
      rw [edit_parseSize_of_error hread, Edit.choice?, hread]
      rfl
  | attributeSize value =>
    rw [edit_attributeSize]
    cases value with
    | none => rfl
    | some text =>
      cases hread : Size.parse text with
      | ok z =>
        rw [Size.ofAttribute_of_ok hread, Edit.choice?, Option.bind_some, hread]
        rfl
      | error d =>
        rw [Size.ofAttribute_of_error hread, Edit.choice?, Option.bind_some, hread]
        rfl
  | withSize z => rfl
  | setSize z => rfl
  | reset => rfl
  -- what is left chooses no size and sets the added classes alone
  | withClass c => exact size_edit_of_className rfl s
  | setClass c => exact size_edit_of_className rfl s
  | clearClass => exact size_edit_of_className rfl s
  | foldContainer => exact size_edit_of_className rfl s
  | foldIndicator => exact size_edit_of_className rfl s

/-! ## 2. Runs -/

/-- **The size at the end of a run** is the one that was chosen last. -/
theorem size_run (s : Style) (edits : List Edit) :
    (s.run edits).size = (edits.filterMap Edit.choice?).getLast?.getD s.size := by
  induction edits generalizing s with
  | nil => rfl
  | cons e edits ih =>
    rw [run_cons, ih, size_edit, List.filterMap_cons]
    -- the choice of the first edit shows only where no later edit makes one
    cases hchoice : e.choice? with
    | none => rfl
    | some z => rw [List.getLast?_cons, Option.getD_some, Option.getD_some]

/-- **The lines that a run logs** after each of its edits are told by the edit alone. -/
theorem logs_states (s : Style) (edits : List Edit) :
    (states s edits).map State.logs =
      edits.map fun e => (e.reported?.map fun text => UnknownSize.warning ⟨text⟩).toList := by
  induction edits generalizing s with
  | nil => rfl
  | cons e edits ih => rw [states, List.map_cons, List.map_cons, ih, Edit.logs_eq]

/-- **The log of a run** holds a warning for each text that is reported, in order. -/
theorem log_run (s : Style) (edits : List Edit) :
    (states s edits).flatMap State.logs =
      (edits.filterMap Edit.reported?).map fun text => UnknownSize.warning ⟨text⟩ := by
  calc (states s edits).flatMap State.logs
      = ((states s edits).map State.logs).flatten := List.flatMap_def
    _ = edits.flatMap fun e =>
          (e.reported?.map fun text => UnknownSize.warning ⟨text⟩).toList := by
        rw [logs_states, ← List.flatMap_def]
    _ = edits.filterMap fun e => e.reported?.map fun text => UnknownSize.warning ⟨text⟩ :=
        (List.filterMap_eq_flatMap_toList _ _).symm
    _ = (edits.filterMap Edit.reported?).map fun text => UnknownSize.warning ⟨text⟩ :=
        List.map_filterMap.symm

theorem countP_warn_run (s : Style) (edits : List Edit) :
    ((states s edits).flatMap State.logs).countP (fun line => line.level == .warn) =
      edits.countP fun e => e.reported?.isSome := by
  have hall : ∀ line ∈ (edits.filterMap Edit.reported?).map fun text => UnknownSize.warning ⟨text⟩,
      (line.level == .warn) = true := by
    intro line hline
    obtain ⟨text, -, rfl⟩ := List.mem_map.mp hline
    rfl
  rw [log_run, List.countP_eq_length.mpr hall, List.length_map, List.length_filterMap_eq_countP]

theorem edit_of_refused {e : Edit} (h : e.refused = true) (s : Style) : s.edit e = s := by
  obtain ⟨text, rfl, hread⟩ := Edit.refused_iff.mp h
  exact edit_parseSize_of_error (Size.parse_eq_error hread) s

/-- **A lenient reading of no text, or of one that names no size, resets the size.** -/
theorem edit_attributeSize_of_unread {value : Option String}
    (h : ∀ text ∈ value, ∀ z, Size.parse text ≠ .ok z) (s : Style) :
    s.edit (.attributeSize value) = s.withSize .medium := by
  rw [edit_attributeSize]
  cases value with
  | none => rfl
  | some text =>
    rw [Size.ofAttribute_of_error (Size.parse_eq_error (h text rfl))]
    rfl

/-- **A text that is read gives the same states either way**, anywhere in a run. -/
theorem states_of_read {text : String} {z : Size} (h : Size.parse text = .ok z) (s : Style)
    (before after : List Edit) :
    states s (before ++ .parseSize text :: after) =
      states s (before ++ .attributeSize (some text) :: after) := by
  have hlenient : Size.ofAttribute (some text) = (z, []) := Size.ofAttribute_of_ok h
  have hlogs : (Edit.attributeSize (some text)).logs = [] := by rw [Edit.logs, hlenient]
  have hedit : ∀ t : Style, t.edit (.parseSize text) = t.edit (.attributeSize (some text)) := by
    intro t
    rw [edit_parseSize_of_ok h, edit_attributeSize, hlenient]
  rw [states_append, states_append, states, states, hedit, Edit.refusal?_of_ok h, hlogs]
  rfl

/-! ## 3. Strict and lenient refusals -/

/-- **A strict refusal leaves the style as it was, and a lenient one resets the size.**  In a run of
edits the strict readings of texts that name no size leave no trace: what can be seen after the
other edits, the log among it, is the same without them.  The size at the end is the one that was
chosen last, and the first one where none was chosen; a lenient reading of no text, or of one that
names no size, chooses the standard size.  A run logs one warning for each lenient reading of a text
that names no size, in order, and nothing else.  Where a text names a size, the two ways of reading
are the same edit. -/
theorem refused_sizes_in_runs (s : Style) (edits : List Edit) :
    (∀ text : String, (∀ z, Size.parse text ≠ .ok z) → ∀ t : Style,
        t.edit (.parseSize text) = t ∧
          t.edit (.attributeSize (some text)) = t.withSize .medium) ∧
      (∀ e : Edit, e.refused = true ↔
        ∃ text, e = .parseSize text ∧ ∀ z, Size.parse text ≠ .ok z) ∧
      statesAfter (fun e => !e.refused) s edits = states s (edits.filter fun e => !e.refused) ∧
      (s.run edits).size = (edits.filterMap Edit.choice?).getLast?.getD s.size ∧
      (standard.run edits).size = (edits.filterMap Edit.choice?).getLast?.getD .medium ∧
      (∀ value : Option String, (∀ text ∈ value, ∀ z, Size.parse text ≠ .ok z) →
        (s.run (edits ++ [.attributeSize value])).size = .medium) ∧
      (∀ (e : Edit) (text : String), e.reported? = some text ↔
        e = .attributeSize (some text) ∧ ∀ z, Size.parse text ≠ .ok z) ∧
      (states s edits).map State.logs = edits.map (fun e =>
        (e.reported?.map fun text => UnknownSize.warning ⟨text⟩).toList) ∧
      (∀ (i : Nat) (text : String) (seen : State), edits[i]? = some (.parseSize text) →
        (states s edits)[i]? = some seen → seen.logs = []) ∧
      ((states s edits).flatMap State.logs).countP (fun line => line.level == .warn) =
        edits.countP (fun e => e.reported?.isSome) ∧
      ∀ (before after : List Edit) (text : String) (z : Size), Size.parse text = .ok z →
        states s (before ++ .parseSize text :: after) =
          states s (before ++ .attributeSize (some text) :: after) := by
  refine ⟨?_, fun e => Edit.refused_iff, ?_, size_run s edits, size_run standard edits, ?_,
    fun e text => Edit.reported?_eq_some_iff, logs_states s edits, ?_, countP_warn_run s edits, ?_⟩
  · intro text hread t
    refine ⟨edit_parseSize_of_error (Size.parse_eq_error hread) t, ?_⟩
    refine edit_attributeSize_of_unread ?_ t
    rintro unread ⟨⟩
    exact hread
  · refine statesAfter_eq_states_filter ?_ s
    intro e _ hkept
    exact edit_of_refused (by simpa using hkept)
  · intro value hread
    rw [run_append, run_cons, run_nil, edit_attributeSize_of_unread hread]
    rfl
  · intro i text seen hedit hseen
    have hlogs := congrArg (fun lines => lines[i]?) (logs_states s edits)
    simp only [List.getElem?_map, hedit, hseen, Option.map_some] at hlogs
    exact Option.some.inj hlogs
  · intro before after text z hread
    exact states_of_read hread s before after

/-- A size is refused strictly, another one leniently, and a padded one is read. -/
theorem refused_sizes_in_runs_mixed :
    let edits : List Edit := [.setSize .large, .parseSize "xl", .withClass "p-4",
      .attributeSize (some "huge"), .parseSize " Small ", .foldContainer]
    statesAfter (fun e => !e.refused) standard edits =
        states standard [.setSize .large, .withClass "p-4", .attributeSize (some "huge"),
          .parseSize " Small ", .foldContainer] ∧
      (standard.run edits).size = .small ∧
      (Style.mk .large none).edit (.parseSize "xl") = Style.mk .large none ∧
      (standard.run ([.setSize .large] ++ [.attributeSize (some "huge")])).size = .medium ∧
      (states standard edits).map State.logs =
        [[], [], [], [UnknownSize.warning ⟨"huge"⟩], [], []] ∧
      states standard ([.setSize .large] ++ .parseSize " Small " :: [.foldIndicator]) =
        states standard ([.setSize .large] ++ .attributeSize (some " Small ") ::
          [.foldIndicator]) := by
  intro edits
  have hnames : ∀ s ∈ ["xl", "huge"], Size.refuses s = true := by decide +kernel
  have hrefused : ∀ s ∈ ["xl", "huge"], ∀ z, Size.parse s ≠ .ok z := by
    intro s hs
    exact Size.refuses_iff.mp (hnames s hs)
  have hsmall : Size.parse " Small " = .ok .small := by
    rw [Size.parse_eq_ok_iff]
    decide +kernel
  obtain ⟨hedit, -, hstates, -, hsize, -, -, hlogs, -, -, hread⟩ :=
    refused_sizes_in_runs standard edits
  obtain ⟨-, -, -, -, -, hreset, -⟩ := refused_sizes_in_runs standard [.setSize .large]
  refine ⟨?_, ?_, ?_, ?_, ?_, ?_⟩
  · rw [hstates]
    exact congrArg (states standard) (by decide +kernel)
  · rw [hsize]
    decide +kernel
  · exact (hedit "xl" (hrefused "xl" (by simp)) _).1
  · refine hreset (some "huge") ?_
    rintro text ⟨⟩
    exact hrefused "huge" (by simp)
  · rw [hlogs]
    decide +kernel
  · exact hread [.setSize .large] [.foldIndicator] " Small " .small hsmall

end Style

end LoadingIndicator
