/-
# Sizes in texts that go on

What the reader of sizes made of a text, seen from a longer one.  A failure other than the end of
the text stays as it is, with one exception: a number in the place of an entry's value may go on,
and then it is another number that is reported.  It is refused all the same.

Main statements:

* `persists_scanSize`: what is taken as a size is taken again, and what is refused is refused
  again;
* `decodeText_append_of_error`: failures that stay as they are;
* `decodeText_append_ne_ok`: no text that was refused becomes right.
-/
import LoadingIndicator.Json.Continued
import LoadingIndicator.Size.Text

namespace LoadingIndicator.Size

open Json (BeginsNumber Persists Spaces persists_skipSpace skipSpace spaces_nil withMore)

/-! ## 1. A number for a value -/

/-- Whether a text has a number where the value of an entry stands, behind a key that names a
size. -/
def NumberAsValue (cs : List Char) : Prop :=
  ∃ (z : Size) (front rest : List Char), cs = front ++ rest ∧ EndsAtValue z front ∧
    BeginsNumber rest

theorem NumberAsValue.of_skipSpace {cs : List Char} (h : NumberAsValue (skipSpace cs)) :
    NumberAsValue cs := by
  obtain ⟨z, _, rest, hcs, ⟨before, front, rfl, hbefore, hfront⟩, hrest⟩ := h
  obtain ⟨w, hw, happ⟩ := Json.exists_skipSpace cs
  have hspaces : Spaces (w ++ before) := List.forall_mem_append.mpr ⟨hw, hbefore⟩
  refine ⟨z, w ++ before ++ front, rest, ?_, ⟨w ++ before, front, rfl, hspaces, hfront⟩, hrest⟩
  rw [happ, hcs]
  simp

theorem NumberAsValue.append {cs : List Char} (h : NumberAsValue cs) (more : List Char) :
    NumberAsValue (cs ++ more) := by
  obtain ⟨z, front, rest, hcs, hfront, c, tail, hrest, hc⟩ := h
  refine ⟨z, front, rest ++ more, ?_, hfront, c, tail ++ more, ?_, hc⟩
  · rw [hcs, List.append_assoc]
  · rw [hrest, List.cons_append]

/-- A number begins with neither white space nor a character that begins a size or null. -/
theorem head_of_beginsNumber {cs : List Char} (h : BeginsNumber cs) :
    ∃ c rest, cs = c :: rest ∧ Json.isSpace c = false ∧ c ≠ '"' ∧ c ≠ '{' ∧ c ≠ 'n' := by
  obtain ⟨c, rest, rfl, hc⟩ := h
  have hother : c ∉ [' ', '\t', '\n', '\r', '"', '{', 'n'] := by
    rcases hc with rfl | hdigit
    · decide
    · intro hmem
      have hnone : ([' ', '\t', '\n', '\r', '"', '{', 'n'].all fun d => !d.isDigit) = true := by
        decide
      have hno := List.all_eq_true.mp hnone c hmem
      rw [hdigit] at hno
      cases hno
  simp only [List.mem_cons, List.not_mem_nil, or_false, not_or] at hother
  obtain ⟨hblank, htab, hline, hreturn, hquote, hbrace, hnull⟩ := hother
  refine ⟨c, rest, rfl, ?_, hquote, hbrace, hnull⟩
  simp [Json.isSpace, hblank, htab, hline, hreturn]

/-- **A number is no value of an entry.** -/
theorem decodeText_ne_ok_of_number {text : String} (h : NumberAsValue text.toList) (z : Size) :
    decodeText text ≠ .ok z := by
  obtain ⟨y, _, rest, htext, ⟨before, front, rfl, hbefore, hfront⟩, hrest⟩ := h
  intro hread
  have hskip : skipSpace text.toList = front ++ rest := by
    rw [htext, List.append_assoc, Json.skipSpace_append hbefore, skipSpace_of_valueFront hfront]
  obtain ⟨c, tail, rfl, hspace, -, -, hnull⟩ := head_of_beginsNumber hrest
  rw [decodeText, hskip, scanSize_of_valueFront hfront, Json.skipSpace_cons hspace] at hread
  cases hunit : scanUnit (c :: tail) with
  | ok last => exact hnull (List.cons.inj (scanUnit_eq_ok_iff.mp hunit)).1
  | error e =>
    rw [bind_of_error hunit] at hread
    cases hread

/-! ## 2. Scanners of sizes -/

theorem persists_scanName (cs more : List Char) :
    Persists (.text .ended) (withMore more) (scanName cs) (scanName (cs ++ more)) := by
  rw [scanName, scanName]
  rcases (Json.persists_scanString cs more).split with ⟨s, rest, hx, hy⟩ | ⟨f, hx, hy⟩ | hx
  · rw [hx, hy]
    dsimp only
    cases decodeName s with
    | error e => exact .refused _
    | ok z => exact .front z rest more
  · rw [hx, hy]
    exact .refused _
  · rw [hx]
    exact .unsettled _

theorem persists_scanKey (cs more : List Char) :
    Persists (.text .ended) (withMore more) (scanKey cs) (scanKey (cs ++ more)) := by
  rcases cs with _ | ⟨c, cs⟩
  · exact .unsettled _
  · rw [List.cons_append, scanKey, scanKey]
    split
    · exact persists_scanName cs more
    · exact .refused _

theorem persists_scanMark (d : Json.Defect) (c : Char) (cs more : List Char) :
    Persists (.text .ended) (· ++ more) (scanMark d c cs) (scanMark d c (cs ++ more)) := by
  have hword : Persists .ended (· ++ more) (Json.scanWord d [c] (skipSpace cs))
      (Json.scanWord d [c] (skipSpace (cs ++ more))) :=
    persists_skipSpace _ rfl (Json.persists_scanWord d [c] (skipSpace cs) more)
  rw [scanMark, scanMark]
  rcases hword.elim with ⟨rest, hx, hy⟩ | ⟨f, hx, hy⟩ | hx
  · rw [hx, hy]
    exact .taken rest
  · rw [hx, hy]
    exact .refused _
  · rw [hx]
    exact .unsettled _

theorem persists_scanUnit {cs : List Char} (h : ¬ BeginsNumber cs) (more : List Char) :
    Persists (.text .ended) (· ++ more) (scanUnit cs) (scanUnit (cs ++ more)) := by
  rw [scanUnit, scanUnit]
  rcases (Json.persists_scanKind h more).split with ⟨kind, rest, hx, hy⟩ | ⟨f, hx, hy⟩ | hx
  · rw [hx, hy]
    cases kind with
    | null => exact .taken rest
    | bool | number | string | sequence | map => exact .refused _
  · rw [hx, hy]
    exact .refused _
  · rw [hx]
    exact .unsettled _

/-- What was taken up to the value of an entry is the front of an object. -/
theorem valueFront_of_scan {cs behind value : List Char} {z : Size}
    (hkey : scanKey (skipSpace cs) = .ok (z, behind))
    (hcolon : scanMark .noColon ':' behind = .ok value) :
    ∃ front, '{' :: cs = front ++ skipSpace value ∧ ValueFront z.name front := by
  obtain ⟨spelled, hfront, hspells⟩ := exists_of_scanKey hkey
  obtain ⟨w₁, h₁, rfl⟩ := (Json.skipSpace_eq_cons_iff (by decide)).mp hfront
  obtain ⟨w₂, h₂, rfl⟩ := (scanMark_eq_ok_iff (by decide)).mp hcolon
  obtain ⟨w₃, h₃, hvalue⟩ := Json.exists_skipSpace value
  refine ⟨'{' :: (w₁ ++ literal spelled) ++ w₂ ++ ':' :: w₃, ?_, .mk (.mk h₁ hspells) h₂ h₃⟩
  have happ : w₃ ++ skipSpace value = value := hvalue.symm
  simp [literal, happ]

theorem persists_scanObject {cs : List Char} (h : ¬ NumberAsValue ('{' :: cs)) (more : List Char) :
    Persists (.text .ended) (withMore more) (scanObject cs) (scanObject (cs ++ more)) := by
  rw [scanObject, scanObject]
  refine (persists_skipSpace scanKey rfl (persists_scanKey (skipSpace cs) more)).bind ?_
  rintro ⟨z, behind⟩ hkey
  refine (persists_scanMark .noColon ':' behind more).bind ?_
  intro value hcolon
  have hnumber : ¬ BeginsNumber (skipSpace value) := by
    intro hbegins
    obtain ⟨front, hcs, hfront⟩ := valueFront_of_scan hkey hcolon
    exact h ⟨z, front, skipSpace value, hcs, ⟨[], front, rfl, spaces_nil, hfront⟩, hbegins⟩
  refine (persists_skipSpace scanUnit rfl (persists_scanUnit hnumber more)).bind ?_
  intro last _
  refine (persists_scanMark .noValue '}' last more).bind ?_
  intro rest _
  exact .front z rest more

/-- **A size in either form.** -/
theorem persists_scanSize {cs : List Char} (h : ¬ NumberAsValue cs) (more : List Char) :
    Persists (.text .ended) (withMore more) (scanSize cs) (scanSize (cs ++ more)) := by
  rcases cs with _ | ⟨c, cs⟩
  · exact .unsettled _
  · rw [List.cons_append, scanSize, scanSize]
    split
    · exact persists_scanName cs more
    · split
      · rename_i hbrace
        rw [hbrace] at h
        exact persists_scanObject h more
      · exact .refused _

/-! ## 3. Texts of sizes -/

/-- **A failure other than the end of the text is final**, unless a number stands for the value of
an entry. -/
theorem decodeText_append_of_error {text : String} {e : TextError} (h : decodeText text = .error e)
    (he : e ≠ .text .ended) (hnumber : ¬ NumberAsValue text.toList) (more : String) :
    decodeText (text ++ more) = .error e := by
  have hsize : Persists (.text .ended) (withMore more.toList) (scanSize (skipSpace text.toList))
      (scanSize (skipSpace (text.toList ++ more.toList))) :=
    persists_skipSpace scanSize rfl
      (persists_scanSize (fun hskip => hnumber hskip.of_skipSpace) more.toList)
  rw [decodeText] at h
  rw [decodeText, String.toList_append]
  rcases hsize.split with ⟨z, rest, hx, hy⟩ | ⟨f, hx, hy⟩ | hx
  · rw [hx] at h
    rw [hy]
    dsimp only at h ⊢
    cases hskip : skipSpace rest with
    | nil =>
      rw [hskip] at h
      cases h
    | cons c tail =>
      rw [hskip] at h
      rw [Json.skipSpace_append_of_cons hskip]
      exact h
  · rw [hx] at h
    rw [hy]
    exact h
  · rw [hx] at h
    exact absurd (Except.error.inj h).symm he

/-- **A text that was refused does not become right**, whatever is added to it. -/
theorem decodeText_append_ne_ok {text : String} {e : TextError} (h : decodeText text = .error e)
    (he : e ≠ .text .ended) (more : String) (z : Size) : decodeText (text ++ more) ≠ .ok z := by
  by_cases hnumber : NumberAsValue text.toList
  · refine decodeText_ne_ok_of_number ?_ z
    rw [String.toList_append]
    exact hnumber.append more.toList
  · rw [decodeText_append_of_error h he hnumber]
    intro hok
    cases hok

end LoadingIndicator.Size
